import DocIndex.Object.Identifier

/-!
# Patterns

What a query asks for: an object with wildcards in place of some of its parts. A pattern is written
as an identifier is, with an underscore for each wildcard; any other word asks for a name or for
the label of a section.
-/

namespace DocIndex

inductive Pattern where
  | any
  /-- Anything with this name, or the section with this label. -/
  | named (name : String)
  | heading (level : Option UInt8) (number label file : Option String)
  | callable (name : Option String) (arity : Option UInt32)
  | grammar (name : Option String) (arity : Option UInt32)
  | qualified (module : Option String) (inner : Pattern)
  | function (name : Option String) (arity : Option UInt32)
  | symbol (name : Option String)
deriving DecidableEq, Repr

namespace Pattern

/-- The pattern without wildcards that an object is. -/
def exact : Object → Pattern
  | .heading level number label file =>
    .heading (some level) (some number) (some label) (some file)
  | .callable name arity => .callable (some name) (some arity)
  | .grammar name arity => .grammar (some name) (some arity)
  | .qualified module inner => .qualified (some module) (exact inner)
  | .function name arity => .function (some name) (some arity)
  | .symbol name => .symbol (some name)

def sections (level : Option UInt8) : Pattern :=
  .heading level none none none

def labelled (label : String) : Pattern :=
  .heading none none (some label) none

/-- A part of a pattern: a wildcard allows every value. -/
def allows {α : Type} [DecidableEq α] (part : Option α) (value : α) : Bool :=
  part.all (· = value)

def isMatch : Pattern → Object → Bool
  | any, _ => true
  | named name, .heading _ _ label _ => name = label
  | named name, object => object.name? = some name
  | heading level number label file, .heading level' number' label' file' =>
    allows level level' && allows number number' && allows label label' && allows file file'
  | callable name arity, .callable name' arity' => allows name name' && allows arity arity'
  | grammar name arity, .grammar name' arity' => allows name name' && allows arity arity'
  | qualified module inner, .qualified module' inner' =>
    allows module module' && inner.isMatch inner'
  | function name arity, .function name' arity' => allows name name' && allows arity arity'
  | symbol name, .symbol name' => allows name name'
  | _, _ => false

/-- What a module, known or not, may qualify in a pattern. -/
def isCallable : Pattern → Bool
  | any => true
  | callable .. => true
  | grammar .. => true
  | _ => false

def isWildcard (cs : List Char) : Bool :=
  cs = ['_']

/-- A number of arguments as patterns write it. -/
def isArity (cs : List Char) : Bool :=
  Object.isNumeral cs || isWildcard cs

def splitModule? : List Char → Option (List Char × List Char)
  | '_' :: ':' :: rest => if Object.followsColon rest then some (['_'], rest) else none
  | cs => Object.splitModule? cs

theorem length_splitModule? {cs module rest : List Char}
    (h : splitModule? cs = some (module, rest)) : rest.length < cs.length := by
  unfold splitModule? at h
  split at h
  · split at h
    · simp only [Option.some.injEq, Prod.mk.injEq] at h
      rw [← h.2, List.length_cons, List.length_cons]
      omega
    · contradiction
  · exact Object.length_splitModule? h

/-- A written part of a pattern, which the function reads unless it is a wildcard. -/
def part? {α : Type} (read : List Char → Option α) (cs : List Char) : Option (Option α) :=
  if isWildcard cs then some none else (read cs).map some

def ofForm? : Object.Form → Option Pattern
  | .grammar name arity =>
    do return grammar (← part? Object.unwrapName? name) (← part? Object.arity? arity)
  | .callable name arity =>
    do return callable (← part? Object.unwrapName? name) (← part? Object.arity? arity)
  | .function name arity =>
    do return function (← part? Object.unwrapName? name) (← part? Object.arity? arity)
  | .symbol name => do return symbol (← part? Object.unwrapName? name)

def ofPlain? (token : List Char) : Option Pattern :=
  match Object.form? isArity token with
  | some form => ofForm? form
  | none => if Object.isWrittenName token then some (named (String.ofList token)) else none

/-- The pattern that a text without blanks around it writes. What looks like a module but qualifies
nothing that can be called is part of a name. -/
def ofToken? (token : List Char) : Option Pattern :=
  if isWildcard token then some any
  else
    match _h : splitModule? token with
    | some (module, rest) =>
      match (ofToken? rest).filter isCallable with
      | some inner => (part? (fun cs => some (String.ofList cs)) module).map (qualified · inner)
      | none => ofPlain? token
    | none => ofPlain? token
termination_by token.length
decreasing_by exact length_splitModule? _h

def ofText (text : String) : Except NotIdentifier Pattern :=
  let token := Text.trim text.toList
  match ofToken? token with
  | some pattern => .ok pattern
  | none => .error ⟨String.ofList token⟩

end Pattern

end DocIndex
