import DocIndex.Object
import DocIndex.Text.Blank
import DocIndex.Text.Quoted

/-!
# Identifiers

The texts that name objects: `Name/Arity` for a predicate, `Name//Arity` for a grammar rule, either
of them behind `Module:`, `f(Name/Arity)` for a function and `c(Name)` for a symbol. A name may
stand in single quotes or in parentheses. Blanks around an identifier do not count.
-/

namespace DocIndex

/-- A text that is no identifier, without the blanks around it. -/
structure NotIdentifier where
  token : String
deriving DecidableEq, Repr

def NotIdentifier.message (failure : NotIdentifier) : String :=
  "not a documentation identifier: " ++ Text.quoted failure.token

namespace Object

/-- A small ASCII letter, which begins the name of a module. -/
def isModuleStart (c : Char) : Bool :=
  c.isLower

def isModulePart (c : Char) : Bool :=
  c.isAlphanum || c == '_'

/-- What may follow a module's colon: something that begins with no blank, on one line. -/
def followsColon (cs : List Char) : Bool :=
  cs.head?.any (!Text.isBlank ·) && !cs.contains '\n'

/-- The module and what follows its colon. -/
def splitModule? (cs : List Char) : Option (List Char × List Char) :=
  match cs, cs.dropWhile isModulePart with
  | first :: _, ':' :: rest =>
    if isModuleStart first && followsColon rest then some (cs.takeWhile isModulePart, rest)
    else none
  | _, _ => none

theorem length_splitModule? {cs module rest : List Char}
    (h : splitModule? cs = some (module, rest)) : rest.length < cs.length := by
  unfold splitModule? at h
  split at h
  next first after rest' dropped =>
    have shorter := Text.length_dropWhile_le isModulePart (first :: after)
    rw [dropped, List.length_cons] at shorter
    split at h
    · simp only [Option.some.injEq, Prod.mk.injEq] at h
      rw [← h.2]
      omega
    · contradiction
  next => contradiction

/-- A name as it is written: not empty and without blanks. -/
def isWrittenName (cs : List Char) : Bool :=
  !cs.isEmpty && cs.all (!Text.isBlank ·)

def splitSlash? (cs : List Char) : Option (List Char × List Char) :=
  match cs.reverse.dropWhile (· != '/') with
  | _ :: front => some (front.reverse, (cs.reverse.takeWhile (· != '/')).reverse)
  | [] => none

/-- What stands within `f(` or `c(` and a closing parenthesis. -/
def argument? (functor : Char) : List Char → Option (List Char)
  | c :: '(' :: rest =>
    if c = functor && rest.getLast? = some ')' then some rest.dropLast else none
  | _ => none

def mergeQuotes : List Char → List Char
  | '\'' :: '\'' :: rest => '\'' :: mergeQuotes rest
  | c :: rest => c :: mergeQuotes rest
  | [] => []

/-- A backslash before a quote is dropped. -/
def unescapeQuotes : List Char → List Char
  | '\\' :: '\'' :: rest => '\'' :: unescapeQuotes rest
  | c :: rest => c :: unescapeQuotes rest
  | [] => []

/-- The name without the quotes or parentheses around it, which must leave something. -/
def unwrapName? (cs : List Char) : Option String :=
  let name :=
    if Text.isWrapped '\'' '\'' cs then unescapeQuotes (mergeQuotes cs.tail.dropLast)
    else if Text.isWrapped '(' ')' cs && cs.length ≠ 2 then cs.tail.dropLast
    else cs
  if name.isEmpty then none else some (String.ofList name)

/-- The number of arguments that a numeral writes, if it is small enough. -/
def arity? (digits : List Char) : Option UInt32 :=
  (Text.decimal? digits).bind fun n => if n < UInt32.size then some (UInt32.ofNat n) else none

/-- The shapes of identifiers without a module, with the name and the number of arguments as they
are written. -/
inductive Form where
  | grammar (name arity : List Char)
  | callable (name arity : List Char)
  | function (name arity : List Char)
  | symbol (name : List Char)
deriving DecidableEq, Repr

/-- The shape of `Name//Arity` or `Name/Arity`, the former first. -/
def slashForm? (isArity : List Char → Bool) (cs : List Char) : Option Form := do
  let (name, arity) ← splitSlash? cs
  guard (isArity arity)
  match name.getLast? with
  | some '/' =>
    if isWrittenName name.dropLast then some (.grammar name.dropLast arity)
    else if isWrittenName name then some (.callable name arity)
    else none
  | _ => if isWrittenName name then some (.callable name arity) else none

def functionForm? (isArity : List Char → Bool) (cs : List Char) : Option Form := do
  let argument ← argument? 'f' cs
  let (name, arity) ← splitSlash? argument
  if isArity arity && isWrittenName name then some (.function name arity) else none

def symbolForm? (cs : List Char) : Option Form := do
  let name ← argument? 'c' cs
  if isWrittenName name then some (.symbol name) else none

/-- The shape of a text, given what counts as a number of arguments. -/
def form? (isArity : List Char → Bool) (cs : List Char) : Option Form :=
  (slashForm? isArity cs).or ((functionForm? isArity cs).or (symbolForm? cs))

/-- A number of arguments as identifiers write it. -/
def isNumeral (cs : List Char) : Bool :=
  !cs.isEmpty && cs.all Char.isDigit

namespace Form

def object? : Form → Option Object
  | grammar name arity => do return .grammar (← unwrapName? name) (← arity? arity)
  | callable name arity => do return .callable (← unwrapName? name) (← arity? arity)
  | function name arity => do return .function (← unwrapName? name) (← arity? arity)
  | symbol name => do return .symbol (← unwrapName? name)

end Form

/-- The object that a text without blanks around it names. What looks like a module must qualify
something that can be called. -/
def ofToken? (token : List Char) : Option Object :=
  match _h : splitModule? token with
  | some (module, rest) =>
    match ofToken? rest with
    | some inner =>
      if inner.isCallable then some (.qualified (String.ofList module) inner) else none
    | none => none
  | none => (form? isNumeral token).bind Form.object?
termination_by token.length
decreasing_by exact length_splitModule? _h

def ofIdentifier (text : String) : Except NotIdentifier Object :=
  let token := Text.trim text.toList
  match ofToken? token with
  | some object => .ok object
  | none => .error ⟨String.ofList token⟩

theorem ofIdentifier_eq_ok_iff {text : String} {object : Object} :
    ofIdentifier text = .ok object ↔ ofToken? (Text.trim text.toList) = some object := by
  cases read : ofToken? (Text.trim text.toList) <;> simp [ofIdentifier, read]

end Object

end DocIndex
