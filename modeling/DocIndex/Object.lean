import DocIndex.Text.Digits

/-!
# Documented objects

What a piece of documentation documents: a section of a page, or something that can be called or
named in a program.
-/

namespace DocIndex

/-- The key of an index record. -/
inductive Object where
  /-- A section heading. Level 0 is the title of a whole page, with the page's local path for its
  label. -/
  | heading (level : UInt8) (number label file : String)
  /-- A predicate, by name and number of arguments. -/
  | callable (name : String) (arity : UInt32)
  /-- A grammar rule, which is called with two further arguments. -/
  | grammar (name : String) (arity : UInt32)
  /-- An object in a module. -/
  | qualified (module : String) (inner : Object)
  /-- A function of arithmetic. -/
  | function (name : String) (arity : UInt32)
  /-- A symbol of the foreign interface. -/
  | symbol (name : String)
deriving DecidableEq, Repr

namespace Object

def name? : Object → Option String
  | heading .. => none
  | callable name _ => some name
  | grammar name _ => some name
  | qualified _ inner => inner.name?
  | function name _ => some name
  | symbol name => some name

def isHeading : Object → Bool
  | heading .. => true
  | _ => false

/-- What a module may qualify. -/
def isCallable : Object → Bool
  | callable .. => true
  | grammar .. => true
  | _ => false

def rank : Object → Nat
  | heading .. => 0
  | callable .. => 1
  | grammar .. => 2
  | qualified .. => 3
  | function .. => 4
  | symbol .. => 5

/-- The order of objects: by kind, then by their parts from left to right. -/
def compare : Object → Object → Ordering
  | heading level number label file, heading level' number' label' file' =>
    (Ord.compare level level').then <| (Ord.compare number number').then <|
      (Ord.compare label label').then (Ord.compare file file')
  | callable name arity, callable name' arity' =>
    (Ord.compare name name').then (Ord.compare arity arity')
  | grammar name arity, grammar name' arity' =>
    (Ord.compare name name').then (Ord.compare arity arity')
  | qualified module inner, qualified module' inner' =>
    (Ord.compare module module').then (compare inner inner')
  | function name arity, function name' arity' =>
    (Ord.compare name name').then (Ord.compare arity arity')
  | symbol name, symbol name' => Ord.compare name name'
  | a, b => Ord.compare a.rank b.rank

def sort (objects : List Object) : List Object :=
  objects.mergeSort fun a b => (compare a b).isLE

end Object

end DocIndex
