import DocIndex.Object
import DocIndex.Snapshot.Quoting

/-!
# The surface form of objects

Objects as they are shown to a reader, and as a snapshot writes them. The two differ in quoting:
a reader sees names as they are.
-/

namespace DocIndex.Object

/-- An object in terms of its parts, given how names are written. -/
def writeWith (writeName : List Char → List Char) : Object → List Char
  | heading level number label file =>
    "section(".toList ++ Text.decimal level.toNat ++ ',' :: Snapshot.quoteAtom number.toList ++
      ',' :: Snapshot.quoteAtom label.toList ++ ',' :: Snapshot.quoteAtom file.toList ++ [')']
  | callable name arity => writeName name.toList ++ '/' :: Text.decimal arity.toNat
  | grammar name arity => writeName name.toList ++ '/' :: '/' :: Text.decimal arity.toNat
  | qualified module inner => writeName module.toList ++ ':' :: inner.writeWith writeName
  | function name arity =>
    'f' :: '(' :: writeName name.toList ++ '/' :: Text.decimal arity.toNat ++ [')']
  | symbol name => 'c' :: '(' :: writeName name.toList ++ [')']

section
variable (writeName : List Char → List Char)

@[simp] theorem writeWith_callable (name : String) (arity : UInt32) :
    (callable name arity).writeWith writeName =
      writeName name.toList ++ '/' :: Text.decimal arity.toNat := rfl

@[simp] theorem writeWith_grammar (name : String) (arity : UInt32) :
    (grammar name arity).writeWith writeName =
      writeName name.toList ++ '/' :: '/' :: Text.decimal arity.toNat := rfl

@[simp] theorem writeWith_qualified (module : String) (inner : Object) :
    (qualified module inner).writeWith writeName =
      writeName module.toList ++ ':' :: inner.writeWith writeName := rfl

@[simp] theorem writeWith_function (name : String) (arity : UInt32) :
    (function name arity).writeWith writeName =
      'f' :: '(' :: writeName name.toList ++ '/' :: Text.decimal arity.toNat ++ [')'] := rfl

@[simp] theorem writeWith_symbol (name : String) :
    (symbol name).writeWith writeName = 'c' :: '(' :: writeName name.toList ++ [')'] := rfl

end

def surface (object : Object) : String :=
  String.ofList (object.writeWith id)

def write (object : Object) : List Char :=
  object.writeWith Snapshot.quoteAtom

@[simp] theorem write_heading (level : UInt8) (number label file : String) :
    (heading level number label file).write =
      "section(".toList ++ Text.decimal level.toNat ++ ',' :: Snapshot.quoteAtom number.toList ++
        ',' :: Snapshot.quoteAtom label.toList ++ ',' :: Snapshot.quoteAtom file.toList ++ [')'] :=
  rfl

@[simp] theorem write_callable (name : String) (arity : UInt32) :
    (callable name arity).write =
      Snapshot.quoteAtom name.toList ++ '/' :: Text.decimal arity.toNat := rfl

@[simp] theorem write_grammar (name : String) (arity : UInt32) :
    (grammar name arity).write =
      Snapshot.quoteAtom name.toList ++ '/' :: '/' :: Text.decimal arity.toNat := rfl

@[simp] theorem write_qualified (module : String) (inner : Object) :
    (qualified module inner).write =
      Snapshot.quoteAtom module.toList ++ ':' :: inner.write := rfl

@[simp] theorem write_function (name : String) (arity : UInt32) :
    (function name arity).write =
      'f' :: '(' :: Snapshot.quoteAtom name.toList ++ '/' :: Text.decimal arity.toNat ++ [')'] :=
  rfl

@[simp] theorem write_symbol (name : String) :
    (symbol name).write = 'c' :: '(' :: Snapshot.quoteAtom name.toList ++ [')'] := rfl

end DocIndex.Object
