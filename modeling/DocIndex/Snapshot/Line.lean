import DocIndex.Object.Surface
import DocIndex.Record
import DocIndex.Snapshot.Token

/-!
# Snapshot lines

A record is written on one line, `record(Object, Summary, File, Class, Offset).`, and read back
from its tokens. The reader takes nothing but what the writer writes, up to blanks, quoting and
the spelling of numbers; a line with a variable in it is not a record.
-/

namespace DocIndex.Snapshot

/-- What stands in certain places of a record. -/
inductive Slot where
  | summary
  | atom
  | integer
deriving DecidableEq, Repr

def Slot.name : Slot → String
  | summary => "summary string"
  | atom => "atom"
  | integer => "integer"

inductive SyntaxError where
  | lexical (cause : LexicalError)
  | endOfLine
  | wanted (token found : Token)
  | textAfterRecord
deriving DecidableEq, Repr

def SyntaxError.message : SyntaxError → String
  | lexical cause => cause.message
  | endOfLine => "unexpected end of line"
  | wanted token found => "expected " ++ token.description ++ ", found " ++ found.description
  | textAfterRecord => "text after end of record"

/-- Where a line has something else than a record has in the same place. -/
inductive ShapeError where
  | notRecord (found : Token)
  | wanted (slot : Slot) (found : Token)
  | level (value : Nat)
  | arity (value : Nat)
  | notQualifiable (object : Object)
  | notObject (name : String)
deriving DecidableEq, Repr

def ShapeError.message : ShapeError → String
  | notRecord found => "expected record/5, found " ++ found.description
  | wanted slot found => "expected " ++ slot.name ++ ", found " ++ found.description
  | level value => "section level " ++ String.ofList (Text.decimal value)
  | arity value => "arity " ++ String.ofList (Text.decimal value)
  | notQualifiable object => "cannot qualify " ++ object.surface
  | notObject name => name ++ " is not a documentation object"

/-- Why a line is no record. -/
inductive InvalidLine where
  /-- The column counts characters from 1. -/
  | malformed (column : Nat) (cause : SyntaxError)
  | unbound (variableName : String)
  | shape (cause : ShapeError)
  | unknownClass (name : String)
deriving DecidableEq, Repr

def InvalidLine.message : InvalidLine → String
  | malformed column cause =>
    "syntax error at column " ++ String.ofList (Text.decimal column) ++ ": " ++ cause.message
  | unbound variableName => "unbound variable " ++ variableName
  | shape cause => "not a record: " ++ cause.message
  | unknownClass name => "unknown class " ++ name

/-! ### Writing -/

def writeRecord (record : Record) : List Char :=
  "record(".toList ++ record.object.write ++ ", ".toList ++
    quoteString record.summary.toList ++ ", ".toList ++
    quoteWith '\'' record.file.text.toList ++ ", ".toList ++ record.pageClass.name.toList ++
    ", ".toList ++ Text.decimal record.offset ++ ").".toList

/-! ### Reading -/

/-- The tokens left of a line, and the column of the last one taken. -/
structure Cursor where
  column : Nat
  rest : List (Nat × Token)

/-- A part of a record is read from the tokens at the cursor. -/
abbrev Reading (α : Type) := StateT Cursor (Except InvalidLine) α

def malformed {α : Type} (cause : SyntaxError) : Reading α := do
  throw (.malformed (← get).column cause)

/-- The next token, which must not be a variable. -/
def next : Reading Token := do
  match (← get).rest with
  | [] => malformed .endOfLine
  | (before, token) :: rest =>
    set (Cursor.mk (before + 1) rest)
    match token with
    | .var name => throw (.unbound name)
    | token => return token

def expect (token : Token) : Reading Unit := do
  let found ← next
  if found = token then return () else malformed (.wanted token found)

def atom : Reading String := do
  match ← next with
  | .atom text => return text
  | found => throw (.shape (.wanted .atom found))

def string : Reading String := do
  match ← next with
  | .string text => return text
  | found => throw (.shape (.wanted .summary found))

def integer : Reading Nat := do
  match ← next with
  | .int value => return value
  | found => throw (.shape (.wanted .integer found))

def arity : Reading UInt32 := do
  let value ← integer
  if value < UInt32.size then return UInt32.ofNat value else throw (.shape (.arity value))

def maxLevel : Nat := 4

def level : Reading UInt8 := do
  let value ← integer
  if value ≤ maxLevel then return UInt8.ofNat value else throw (.shape (.level value))

def pageClass : Reading PageClass := do
  let name ← atom
  match PageClass.ofName? name with
  | some c => return c
  | none => throw (.unknownClass name)

/-- The modules before an object: atoms with a colon behind each. -/
def takeModules (column : Nat) : List (Nat × Token) → List String × Cursor
  | (_, .atom name) :: (before, .colon) :: rest =>
    let further := takeModules (before + 1) rest
    (name :: further.1, further.2)
  | rest => ([], ⟨column, rest⟩)

def modules : Reading (List String) := do
  let cursor ← get
  let taken := takeModules cursor.column cursor.rest
  set taken.2
  return taken.1

/-- What stands between the parentheses of a section. -/
def heading : Reading Object := do
  let level ← level
  expect .comma
  let number ← atom
  expect .comma
  let label ← atom
  expect .comma
  let file ← atom
  return .heading level number label file

def function : Reading Object := do
  let name ← atom
  expect .slash
  let arity ← arity
  return .function name arity

def symbol : Reading Object := do
  let name ← atom
  return .symbol name

/-- What is read between parentheses behind this name, if anything. -/
def parenthesized? (name : String) : Option (Reading Object) :=
  if name = "section" then some heading
  else if name = "f" then some function
  else if name = "c" then some symbol
  else none

/-- An object without a module, behind its name and in front of this token. -/
def behindName (name : String) (token? : Option Token) : Reading Object :=
  match token?, parenthesized? name with
  | some .lparen, some within => do
    expect .lparen
    let object ← within
    expect .rparen
    return object
  | some .slash, _ => do
    expect .slash
    let arity ← arity
    return .callable name arity
  | some .doubleSlash, _ => do
    expect .doubleSlash
    let arity ← arity
    return .grammar name arity
  | _, _ => throw (.shape (.notObject name))

def plainObject : Reading Object := do
  let name ← atom
  let cursor ← get
  behindName name (cursor.rest.head?.map Prod.snd)

/-- An object in a module, which must be one that can be called. -/
def qualify (module : String) (inner : Object) : Except InvalidLine Object :=
  if inner.isCallable then .ok (.qualified module inner)
  else .error (.shape (.notQualifiable inner))

def object : Reading Object := do
  let modules ← modules
  let inner ← plainObject
  modules.foldrM (fun module inner => qualify module inner) inner

def record : Reading Record := do
  let functor ← next
  if functor ≠ .atom "record" then throw (.shape (.notRecord functor))
  expect .lparen
  let object ← object
  expect .comma
  let summary ← string
  expect .comma
  let file ← atom
  expect .comma
  let pageClass ← pageClass
  expect .comma
  let offset ← integer
  expect .rparen
  expect .stop
  return ⟨object, summary, ⟨file⟩, pageClass, offset⟩

def ofTokens (tokens : List (Nat × Token)) : Except InvalidLine Record := do
  let (record, cursor) ← record.run ⟨1, tokens⟩
  if cursor.rest.isEmpty then return record
  else throw (.malformed cursor.column .textAfterRecord)

def readRecord (line : List Char) : Except InvalidLine Record :=
  match tokens line with
  | .error (before, cause) => .error (.malformed (before + 1) (.lexical cause))
  | .ok tokens => ofTokens tokens

end DocIndex.Snapshot
