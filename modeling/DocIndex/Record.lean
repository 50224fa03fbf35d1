import DocIndex.Object
import DocIndex.Path

/-!
# Index records

A record says where an object is documented, and with what summary.
-/

namespace DocIndex

inductive PageClass where
  | manual
  | packages
  | misc
deriving DecidableEq, Repr

namespace PageClass

def name : PageClass → String
  | manual => "manual"
  | packages => "packages"
  | misc => "misc"

/-- What the local paths of a class begin with, if pages of the class have local paths. -/
def namespace? : PageClass → Option String
  | manual => some "Manual"
  | packages => some "packages"
  | misc => none

def ofName? (name : String) : Option PageClass :=
  match name with
  | "manual" => some manual
  | "packages" => some packages
  | "misc" => some misc
  | _ => none

theorem ofName?_name (c : PageClass) : ofName? c.name = some c := by
  cases c <;> rfl

theorem name_of_ofName? {name : String} {c : PageClass} (h : ofName? name = some c) :
    c.name = name := by
  unfold ofName? at h
  split at h <;> cases h <;> rfl

end PageClass

structure UnknownClass where
  name : String
deriving DecidableEq, Repr

def UnknownClass.message (unknown : UnknownClass) : String :=
  "unknown class: " ++ unknown.name ++ ". Use manual, packages, or misc"

def PageClass.ofName (name : String) : Except UnknownClass PageClass :=
  match ofName? name with
  | some c => .ok c
  | none => .error ⟨name⟩

/-- An object is documented in a file of some class, by the element that begins behind this many
characters. -/
structure Record where
  object : Object
  /-- The first sentence of the documentation, or the title of the section. -/
  summary : String
  file : PathText
  pageClass : PageClass
  offset : Nat
deriving DecidableEq, Repr

inductive Property where
  | summary
  /-- Where the element that documents the object begins. -/
  | place
  | pageClass
deriving DecidableEq, Repr

inductive Property.Value where
  | summary (text : String)
  | place (file : PathText) (offset : Nat)
  | pageClass (pageClass : PageClass)
deriving DecidableEq, Repr

def Record.value (record : Record) : Property → Property.Value
  | .summary => .summary record.summary
  | .place => .place record.file record.offset
  | .pageClass => .pageClass record.pageClass

/-- Whether two records are equal up to the spelling of the file's path. -/
def Record.same (a b : Record) : Bool :=
  a.object = b.object && a.summary = b.summary && a.file.same b.file &&
    a.pageClass = b.pageClass && a.offset = b.offset

end DocIndex
