import DocIndex.Object.Pattern
import DocIndex.Snapshot.Document

/-!
# Stores

A store holds index records in the order in which they were added, and answers queries about them.
-/

namespace DocIndex

structure Store where
  records : List Record
deriving DecidableEq, Repr

namespace Store

def empty : Store := ⟨[]⟩

def size (store : Store) : Nat :=
  store.records.length

def append (store : Store) (records : List Record) : Store :=
  ⟨store.records ++ records⟩

def insert (store : Store) (record : Record) : Store :=
  store.append [record]

@[simp] theorem records_append (store : Store) (records : List Record) :
    (store.append records).records = store.records ++ records := rfl

def sections (store : Store) : List Record :=
  store.records.filter (·.object.isHeading)

def find (store : Store) (pattern : Pattern) : List Record :=
  store.records.filter fun record => pattern.isMatch record.object

theorem mem_find {store : Store} {pattern : Pattern} {record : Record} :
    record ∈ store.find pattern ↔
      record ∈ store.records ∧ pattern.isMatch record.object = true :=
  List.mem_filter

def lookup? (store : Store) (object : Object) : Option Record :=
  store.records.find? (·.object = object)

def property? (store : Store) (object : Object) (property : Property) : Option Property.Value :=
  (store.lookup? object).map (·.value property)

def summary? (store : Store) (object : Object) : Option String :=
  (store.lookup? object).map Record.summary

def objectsIn (store : Store) (file : PathText) : List Object :=
  (store.records.filter (·.file.same file)).map Record.object

def labels (store : Store) : List String :=
  store.records.filterMap fun record =>
    match record.object with
    | .heading _ _ label _ => some label
    | _ => none

end Store

/-- The texts that occur more than once, in the order of code points. -/
def duplicates (texts : List String) : List String :=
  ((texts.filter (texts.count · > 1)).eraseDups).mergeSort fun a b => (compare a b).isLE

def Store.duplicateLabels (store : Store) : List String :=
  duplicates store.labels

namespace Store

def snapshot (store : Store) : String :=
  String.ofList (Snapshot.write store.records)

def ofSnapshot (text : String) : Except Snapshot.BadLine Store :=
  (Snapshot.read text.toList).map Store.mk

def insertLine (store : Store) (line : String) : Except Snapshot.InvalidLine Store :=
  (Snapshot.readRecord line.toList).map store.insert

end Store

end DocIndex
