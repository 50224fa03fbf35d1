import DocIndex.Store
import Mathlib.Data.List.Sort
import Mathlib.Data.String.Basic

/-!
# Duplicate labels

The texts that occur more than once are listed in strictly ascending order, and there is one such
list only (`duplicates_eq_iff`), so that it is a matter of how often each text occurs. Neither the
order of the sections of a store nor its other records have a part in which of its labels are
duplicates.
-/

namespace DocIndex

theorem nodup_eraseDups {α : Type} [BEq α] [LawfulBEq α] : (xs : List α) → xs.eraseDups.Nodup
  | [] => List.nodup_nil
  | x :: xs => by
    rw [List.eraseDups_cons, List.nodup_cons]
    refine ⟨?_, nodup_eraseDups (xs.filter fun other => !other == x)⟩
    simp [List.mem_eraseDups]
termination_by xs => xs.length
decreasing_by exact Nat.lt_succ_of_le (List.length_filter_le _ xs)

theorem mem_of_two_le_count {texts : List String} {text : String}
    (several : 2 ≤ texts.count text) : text ∈ texts :=
  List.count_pos_iff.mp (Nat.lt_of_lt_of_le Nat.zero_lt_two several)

theorem mem_duplicates {texts : List String} {text : String} :
    text ∈ duplicates texts ↔ 2 ≤ texts.count text := by
  rw [duplicates, List.mem_mergeSort, List.mem_eraseDups, List.mem_filter, decide_eq_true_iff]
  constructor
  · exact And.right
  · intro several
    exact ⟨mem_of_two_le_count several, several⟩

theorem nodup_duplicates (texts : List String) : (duplicates texts).Nodup :=
  (List.mergeSort_perm _ _).nodup_iff.mpr (nodup_eraseDups _)

theorem isLE_compare_iff {a b : String} : (compare a b).isLE = true ↔ a ≤ b :=
  Ordering.isLE_iff_ne_gt.trans compare_le_iff_le

theorem pairwise_duplicates (texts : List String) : (duplicates texts).Pairwise (· < ·) := by
  have sorted : (duplicates texts).Pairwise (· ≤ ·) := by
    refine (List.pairwise_mergeSort ?_ ?_ _).imp isLE_compare_iff.mp
    · intro a b c
      simpa only [isLE_compare_iff] using le_trans
    · intro a b
      simpa only [Bool.or_eq_true, isLE_compare_iff] using le_total a b
  exact sorted.imp₂ (fun a b => lt_of_le_of_ne) (nodup_duplicates texts)

/-- No other list is in order and holds just the texts that occur more than once. -/
theorem duplicates_eq_iff {texts listed : List String} :
    duplicates texts = listed ↔ listed.Pairwise (· < ·) ∧
      (∀ text ∈ listed, 2 ≤ texts.count text) ∧
      ∀ text ∈ texts, 2 ≤ texts.count text → text ∈ listed := by
  constructor
  · rintro rfl
    exact ⟨pairwise_duplicates texts, fun _ => mem_duplicates.mp, fun _ _ => mem_duplicates.mpr⟩
  · rintro ⟨ordered, repeated, complete⟩
    apply (pairwise_duplicates texts).eq_of_mem_iff ordered
    intro text
    rw [mem_duplicates]
    constructor
    · intro several
      exact complete text (mem_of_two_le_count several) several
    · exact repeated text

theorem duplicates_eq_of_perm {texts texts' : List String} (reordered : texts.Perm texts') :
    duplicates texts = duplicates texts' := by
  apply duplicates_eq_iff.mpr
  refine ⟨pairwise_duplicates texts', ?_, ?_⟩
  · intro text mem
    rw [reordered.count_eq]
    exact mem_duplicates.mp mem
  · intro text _ several
    rw [reordered.count_eq] at several
    exact mem_duplicates.mpr several

theorem duplicates_eq_nil_iff {texts : List String} : duplicates texts = [] ↔ texts.Nodup := by
  rw [List.eq_nil_iff_forall_not_mem, List.nodup_iff_count]
  refine forall_congr' fun text => ?_
  rw [mem_duplicates]
  omega

/-- The record of a section of whatever level that has this label. -/
def Record.HasLabel (record : Record) (label : String) : Prop :=
  ∃ level number file, record.object = .heading level number label file

namespace Store

theorem hasLabel_labels (store : Store) :
    List.Forall₂ Record.HasLabel store.sections store.labels := by
  obtain ⟨records⟩ := store
  induction records with
  | nil => exact .nil
  | cons record rest ih =>
    simp only [sections, labels, List.filter_cons, List.filterMap_cons] at ih ⊢
    cases object : record.object with
    | heading level number label file => exact .cons ⟨level, number, file, object⟩ ih
    | callable | grammar | qualified | function | symbol => exact ih

theorem labels_sections (store : Store) : labels ⟨store.sections⟩ = store.labels := by
  rw [labels, sections, List.filterMap_filter]
  refine List.filterMap_congr fun record _ => ?_
  cases record.object <;> rfl

theorem labels_perm {store store' : Store} (same : store.sections.Perm store'.sections) :
    store.labels.Perm store'.labels := by
  rw [← labels_sections store, ← labels_sections store']
  exact same.filterMap _

/-- The texts that occur more than once are listed in order, each once, however the texts are
ordered. The duplicate labels of a store are those of its sections, of whatever level; there are
none just if no two sections share a label, and no other record and no order of the records
changes them. -/
theorem duplicateLabels_listsRepeated :
    (∀ texts, (duplicates texts).Pairwise (· < ·) ∧
        ∀ text, text ∈ duplicates texts ↔ 2 ≤ texts.count text) ∧
      (∀ texts texts', texts.Perm texts' → duplicates texts = duplicates texts') ∧
      (∀ store : Store, ∃ labels, List.Forall₂ Record.HasLabel store.sections labels ∧
        store.duplicateLabels = duplicates labels ∧
        (store.duplicateLabels = [] ↔ labels.Nodup)) ∧
      ∀ store store' : Store, store.sections.Perm store'.sections →
        store.duplicateLabels = store'.duplicateLabels := by
  refine ⟨fun texts => ⟨pairwise_duplicates texts, fun _ => mem_duplicates⟩,
    fun _ _ => duplicates_eq_of_perm, ?_, ?_⟩
  · intro store
    exact ⟨store.labels, store.hasLabel_labels, rfl, duplicates_eq_nil_iff⟩
  · intro store store' same
    exact duplicates_eq_of_perm (labels_perm same)

/-- Sections of several levels in two orders, once with another record between them. -/
theorem duplicateLabels_listsRepeated_mixedLevels :
    let labelled (level : UInt8) (label : String) : Record :=
      ⟨.heading level "1" label "/m/a.html", "A section", ⟨"/m/a.html"⟩, .manual, 7⟩
    let other : Record := ⟨.callable "z" 0, "Succeed.", ⟨"/m/a.html"⟩, .manual, 9⟩
    let store : Store := ⟨[labelled 0 "z", labelled 1 "é", other, labelled 4 "a", labelled 4 "z",
      labelled 2 "b", labelled 1 "é", labelled 3 "z"]⟩
    let store' : Store := ⟨store.sections.reverse⟩
    store.sections.Perm store'.sections ∧ store.duplicateLabels = ["z", "é"] ∧
      store'.duplicateLabels = ["z", "é"] := by
  intro labelled other store store'
  have same : store.sections.Perm store'.sections := by decide
  have listed : store.duplicateLabels = ["z", "é"] := duplicates_eq_iff.mpr (by decide)
  exact ⟨same, listed, (duplicateLabels_listsRepeated.2.2.2 store store' same).symm.trans listed⟩

end Store

end DocIndex
