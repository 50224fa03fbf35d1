import DocIndex.Proofs.Markup.Splitting
import DocIndex.Proofs.Page.Extraction
import DocIndex.Proofs.Snapshot.RoundTrip

/-!
# Storing the records of pages

Every object that an identifier names and every section that a pass finds is one that a snapshot
can hold, and stands at a place within the text. The invariant of a pass says this of its records
and of the terms that still wait (`Pass.Fits`).
-/

namespace DocIndex

open Markup (Event StartTag)

theorem Object.IsNamed.isWellFormed {object : Object} (named : object.IsNamed) :
    object.IsWellFormed := by
  cases named with
  | qualified callable => exact callable
  | grammar | callable | function | symbol => trivial

theorem Heading.levelOf?_le {tag : String} {level : UInt8} (found : levelOf? tag = some level) :
    level ≤ 4 := by
  unfold levelOf? at found
  split at found <;> cases found <;> decide

namespace Pass

/-- What a pass has found can be stored, at places before this one. -/
structure Fits (bound : Nat) (pass : Pass) : Prop where
  pending : ∀ term ∈ pass.pending, term.object.IsWellFormed ∧ term.offset < bound
  records : ∀ record ∈ pass.records, record.IsStorable ∧ record.offset < bound

theorem fits_start (bound : Nat) : Fits bound start := by
  constructor <;> simp [start]

theorem level_le_of_role? {pass : Pass} {tag : StartTag} {level : UInt8}
    (taken : pass.role? tag = some (.heading level)) : level ≤ 4 := by
  unfold role? at taken
  split at taken
  · cases taken
  split at taken
  · cases taken
  split at taken
  · cases taken
  obtain ⟨found, isLevel, same⟩ := Option.map_eq_some_iff.mp taken
  cases same
  exact Heading.levelOf?_le isLevel

variable {page : Page} {bound : Nat} {pass : Pass}

theorem Fits.append_heading (fits : pass.Fits bound) {level : UInt8} (shallow : level ≤ 4)
    {offset : Nat} (within : offset < bound) (number label file summary : String) (path : PathText)
    (pageClass : PageClass) (notices : List MadeId) :
    Fits bound ⟨pass.pending, pass.records ++
      [⟨.heading level number label file, summary, path, pageClass, offset⟩], notices⟩ := by
  refine ⟨fits.pending, ?_⟩
  intro record mem
  rcases List.mem_append.mp mem with before | same
  · exact fits.records record before
  · rw [List.mem_singleton.mp same]
    exact ⟨shallow, within⟩

theorem Fits.add (fits : pass.Fits bound) {tag : StartTag} {role : Role}
    (taken : pass.role? tag = some role) (within : tag.offset < bound) (element : Markup.Element) :
    Fits bound (pass.add page element tag.offset role) := by
  cases role with
  | term =>
    refine ⟨?_, ?_⟩
    · intro term mem
      rcases mem_pending_addTerm mem with waits | ⟨named, place⟩
      · exact fits.pending term waits
      · exact ⟨(isNamed_of_termObject? named).isWellFormed, place ▸ within⟩
    · intro record mem
      rw [Pass.add, records_addTerm] at mem
      exact fits.records record mem
  | description =>
    refine ⟨by simp [Pass.add, addDescription], ?_⟩
    intro record mem
    rcases List.mem_append.mp mem with before | described
    · exact fits.records record before
    · obtain ⟨⟨term, waits, object⟩, first, isFirst, place⟩ := mem_describe described
      exact ⟨show record.object.IsWellFormed from object ▸ (fits.pending term waits).1,
        place ▸ (fits.pending first (List.mem_of_head? isFirst)).2⟩
  | title => exact fits.append_heading (by decide) within ..
  | heading level => exact fits.append_heading (level_le_of_role? taken) within ..

theorem Fits.run {events : List Event} (fits : pass.Fits bound)
    (within : ∀ tag, .opening tag ∈ events → tag.offset < bound) :
    Fits bound (pass.run page events) :=
  run_keeps fits fun _ tag _ element mem taken fits => fits.add taken (within tag mem) element

theorem fits_index (page : Page) (text : String) : (page.index text).Fits text.length := by
  rw [Page.index_eq]
  apply (fits_start _).run
  intro tag mem
  rw [← String.length_toList]
  exact Markup.offset_lt_of_mem_events mem

end Pass

namespace Store

/-- The store to which the records of pages are appended, each page with its text. -/
def ofPages (pages : List (Page × String)) : Store :=
  pages.foldl (fun store source => store.append (source.1.index source.2).records) empty

theorem records_foldl_append (store : Store) (pages : List (Page × String)) :
    (pages.foldl (fun store source => store.append (source.1.index source.2).records)
        store).records =
      store.records ++ pages.flatMap fun source => (source.1.index source.2).records := by
  induction pages generalizing store with
  | nil => simp
  | cons source pages ih =>
    rw [List.foldl_cons, ih, records_append, List.flatMap_cons, List.append_assoc]

theorem records_ofPages (pages : List (Page × String)) :
    (ofPages pages).records = pages.flatMap fun source => (source.1.index source.2).records :=
  records_foldl_append empty pages

/-- The records of pages are read back from a snapshot as they are, and each of them from its line.
So is every record of an object that an identifier names. The bound on texts is that of places,
which are numbers of 64 bits. -/
theorem ofSnapshot_snapshot_ofPages :
    (∀ pages : List (Page × String), (∀ source ∈ pages, source.2.length ≤ UInt64.size) →
      ofSnapshot (ofPages pages).snapshot = .ok (ofPages pages)) ∧
      (∀ (page : Page) (text : String), text.length ≤ UInt64.size →
        ∀ record ∈ (page.index text).records,
          Snapshot.readRecord (Snapshot.writeRecord record) = .ok record) ∧
      ∀ text object, Object.ofIdentifier text = .ok object →
        ∀ summary file pageClass offset, offset < UInt64.size →
          Snapshot.readRecord
            (Snapshot.writeRecord ⟨object, summary, file, pageClass, offset⟩) =
              .ok ⟨object, summary, file, pageClass, offset⟩ := by
  have fits (page : Page) (text : String) (length : text.length ≤ UInt64.size) :
      ∀ record ∈ (page.index text).records, record.IsStorable ∧ record.offset < UInt64.size := by
    intro record mem
    have found := (Pass.fits_index page text).records record mem
    exact ⟨found.1, Nat.lt_of_lt_of_le found.2 length⟩
  refine ⟨?_, ?_, ?_⟩
  · intro pages lengths
    have all : ∀ record ∈ (ofPages pages).records,
        record.IsStorable ∧ record.offset < UInt64.size := by
      intro record mem
      rw [records_ofPages] at mem
      obtain ⟨source, isSource, isFound⟩ := List.mem_flatMap.mp mem
      exact fits source.1 source.2 (lengths source isSource) record isFound
    exact ofSnapshot_snapshot (fun record mem => (all record mem).2)
      (fun record mem => (all record mem).1)
  · intro page text length record mem
    obtain ⟨storable, small⟩ := fits page text length record mem
    exact Snapshot.readRecord_writeRecord_of_isStorable small storable
  · intro text object named summary file pageClass offset small
    have isNamed := Object.isNamed_of_ofToken? (Object.ofIdentifier_eq_ok_iff.mp named)
    exact Snapshot.readRecord_writeRecord_of_isStorable small isNamed.isWellFormed

/-- The records of two pages: a section four levels deep with an identifier made for it, a grammar
rule in a module, and a title of a page with quotes and a backslash in its label and file. -/
theorem ofSnapshot_snapshot_ofPages_oddMarkup :
    let pages : List (Page × String) :=
      [(⟨⟨"it's.html"⟩, .manual, "a"⟩, "<h4>S</h4><dt class=pubdef><a id=m:'f'//1></a><dd>Is."),
        (⟨⟨"b\\.html"⟩, .misc, "\"b\""⟩, "<div class=title>T\n")]
    ofSnapshot (ofPages pages).snapshot = .ok (ofPages pages) ∧
      (ofPages pages).records =
        [⟨.heading 4 "" "sec:S" "it's.html", "S", ⟨"it's.html"⟩, .manual, 0⟩,
          ⟨.qualified "m" (.grammar "f" 1), "Is.", ⟨"it's.html"⟩, .manual, 10⟩,
          ⟨.heading 0 "0" "\"b\"" "b\\.html", "T", ⟨"b\\.html"⟩, .misc, 0⟩] :=
  ⟨ofSnapshot_snapshot_ofPages.1 _ (by decide), by decide +kernel⟩

end Store

end DocIndex
