import DocIndex.Command.Run
import DocIndex.Proofs.Heading
import DocIndex.Proofs.Object.Plain
import DocIndex.Proofs.Page.Extraction

/-!
# Records on one line

A record is shown on one line, which its object, its place and its summary share. Whatever blanks a
page writes, as characters or as references, a summary has none but single spaces inside, and a
documented object has none in its names. So what the line of a definition is broken by can only
stand in the name of a file (`count_recordLine`). The invariant of a pass says this of its records
and of the terms that still wait (`Pass.IsShowable`).
-/

namespace DocIndex

theorem Markup.Element.isSpaced_summary (e : Element) : Text.IsSpaced e.summary.toList := by
  rw [summary, String.toList_ofList]
  exact Text.isSpaced_normalize _

namespace Pass

/-- Identifiers name the objects that wait and those that have been described, and the blanks of
summaries are single spaces inside. -/
structure IsShowable (pass : Pass) : Prop where
  pending : ∀ term ∈ pass.pending, ∃ token, Object.Names token term.object
  objects : ∀ record ∈ pass.records, record.object.isHeading = false →
    ∃ token, Object.Names token record.object
  summaries : ∀ record ∈ pass.records, Text.IsSpaced record.summary.toList

theorem isShowable_start : IsShowable start := by
  constructor <;> simp [start]

variable {page : Page} {pass : Pass}

theorem IsShowable.append (showable : pass.IsShowable) {added : List Record} {pending : List Term}
    (notices : List MadeId) (waits : ∀ term ∈ pending, term ∈ pass.pending)
    (objects : ∀ record ∈ added, record.object.isHeading = false →
      ∃ token, Object.Names token record.object)
    (summaries : ∀ record ∈ added, Text.IsSpaced record.summary.toList) :
    IsShowable ⟨pending, pass.records ++ added, notices⟩ where
  pending term mem := showable.pending term (waits term mem)
  objects record mem := (List.mem_append.mp mem).elim (showable.objects record) (objects record)
  summaries record mem :=
    (List.mem_append.mp mem).elim (showable.summaries record) (summaries record)

theorem IsShowable.append_heading (showable : pass.IsShowable) {summary : String}
    (spaced : Text.IsSpaced summary.toList) (level : UInt8) (number label file : String)
    (path : PathText) (pageClass : PageClass) (offset : Nat) (notices : List MadeId) :
    IsShowable ⟨pass.pending, pass.records ++
      [⟨.heading level number label file, summary, path, pageClass, offset⟩], notices⟩ := by
  refine showable.append notices (fun _ => id) ?_ ?_
  · intro record mem definition
    rw [List.mem_singleton.mp mem] at definition
    contradiction
  · intro record mem
    rwa [List.mem_singleton.mp mem]

theorem IsShowable.add (showable : pass.IsShowable) (element : Markup.Element) (offset : Nat)
    (role : Role) : IsShowable (pass.add page element offset role) := by
  cases role with
  | term =>
    refine ⟨?_, ?_, ?_⟩
    · intro term mem
      rcases mem_pending_addTerm mem with waits | ⟨named, -⟩
      · exact showable.pending term waits
      · obtain ⟨token, read⟩ := exists_ofToken?_of_termObject? named
        exact ⟨token, Object.names_of_ofToken? read⟩
    · rw [Pass.add, records_addTerm]
      exact showable.objects
    · rw [Pass.add, records_addTerm]
      exact showable.summaries
  | description =>
    refine showable.append pass.notices (by simp) ?_ ?_
    · intro record mem _
      obtain ⟨⟨term, waits, object⟩, -⟩ := mem_describe mem
      rw [object]
      exact showable.pending term waits
    · intro record mem
      rw [summary_of_mem_describe mem]
      exact element.isSpaced_summary
  | title => exact showable.append_heading (Heading.isSpaced_flatten element) ..
  | heading level => exact showable.append_heading (Heading.isSpaced_title element level) ..

theorem isShowable_index (page : Page) (text : String) : (page.index text).IsShowable := by
  rw [Page.index_eq]
  exact run_keeps isShowable_start fun _ tag role element _ _ showable =>
    showable.add element tag.offset role

end Pass

theorem recordLine_of_definition {record : Record} (definition : record.object.isHeading = false) :
    Command.recordLine record =
      record.object.surface ++ "\t" ++ record.file.text ++ ":" ++
        String.ofList (Text.decimal record.offset) ++ "\t" ++ record.summary := by
  unfold Command.recordLine
  split
  next heading =>
    rw [heading] at definition
    contradiction
  next => rfl

/-- But for two tabs, the blanks of a line that are no spaces are those of the name of a file. -/
theorem count_recordLine {record : Record} (definition : record.object.isHeading = false)
    (isWord : Text.IsWord record.object.surface.toList)
    (spaced : Text.IsSpaced record.summary.toList) {c : Char} (blank : Text.isBlank c = true)
    (other : c ≠ ' ') :
    (Command.recordLine record).toList.count c =
      record.file.text.toList.count c + if c = '\t' then 2 else 0 := by
  have inPlace := (Object.isWord_decimal record.offset).count_eq_zero blank
  have colon : ":".toList.count c = 0 := (Text.isWord_singleton rfl).count_eq_zero blank
  have tab : "\t".toList.count c = if c = '\t' then 1 else 0 := by
    split
    next isTab =>
      rw [isTab]
      rfl
    next noTab => exact List.count_eq_zero.mpr (by simpa using noTab)
  rw [recordLine_of_definition definition]
  simp only [String.toList_append, String.toList_ofList, List.count_append,
    isWord.count_eq_zero blank, spaced.count_eq_zero blank other, inPlace, colon, tab]
  split <;> omega

namespace Page

/-- The summary of every record of a page has no blanks at its ends and single spaces between its
words, so that to normalize it leaves it as it is. All names of a definition are one word each, and
so is what is shown of its object: its line has two tabs, and besides them no blanks but spaces and
those in the name of the file. -/
theorem records_areOneLine (page : Page) (text : String) :
    ∀ record ∈ (page.index text).records,
      Text.normalize record.summary.toList = record.summary.toList ∧
        Text.IsSpaced record.summary.toList ∧
        '\t' ∉ record.summary.toList ∧ '\n' ∉ record.summary.toList ∧
        (record.object.isHeading = false →
          record.object.allNames ≠ [] ∧
            (∀ name ∈ record.object.allNames, Text.IsWord name.toList) ∧
            Text.IsWord record.object.surface.toList ∧
            ∀ c, Text.isBlank c = true → c ≠ ' ' →
              (Command.recordLine record).toList.count c =
                record.file.text.toList.count c + if c = '\t' then 2 else 0) := by
  intro record mem
  have showable := Pass.isShowable_index page text
  have spaced := showable.summaries record mem
  refine ⟨Text.normalize_of_isSpaced spaced, spaced,
    fun tab => absurd (spaced.eq_space tab rfl) (by decide),
    fun feed => absurd (spaced.eq_space feed rfl) (by decide), ?_⟩
  intro definition
  obtain ⟨token, names⟩ := showable.objects record mem definition
  obtain ⟨some, areWords⟩ := names.isWord_of_mem_allNames
  exact ⟨some, areWords, names.isWord_surface,
    fun c => count_recordLine definition names.isWord_surface spaced⟩

/-- A numbered heading and a definition with references to a tab, a line feed and a no-break space,
and a quoted name in a module. -/
theorem records_areOneLine_references :
    let page : Page := ⟨⟨"a b.html"⟩, .manual, "a"⟩
    let text := "<h2>&#9;2.1&nbsp;Lists&#10; and\n\tmore</h2>" ++
      "<dt class=pubdef><a id=\"&#9;m:'it&#39;&#39;s'//2\"></a><dd>\u2003Is&#10;so.&nbsp; No.</dd>"
    let lists : Record :=
      ⟨.heading 2 "2.1" "sec:Lists_and_more" "a b.html", "Lists and more", ⟨"a b.html"⟩, .manual, 0⟩
    let definition : Record :=
      ⟨.qualified "m" (.grammar "it's" 2), "Is so.", ⟨"a b.html"⟩, .manual, 42⟩
    (page.index text).records = [lists, definition] ∧
      Text.IsSpaced "Lists and more".toList ∧ Text.normalize "Is so.".toList = "Is so.".toList ∧
      (∀ name ∈ ["m", "it's"], Text.IsWord name.toList) ∧ Text.IsWord "m:it's//2".toList ∧
      Command.recordLine definition = "m:it's//2\ta b.html:42\tIs so." ∧
      "m:it's//2\ta b.html:42\tIs so.".toList.count '\t' = "a b.html".toList.count '\t' + 2 := by
  intro page text lists definition
  have records : (page.index text).records = [lists, definition] := by decide +kernel
  have first := records_areOneLine page text lists (by simp [records])
  have second := records_areOneLine page text definition (by simp [records])
  obtain ⟨-, areWords, isWord, marks⟩ := second.2.2.2.2 rfl
  have line : Command.recordLine definition = "m:it's//2\ta b.html:42\tIs so." := by decide +kernel
  exact ⟨records, first.2.1, second.1, areWords, isWord, line, line ▸ marks '\t' rfl (by decide)⟩

end Page

end DocIndex
