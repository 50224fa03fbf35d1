import DocIndex.Proofs.Page.Accounting

/-!
# The order of records

Sections are given when they are reached, and definitions only with their description. So the records
of a page follow one another in the order of their places, but for one case: a section that is
reached while terms wait, and behind it a description of these terms (`Page.inOrder_iff_isCalm`).
The invariant is that all that a pass has found stands before all that it has still to reach
(`Course.Placed`).
-/

namespace DocIndex

open Markup (Event Reader StartTag)

def InOrder (records : List Record) : Prop :=
  records.Pairwise (·.offset ≤ ·.offset)

instance (records : List Record) : Decidable (InOrder records) :=
  inferInstanceAs (Decidable (records.Pairwise _))

theorem inOrder_append {front back : List Record} :
    InOrder (front ++ back) ↔
      InOrder front ∧ InOrder back ∧ ∀ a ∈ front, ∀ b ∈ back, a.offset ≤ b.offset :=
  List.pairwise_append

def sections (records : List Record) : List Record :=
  records.filter (·.object.isHeading)

@[simp] theorem mem_sections {records : List Record} {record : Record} :
    record ∈ sections records ↔ record ∈ records ∧ record.object.isHeading = true :=
  List.mem_filter

@[simp] theorem mem_definitions {records : List Record} {record : Record} :
    record ∈ definitions records ↔ record ∈ records ∧ record.object.isHeading = false := by
  simp [definitions]

@[simp] theorem sections_append (front back : List Record) :
    sections (front ++ back) = sections front ++ sections back :=
  List.filter_append ..

namespace Pass

/-- Whether a section has been found behind a term that waits. -/
def IsOvertaken (pass : Pass) : Prop :=
  ∃ term ∈ pass.pending, ∃ record ∈ sections pass.records, term.offset < record.offset

instance (pass : Pass) : Decidable pass.IsOvertaken :=
  inferInstanceAs (Decidable (∃ term ∈ pass.pending, ∃ record ∈ sections pass.records, _))

/-- All that a pass has found stands before this place. -/
structure IsBefore (place : Nat) (pass : Pass) : Prop where
  records : ∀ record ∈ pass.records, record.offset < place
  terms : ∀ term ∈ pass.pending, term.offset < place

/-- What a pass has found of one kind stands in order, and terms wait behind all definitions. -/
structure Arranged (pass : Pass) : Prop where
  sections : (sections pass.records).Pairwise (·.offset < ·.offset)
  definitions : InOrder (definitions pass.records)
  terms : pass.pending.Pairwise (·.offset < ·.offset)
  behind : ∀ record ∈ DocIndex.definitions pass.records, ∀ term ∈ pass.pending,
    record.offset < term.offset

theorem IsBefore.mono {pass : Pass} {place further : Nat} (before : pass.IsBefore place)
    (le : place ≤ further) : pass.IsBefore further :=
  ⟨fun record mem => Nat.lt_of_lt_of_le (before.records record mem) le,
    fun term mem => Nat.lt_of_lt_of_le (before.terms term mem) le⟩

/-! ### What a start tag adds -/

theorem sections_singleton {record : Record} (isHeading : record.object.isHeading = true) :
    DocIndex.sections [record] = [record] := by
  simp [DocIndex.sections, isHeading]

theorem sections_describe (page : Page) (summary : String) {pending : List Term}
    (named : ∀ term ∈ pending, term.object.isHeading = false) :
    DocIndex.sections (describe page summary pending) = [] := by
  apply List.filter_eq_nil_iff.mpr
  intro record mem
  obtain ⟨⟨term, waits, object⟩, -⟩ := mem_describe mem
  simp [object, named term waits]

theorem inOrder_append_describe (page : Page) (summary : String) (records : List Record)
    (first : Term) (others : List Term) :
    InOrder (records ++ describe page summary (first :: others)) ↔
      InOrder records ∧ ∀ record ∈ records, record.offset ≤ first.offset := by
  have place : ∀ record ∈ describe page summary (first :: others),
      record.offset = first.offset := by
    intro record mem
    obtain ⟨-, found, isFirst, place⟩ := mem_describe mem
    cases isFirst
    exact place
  have given : InOrder (describe page summary (first :: others)) :=
    List.pairwise_of_forall_mem_list fun a memA b memB =>
      Nat.le_of_eq ((place a memA).trans (place b memB).symm)
  constructor
  · intro inOrder
    obtain ⟨before, -, le⟩ := inOrder_append.mp inOrder
    exact ⟨before, fun record mem => le record mem _ List.mem_cons_self⟩
  · rintro ⟨before, le⟩
    exact inOrder_append.mpr ⟨before, given, fun a memA b memB => place b memB ▸ le a memA⟩

section
variable {pass : Pass} (arranged : pass.Arranged)
include arranged

theorem Arranged.first_le {first term : Term} {others : List Term}
    (waiting : pass.pending = first :: others) (waits : term ∈ pass.pending) :
    first.offset ≤ term.offset := by
  have terms := arranged.terms
  rw [waiting] at waits terms
  rcases List.mem_cons.mp waits with rfl | later
  · exact Nat.le_refl _
  · exact Nat.le_of_lt (List.rel_of_pairwise_cons terms later)

theorem Arranged.addTerm {next : Pass} {place : Nat} (before : pass.IsBefore place)
    {new : Option Term} (isLast : ∀ term ∈ new, term.offset = place)
    (records : next.records = pass.records)
    (pending : next.pending = pass.pending ++ new.toList) : next.Arranged := by
  refine ⟨records ▸ arranged.sections, records ▸ arranged.definitions, ?_, ?_⟩
  · rw [pending]
    refine List.pairwise_append.mpr ⟨arranged.terms, ?_, ?_⟩
    · cases new <;> simp
    · intro term waits added isNew
      exact isLast added (Option.mem_toList.mp isNew) ▸ before.terms term waits
  · rw [records, pending]
    intro record isDefinition term mem
    rcases List.mem_append.mp mem with waits | isNew
    · exact arranged.behind record isDefinition term waits
    · exact isLast term (Option.mem_toList.mp isNew) ▸
        before.records record (mem_definitions.mp isDefinition).1

theorem Arranged.addDescription (page : Page)
    (named : ∀ term ∈ pass.pending, term.object.isHeading = false) (element : Markup.Element) :
    (pass.addDescription page element).Arranged := by
  refine ⟨?_, ?_, .nil, fun _ _ _ => nofun⟩
  · rw [Pass.addDescription, sections_append, sections_describe page _ named, List.append_nil]
    exact arranged.sections
  · rw [Pass.addDescription, definitions_append, definitions_describe page _ named]
    cases waiting : pass.pending with
    | nil =>
      rw [describe, List.append_nil]
      exact arranged.definitions
    | cons first others =>
      refine (inOrder_append_describe ..).mpr ⟨arranged.definitions, ?_⟩
      intro record isDefinition
      exact Nat.le_of_lt (arranged.behind record isDefinition first (by simp [waiting]))

theorem Arranged.addSection {record : Record} (before : pass.IsBefore record.offset)
    (isHeading : record.object.isHeading = true) (notices : List MadeId) :
    Arranged ⟨pass.pending, pass.records ++ [record], notices⟩ := by
  have same : DocIndex.definitions (pass.records ++ [record]) =
      DocIndex.definitions pass.records := by
    simp [DocIndex.definitions, isHeading]
  refine ⟨?_, same ▸ arranged.definitions, arranged.terms, same ▸ arranged.behind⟩
  rw [sections_append, sections_singleton isHeading]
  refine List.pairwise_append.mpr ⟨arranged.sections, List.pairwise_singleton .., ?_⟩
  intro other isSection new isNew
  rw [List.mem_singleton.mp isNew]
  exact before.records other (mem_sections.mp isSection).1

/-- A description spoils the order just if a section has overtaken a term that it is given to. -/
theorem Arranged.inOrder_addDescription (page : Page) (element : Markup.Element) :
    InOrder (pass.addDescription page element).records ↔
      InOrder pass.records ∧ ¬pass.IsOvertaken := by
  rw [Pass.addDescription]
  cases waiting : pass.pending with
  | nil =>
    have notOvertaken : ¬pass.IsOvertaken := by simp [IsOvertaken, waiting]
    rw [describe, List.append_nil, and_iff_left notOvertaken]
  | cons first others =>
    rw [inOrder_append_describe]
    refine and_congr_right fun _ => ⟨?_, ?_⟩
    · rintro le ⟨term, waits, record, isSection, overtaken⟩
      have least := arranged.first_le waiting waits
      have inFront := le record (mem_sections.mp isSection).1
      omega
    · intro notOvertaken record found
      cases kind : record.object.isHeading with
      | true =>
        apply Nat.le_of_not_lt
        intro overtaken
        exact notOvertaken
          ⟨first, by simp [waiting], record, mem_sections.mpr ⟨found, kind⟩, overtaken⟩
      | false =>
        exact Nat.le_of_lt (arranged.behind record (mem_definitions.mpr ⟨found, kind⟩) first
          (by simp [waiting]))

end

theorem isOvertaken_addSection {pass : Pass} {record : Record}
    (before : pass.IsBefore record.offset) (isHeading : record.object.isHeading = true)
    (notices : List MadeId) :
    IsOvertaken ⟨pass.pending, pass.records ++ [record], notices⟩ ↔
      pass.IsOvertaken ∨ pass.pending ≠ [] := by
  rw [IsOvertaken, IsOvertaken, sections_append, sections_singleton isHeading]
  constructor
  · rintro ⟨term, waits, other, mem, overtaken⟩
    rcases List.mem_append.mp mem with found | -
    · exact .inl ⟨term, waits, other, found, overtaken⟩
    · exact .inr (List.ne_nil_of_mem waits)
  · rintro (⟨term, waits, other, found, overtaken⟩ | waiting)
    · exact ⟨term, waits, other, List.mem_append_left _ found, overtaken⟩
    · obtain ⟨term, waits⟩ := List.exists_mem_of_ne_nil _ waiting
      exact ⟨term, waits, record, by simp, before.terms term waits⟩

end Pass

namespace Visit

def Crosses (visit : Visit) : Prop :=
  visit.tag.name = "dd" ∧ visit.pass.IsOvertaken

instance (visit : Visit) : Decidable visit.Crosses :=
  inferInstanceAs (Decidable (_ ∧ _))

def Interrupts (visit : Visit) : Prop :=
  IsSection visit.tag ∧ visit.pass.pending ≠ []

variable (page : Page) {visit : Visit}

theorem offset_of_accepted? {term : Term} (accepted : visit.accepted? = some term) :
    term.offset = visit.tag.offset := by
  unfold accepted? at accepted
  split at accepted
  next =>
    obtain ⟨object, -, rfl⟩ := Option.map_eq_some_iff.mp accepted
    rfl
  next => contradiction

theorem not_interrupts_of_isTerm (isTerm : IsTerm visit.tag) : ¬visit.Interrupts :=
  fun interrupts => (not_of_isSection interrupts.1).1 isTerm

theorem isBefore_next (before : visit.pass.IsBefore visit.tag.offset) {place : Nat}
    (behind : visit.tag.offset < place) : (visit.next page).1.IsBefore place := by
  have earlier := before.mono (Nat.le_of_lt behind)
  rcases visit.next_cases page with ⟨isTerm, next⟩ | ⟨-, next⟩ |
    ⟨-, record, notices, place, -, next⟩ | ⟨-, -, -, next⟩
  · rw [next]
    refine ⟨?_, ?_⟩
    · rw [Pass.records_addTerm]
      exact earlier.records
    · intro term mem
      rw [visit.pending_addTerm isTerm] at mem
      rcases List.mem_append.mp mem with waits | isNew
      · exact earlier.terms term waits
      · exact offset_of_accepted? (Option.mem_toList.mp isNew) ▸ behind
  · rw [next]
    refine ⟨?_, by simp [Pass.addDescription]⟩
    intro record mem
    rcases List.mem_append.mp mem with found | described
    · exact earlier.records record found
    · obtain ⟨-, first, isFirst, place⟩ := Pass.mem_describe described
      exact place ▸ earlier.terms first (List.mem_of_head? isFirst)
  · rw [next]
    refine ⟨?_, earlier.terms⟩
    intro other mem
    rcases List.mem_append.mp mem with found | same
    · exact earlier.records other found
    · rw [List.mem_singleton.mp same, place]
      exact behind
  · rw [next]
    exact earlier

theorem arranged_next (arranged : visit.pass.Arranged)
    (before : visit.pass.IsBefore visit.tag.offset)
    (named : ∀ term ∈ visit.pass.pending, term.object.isHeading = false) :
    (visit.next page).1.Arranged := by
  rcases visit.next_cases page with ⟨isTerm, next⟩ | ⟨-, next⟩ |
    ⟨-, record, notices, place, isHeading, next⟩ | ⟨-, -, -, next⟩
  · rw [next]
    exact arranged.addTerm before (fun _ => offset_of_accepted?) (Pass.records_addTerm ..)
      (visit.pending_addTerm isTerm)
  · rw [next]
    exact arranged.addDescription page named visit.element
  · rw [next]
    exact arranged.addSection (place ▸ before) isHeading notices
  · rw [next]
    exact arranged

/-- Only a description that crosses a section spoils the order. -/
theorem inOrder_next (arranged : visit.pass.Arranged)
    (before : visit.pass.IsBefore visit.tag.offset) :
    InOrder (visit.next page).1.records ↔ InOrder visit.pass.records ∧ ¬visit.Crosses := by
  rcases visit.next_cases page with ⟨isTerm, next⟩ | ⟨isData, next⟩ |
    ⟨isSection, record, notices, place, -, next⟩ | ⟨-, -, nothing, next⟩
  · have noCross : ¬visit.Crosses := by simp [Crosses, isTerm.1]
    rw [next, Pass.records_addTerm, and_iff_left noCross]
  · rw [next, arranged.inOrder_addDescription page, Crosses, and_iff_right isData]
  · have noCross : ¬visit.Crosses := fun crosses => (not_of_isSection isSection).2 crosses.1
    rw [next, inOrder_append, and_iff_left noCross, and_iff_left]
    refine ⟨List.pairwise_singleton .., fun other found new isNew => ?_⟩
    rw [List.mem_singleton.mp isNew, place]
    exact Nat.le_of_lt (before.records other found)
  · have noCross : ¬visit.Crosses := by
      rintro ⟨isData, term, waits, -⟩
      simp [nothing isData] at waits
    rw [next, and_iff_left noCross]

/-- Terms are overtaken by the sections that are reached while they wait, up to their description. -/
theorem isOvertaken_next (before : visit.pass.IsBefore visit.tag.offset) :
    (visit.next page).1.IsOvertaken ↔
      visit.tag.name ≠ "dd" ∧ (visit.pass.IsOvertaken ∨ visit.Interrupts) := by
  rcases visit.next_cases page with ⟨isTerm, next⟩ | ⟨isData, next⟩ |
    ⟨isSection, record, notices, place, isHeading, next⟩ | ⟨-, notSection, nothing, next⟩
  · have notData : visit.tag.name ≠ "dd" := by simp [isTerm.1]
    rw [and_iff_right notData, or_iff_left (not_interrupts_of_isTerm isTerm), next,
      Pass.IsOvertaken, Pass.IsOvertaken, visit.pending_addTerm isTerm, Pass.records_addTerm]
    constructor
    · rintro ⟨term, mem, record, isSection, overtaken⟩
      rcases List.mem_append.mp mem with waits | isNew
      · exact ⟨term, waits, record, isSection, overtaken⟩
      · have isLast := offset_of_accepted? (Option.mem_toList.mp isNew)
        have inFront := before.records record (mem_sections.mp isSection).1
        omega
    · rintro ⟨term, waits, overtaken⟩
      exact ⟨term, List.mem_append_left _ waits, overtaken⟩
  · simp [next, Pass.addDescription, Pass.IsOvertaken, isData]
  · rw [and_iff_right (not_of_isSection isSection).2, next,
      Pass.isOvertaken_addSection (place ▸ before) isHeading, Interrupts, and_iff_right isSection]
  · have noInterrupt : ¬visit.Interrupts := fun interrupts => notSection interrupts.1
    rw [next, or_iff_left noInterrupt]
    refine ⟨fun overtaken => ⟨fun isData => ?_, overtaken⟩, And.right⟩
    obtain ⟨term, waits, -⟩ := overtaken
    simp [nothing isData] at waits

end Visit

namespace Course

/-- Whether no description follows a section that was reached while terms waited. -/
def IsCalm (course : Course) : Prop :=
  course.visits.Pairwise fun earlier later => earlier.Interrupts → later.tag.name ≠ "dd"

/-- A pass has found things before all that is left, in order of their kinds. -/
structure Placed (course : Course) : Prop where
  arranged : course.pass.Arranged
  before : ∀ tag ∈ course.reader.left.filterMap Event.startTag?, course.pass.IsBefore tag.offset
  left : (course.reader.left.filterMap Event.startTag?).Pairwise (·.offset < ·.offset)

structure Ordered (course : Course) : Prop where
  inOrder : InOrder course.pass.records ↔ course.IsCalm
  crosses : (∀ visit ∈ course.visits, ¬visit.Crosses) ↔ course.IsCalm
  overtaken : course.IsCalm →
    (course.pass.IsOvertaken ↔ ∃ visit ∈ course.visits, visit.Interrupts)

variable {page : Page} {course : Course}

theorem Placed.advance (placed : course.Placed) (accounts : course.Accounts page) :
    (course.advance page).Placed := by
  obtain ⟨arranged, before, left⟩ := placed
  rcases advance_cases page course with
    ⟨rest, next, ⟨-, atEnd⟩ | ⟨event, notOpening, given⟩⟩ | ⟨visit, same, given, next⟩
  · rw [next]
    exact ⟨arranged, by simp [atEnd], by simp [atEnd]⟩
  · rw [given, List.filterMap_cons_none notOpening] at before left
    rw [next]
    exact ⟨arranged, before, left⟩
  · have isTag : Event.startTag? (.opening visit.tag) = some visit.tag := rfl
    rw [given, List.filterMap_cons_some isTag] at before left
    obtain ⟨behind, others⟩ := List.pairwise_cons.mp left
    have here : visit.pass.IsBefore visit.tag.offset := same ▸ before _ List.mem_cons_self
    have goesOn := (left_next_isSuffix page visit).sublist.filterMap Event.startTag?
    rw [next]
    refine ⟨?_, ?_, others.sublist goesOn⟩
    · exact visit.arranged_next page (same ▸ arranged) here (same ▸ accounts.isHeading_of_mem)
    · intro tag mem
      exact visit.isBefore_next page here (behind tag (goesOn.subset mem))

theorem Ordered.visit (ordered : course.Ordered) {visit : Visit} (same : visit.pass = course.pass)
    (arranged : visit.pass.Arranged) (before : visit.pass.IsBefore visit.tag.offset)
    (reader : Reader) :
    Ordered ⟨course.visits ++ [visit], (visit.next page).1, reader⟩ := by
  have calm : IsCalm ⟨course.visits ++ [visit], (visit.next page).1, reader⟩ ↔
      course.IsCalm ∧ ∀ earlier ∈ course.visits, earlier.Interrupts → visit.tag.name ≠ "dd" := by
    simp [IsCalm, List.pairwise_append]
  have calmly : IsCalm ⟨course.visits ++ [visit], (visit.next page).1, reader⟩ ↔
      course.IsCalm ∧ ¬visit.Crosses := by
    rw [calm]
    refine and_congr_right fun wasCalm => ?_
    rw [Visit.Crosses, same, ordered.overtaken wasCalm]
    grind
  refine ⟨?_, ?_, ?_⟩
  · rw [visit.inOrder_next page arranged before, calmly, same, ordered.inOrder]
  · rw [calmly, ← ordered.crosses]
    simp [or_imp, forall_and]
  · intro isCalm
    obtain ⟨wasCalm, noData⟩ := calm.mp isCalm
    rw [visit.isOvertaken_next page before, same, ordered.overtaken wasCalm]
    have notData : (∃ earlier ∈ course.visits, earlier.Interrupts) ∨ visit.Interrupts →
        visit.tag.name ≠ "dd" := by
      rintro (⟨earlier, mem, interrupts⟩ | interrupts)
      · exact noData earlier mem interrupts
      · exact (not_of_isSection interrupts.1).2
    rw [and_iff_right_of_imp notData]
    simp [or_and_right, exists_or]

theorem Ordered.advance (ordered : course.Ordered) (placed : course.Placed) :
    (course.advance page).Ordered := by
  rcases advance_cases page course with ⟨rest, next, -⟩ | ⟨visit, same, given, next⟩
  · rw [next]
    exact ⟨ordered.inOrder, ordered.crosses, ordered.overtaken⟩
  · have before := placed.before visit.tag (by simp [given, Event.startTag?])
    rw [next]
    exact ordered.visit same (same ▸ placed.arranged) (same ▸ before) _

theorem placed_courseAt (page : Page) (text : String) (n : Nat) :
    (page.courseAt text n).Placed := by
  induction n with
  | zero =>
    refine ⟨⟨.nil, .nil, .nil, by simp [Page.courseAt, Pass.start]⟩, ?_, ?_⟩
    · intro tag _
      constructor <;> simp [Page.courseAt, Pass.start]
    · rw [Page.courseAt, Reader.left_start]
      exact Markup.pairwise_offset_eventsFrom 0 _
  | succ n ih => exact ih.advance (accounts_courseAt page text n)

theorem ordered_courseAt (page : Page) (text : String) (n : Nat) :
    (page.courseAt text n).Ordered := by
  induction n with
  | zero =>
    have calm : (page.courseAt text 0).IsCalm := .nil
    refine ⟨iff_of_true .nil calm, iff_of_true ?_ calm, fun _ => ?_⟩
    · simp [Page.courseAt]
    · simp [Page.courseAt, Pass.start, Pass.IsOvertaken]
  | succ n ih => exact ih.advance (placed_courseAt page text n)

end Course

/-- The sections of a page come in the order of their places, and so do the definitions. All records
do, and no description is given from beyond a section, just if no description follows a section that
was reached while terms waited. -/
theorem Page.inOrder_iff_isCalm (page : Page) (text : String) :
    let course := page.courseAt text text.length
    let records := (page.index text).records
    course.pass = page.index text ∧
      (sections records).Pairwise (·.offset < ·.offset) ∧
      InOrder (definitions records) ∧
      (InOrder records ↔ course.IsCalm) ∧
      ((∀ visit ∈ course.visits, ¬visit.Crosses) ↔ course.IsCalm) := by
  intro course records
  have atEnd : course.pass = page.index text := Course.pass_courseAt page text (Nat.le_refl _)
  have all : records = course.pass.records := congrArg Pass.records atEnd.symm
  have placed : course.Placed := Course.placed_courseAt page text _
  have ordered : course.Ordered := Course.ordered_courseAt page text _
  rw [all]
  exact ⟨atEnd, placed.arranged.sections, placed.arranged.definitions, ordered.inOrder,
    ordered.crosses⟩

/-- A heading comes between a term and its description, and is given first. -/
theorem Page.not_inOrder_headingBetween :
    let page : Page := ⟨⟨"lists.html"⟩, .misc, "lists"⟩
    let text := "<dt class=pubdef><a id=f/1>f</a></dt><h2 id=s>S</h2><dd>Does it."
    (page.index text).records =
        [⟨.heading 2 "" "s" "lists.html", "S", ⟨"lists.html"⟩, .misc, 37⟩,
          ⟨.callable "f" 1, "Does it.", ⟨"lists.html"⟩, .misc, 0⟩] ∧
      ¬InOrder (page.index text).records ∧
      ∃ visit ∈ (page.courseAt text text.length).visits, visit.Crosses := by
  decide +kernel

end DocIndex
