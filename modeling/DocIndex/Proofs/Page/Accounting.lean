import DocIndex.Proofs.Markup.Splitting
import DocIndex.Proofs.Page.Extraction

/-!
# What becomes of definition terms

The pass over a page, followed event by event. The central invariant accounts for the terms that it
has accepted so far: their objects are those of the definitions that it has given and, behind these,
of the terms that still wait (`Course.Accounts`). A description turns all that wait into definitions
at once, and nothing else does.
-/

namespace DocIndex

open Markup (Event Reader StartTag)

def IsTerm (tag : StartTag) : Prop :=
  tag.name = "dt" ∧ Markup.hasClass tag.attributes "pubdef" = true

instance (tag : StartTag) : Decidable (IsTerm tag) :=
  inferInstanceAs (Decidable (_ ∧ _))

def IsSection (tag : StartTag) : Prop :=
  tag.name = "div" ∧ Markup.hasClass tag.attributes "title" = true ∨
    (Heading.levelOf? tag.name).isSome = true

instance (tag : StartTag) : Decidable (IsSection tag) :=
  inferInstanceAs (Decidable (_ ∨ _))

theorem not_of_isSection {tag : StartTag} (isSection : IsSection tag) :
    ¬IsTerm tag ∧ tag.name ≠ "dd" := by
  rcases isSection with ⟨named, -⟩ | isHeading
  · simp [IsTerm, named]
  · constructor
    · rintro ⟨named, -⟩
      simp [named, Heading.levelOf?] at isHeading
    · intro named
      simp [named, Heading.levelOf?] at isHeading

/-- A start tag that reaches a pass, and the reader behind it. -/
structure Visit where
  pass : Pass
  tag : StartTag
  rest : Reader

namespace Visit

def element (visit : Visit) : Markup.Element :=
  (visit.rest.subtree visit.tag).1

def next (page : Page) (visit : Visit) : Pass × Reader :=
  visit.pass.visit page visit.tag visit.rest

/-- The term that is accepted: a public definition term whose first anchor names an object that
does not wait yet. -/
def accepted? (visit : Visit) : Option Term :=
  if IsTerm visit.tag then
    ((termObject? visit.element).filter (· ∉ visit.pass.pending.map Term.object)).map
      (⟨·, visit.tag.offset⟩)
  else none

def group (page : Page) (visit : Visit) : List Record :=
  if visit.tag.name = "dd" then
    Pass.describe page visit.element.summary visit.pass.pending
  else []

end Visit

def definitions (records : List Record) : List Record :=
  records.filter (!·.object.isHeading)

@[simp] theorem definitions_append (front back : List Record) :
    definitions (front ++ back) = definitions front ++ definitions back :=
  List.filter_append ..

theorem Pass.map_object_describe (page : Page) (summary : String) (pending : List Term) :
    (describe page summary pending).map Record.object = pending.map Term.object := by
  cases pending with
  | nil => rfl
  | cons first others => simp [describe]

/-- The objects that wait are no sections, and so their records are definitions. -/
theorem Pass.definitions_describe (page : Page) (summary : String) {pending : List Term}
    (named : ∀ term ∈ pending, term.object.isHeading = false) :
    definitions (describe page summary pending) = describe page summary pending := by
  apply List.filter_eq_self.mpr
  intro record mem
  obtain ⟨⟨term, waits, object⟩, -⟩ := mem_describe mem
  rw [object, named term waits, Bool.not_false]

/-! ### One start tag -/

namespace Visit

variable (page : Page) (visit : Visit)

theorem next_of_role? {role : Role} (taken : visit.pass.role? visit.tag = some role) :
    (visit.next page).1 = visit.pass.add page visit.element visit.tag.offset role := by
  simp only [next, Pass.visit, taken, element]

theorem next_of_none (ignored : visit.pass.role? visit.tag = none) :
    (visit.next page).1 = visit.pass := by
  simp only [next, Pass.visit, ignored]

theorem role?_of_description (isData : visit.tag.name = "dd") (waiting : visit.pass.pending ≠ []) :
    visit.pass.role? visit.tag = some .description := by
  simp [Pass.role?, isData, waiting]

/-- A role besides those of terms and descriptions is that of a section, and sections have one. -/
theorem role?_of_section (notTerm : ¬IsTerm visit.tag)
    (notData : visit.tag.name = "dd" → visit.pass.pending = []) :
    (visit.pass.role? visit.tag = none ∧ ¬IsSection visit.tag) ∨
      ∃ role, visit.pass.role? visit.tag = some role ∧ IsSection visit.tag ∧
        (role = .title ∨ ∃ level, role = .heading level) := by
  have noTerm : (decide (visit.tag.name = "dt") &&
      Markup.hasClass visit.tag.attributes "pubdef") = false := by
    simpa [IsTerm] using notTerm
  have noData : (decide (visit.tag.name = "dd") && !visit.pass.pending.isEmpty) = false := by
    simpa using notData
  simp only [Pass.role?, noTerm, noData, Bool.false_eq_true, if_false]
  split
  next isTitle => exact .inr ⟨_, rfl, .inl (by simpa using isTitle), .inl rfl⟩
  next notTitle =>
    cases found : Heading.levelOf? visit.tag.name with
    | none =>
      left
      refine ⟨rfl, ?_⟩
      rintro (isTitle | isHeading)
      · exact notTitle (by simpa using isTitle)
      · simp [found] at isHeading
    | some level => exact .inr ⟨_, rfl, .inr (by simp [found]), .inr ⟨level, rfl⟩⟩

/-- All that a start tag can do to a pass. -/
theorem next_cases :
    (IsTerm visit.tag ∧
        (visit.next page).1 = visit.pass.addTerm visit.element visit.tag.offset) ∨
      (visit.tag.name = "dd" ∧
        (visit.next page).1 = visit.pass.addDescription page visit.element) ∨
      (IsSection visit.tag ∧
        ∃ record notices, record.offset = visit.tag.offset ∧ record.object.isHeading = true ∧
          (visit.next page).1 = ⟨visit.pass.pending, visit.pass.records ++ [record], notices⟩) ∨
      (¬IsTerm visit.tag ∧ ¬IsSection visit.tag ∧
        (visit.tag.name = "dd" → visit.pass.pending = []) ∧
        (visit.next page).1 = visit.pass) := by
  by_cases isTerm : IsTerm visit.tag
  · have taken : visit.pass.role? visit.tag = some .term := by
      simp [Pass.role?, isTerm.1, isTerm.2]
    exact .inl ⟨isTerm, visit.next_of_role? page taken⟩
  by_cases isData : visit.tag.name = "dd" ∧ visit.pass.pending ≠ []
  · have taken := visit.role?_of_description isData.1 isData.2
    exact .inr (.inl ⟨isData.1, visit.next_of_role? page taken⟩)
  have nothing : visit.tag.name = "dd" → visit.pass.pending = [] := by
    intro named
    exact Classical.byContradiction fun waiting => isData ⟨named, waiting⟩
  rcases visit.role?_of_section isTerm nothing with ⟨ignored, notSection⟩ |
    ⟨role, taken, isSection, isRole⟩
  · exact .inr (.inr (.inr ⟨isTerm, notSection, nothing, visit.next_of_none page ignored⟩))
  · obtain ⟨record, notices, place, isHeading, given⟩ :=
      Pass.exists_add_eq page isRole visit.element visit.tag.offset
    exact .inr (.inr (.inl ⟨isSection, record, _, place, isHeading,
      (visit.next_of_role? page taken).trans (given visit.pass)⟩))

theorem definitions_next (named : ∀ term ∈ visit.pass.pending, term.object.isHeading = false) :
    definitions (visit.next page).1.records =
      definitions visit.pass.records ++ visit.group page := by
  rcases visit.next_cases page with ⟨isTerm, next⟩ | ⟨isData, next⟩ |
    ⟨isSection, record, notices, -, isHeading, next⟩ | ⟨-, -, nothing, next⟩
  · have notData : visit.tag.name ≠ "dd" := by simp [isTerm.1]
    rw [next, Pass.records_addTerm, group, if_neg notData, List.append_nil]
  · rw [next, Pass.addDescription, definitions_append, Pass.definitions_describe page _ named,
      group, if_pos isData]
  · have sectionOnly : definitions [record] = [] := by simp [definitions, isHeading]
    rw [next, definitions_append, sectionOnly, group, if_neg (not_of_isSection isSection).2]
  · rw [next, group]
    split
    next isData => rw [nothing isData, Pass.describe, List.append_nil]
    next => rw [List.append_nil]

theorem pending_addTerm (isTerm : IsTerm visit.tag) :
    (visit.pass.addTerm visit.element visit.tag.offset).pending =
      visit.pass.pending ++ visit.accepted?.toList := by
  have waits (object : Object) : visit.pass.pending.any (·.object = object) =
      decide (object ∈ visit.pass.pending.map Term.object) := by
    rw [Bool.eq_iff_iff]
    simp
  rw [accepted?, if_pos isTerm, Pass.addTerm]
  cases termObject? visit.element with
  | none => simp
  | some object =>
    by_cases waiting : object ∈ visit.pass.pending.map Term.object
    · simp only [waits, waiting, not_true, decide_true, decide_false, Bool.false_eq_true, if_true,
        if_false, Option.filter_some, Option.map_none, Option.toList_none, List.append_nil]
    · simp only [waits, waiting, not_false_iff, decide_true, decide_false, Bool.false_eq_true,
        if_true, if_false, Option.filter_some, Option.map_some, Option.toList_some]

theorem pending_next :
    (visit.next page).1.pending =
      if visit.tag.name = "dd" then [] else visit.pass.pending ++ visit.accepted?.toList := by
  have notAccepted (notTerm : ¬IsTerm visit.tag) : visit.accepted? = none := if_neg notTerm
  rcases visit.next_cases page with ⟨isTerm, next⟩ | ⟨isData, next⟩ |
    ⟨isSection, record, notices, -, -, next⟩ | ⟨notTerm, -, nothing, next⟩
  · have notData : visit.tag.name ≠ "dd" := by simp [isTerm.1]
    rw [if_neg notData, next, visit.pending_addTerm isTerm]
  · rw [if_pos isData, next, Pass.addDescription]
  · obtain ⟨notTerm, notData⟩ := not_of_isSection isSection
    rw [if_neg notData, next, notAccepted notTerm, Option.toList_none, List.append_nil]
  · rw [next]
    split
    next isData => exact nothing isData
    next => rw [notAccepted notTerm, Option.toList_none, List.append_nil]

variable {visit}

theorem accepted?_eq_some {term : Term} (accepted : visit.accepted? = some term) :
    visit.tag.name = "dt" ∧ term.object.isHeading = false ∧
      term.object ∉ visit.pass.pending.map Term.object := by
  unfold accepted? at accepted
  split at accepted
  next isTerm =>
    obtain ⟨object, found, rfl⟩ := Option.map_eq_some_iff.mp accepted
    obtain ⟨named, isNew⟩ := Option.filter_eq_some_iff.mp found
    exact ⟨isTerm.1, isHeading_of_termObject? named, of_decide_eq_true isNew⟩
  next => contradiction

end Visit

/-! ### The course of a pass -/

/-- How far a pass has come: the start tags that have reached it, in order. -/
structure Course where
  visits : List Visit
  pass : Pass
  reader : Reader

namespace Course

/-- Goes on by one event, or by one element if the pass takes it in. -/
def advance (page : Page) (course : Course) : Course :=
  match course.reader.next with
  | (some (.opening tag), rest) =>
    let visit : Visit := ⟨course.pass, tag, rest⟩
    ⟨course.visits ++ [visit], (visit.next page).1, (visit.next page).2⟩
  | (_, rest) => { course with reader := rest }

def accepted (course : Course) : List Term :=
  course.visits.filterMap Visit.accepted?

/-- What has become of the terms that a pass has accepted. -/
structure Accounts (page : Page) (course : Course) : Prop where
  /-- The first objects are those of the definitions given so far, and the others wait. -/
  objects : (definitions course.pass.records).map Record.object ++
    course.pass.pending.map Term.object = course.accepted.map Term.object
  /-- The terms that wait are the last ones, each with the place of its start tag. -/
  waiting : course.pass.pending <:+ course.accepted
  distinct : (course.pass.pending.map Term.object).Nodup
  /-- All definitions come from descriptions. -/
  groups : definitions course.pass.records = course.visits.flatMap (Visit.group page)

variable {page : Page} {course : Course}

/-- All that one more event does. -/
theorem advance_cases (page : Page) (course : Course) :
    (∃ rest, course.advance page = { course with reader := rest } ∧
      (course.reader.left = [] ∧ rest.left = [] ∨
        ∃ event, event.startTag? = none ∧ course.reader.left = event :: rest.left)) ∨
      ∃ visit : Visit, visit.pass = course.pass ∧
        course.reader.left = .opening visit.tag :: visit.rest.left ∧
        course.advance page =
          ⟨course.visits ++ [visit], (visit.next page).1, (visit.next page).2⟩ := by
  rcases read : course.reader.next with ⟨event?, rest⟩
  have after := Reader.left_next course.reader
  rw [read] at after
  cases event? with
  | none =>
    have atEnd := Reader.left_eq_nil (congrArg Prod.fst read)
    refine .inl ⟨rest, by simp only [advance, read], .inl ⟨atEnd, ?_⟩⟩
    rw [after, atEnd, List.tail_nil]
  | some event =>
    have given := Reader.left_eq_cons (congrArg Prod.fst read)
    rw [read] at given
    cases event with
    | opening tag =>
      exact .inr ⟨⟨course.pass, tag, rest⟩, rfl, given, by simp only [advance, read]⟩
    | closing | text | comment =>
      exact .inl ⟨rest, by simp only [advance, read], .inr ⟨_, rfl, given⟩⟩

theorem Accounts.isHeading_of_mem (accounts : course.Accounts page) :
    ∀ term ∈ course.pass.pending, term.object.isHeading = false := by
  intro term waits
  obtain ⟨visit, -, accepted⟩ := List.mem_filterMap.mp (accounts.waiting.subset waits)
  exact (Visit.accepted?_eq_some accepted).2.1

theorem Accounts.visit (accounts : course.Accounts page) {visit : Visit}
    (same : visit.pass = course.pass) (reader : Reader) :
    Accounts page ⟨course.visits ++ [visit], (visit.next page).1, reader⟩ := by
  have given := visit.definitions_next page (same ▸ accounts.isHeading_of_mem)
  have pending := visit.pending_next page
  have groups : definitions (visit.next page).1.records =
      (course.visits ++ [visit]).flatMap (Visit.group page) := by
    rw [given, same, accounts.groups, List.flatMap_append, List.flatMap_singleton]
  have accepted : Course.accepted ⟨course.visits ++ [visit], (visit.next page).1, reader⟩ =
      course.accepted ++ visit.accepted?.toList := by
    rw [Course.accepted, List.filterMap_append, List.filterMap_cons]
    cases visit.accepted? <;> rfl
  by_cases isData : visit.tag.name = "dd"
  · have notAccepted : visit.accepted? = none := by simp [Visit.accepted?, IsTerm, isData]
    rw [if_pos isData] at pending
    refine ⟨?_, ?_, ?_, groups⟩
    · rw [accepted, notAccepted, given, pending, Visit.group, if_pos isData, List.map_append,
        Pass.map_object_describe, same, accounts.objects]
      simp
    · simp only [pending, List.nil_suffix]
    · simp only [pending, List.map_nil, List.nodup_nil]
  · rw [if_neg isData, same] at pending
    refine ⟨?_, ?_, ?_, groups⟩
    · rw [accepted, given, pending, Visit.group, if_neg isData, List.append_nil, List.map_append,
        List.map_append, same, ← List.append_assoc, accounts.objects]
    · rw [accepted, pending]
      obtain ⟨before, split⟩ := accounts.waiting
      exact ⟨before, by rw [← split, List.append_assoc]⟩
    · rw [pending, List.map_append]
      refine List.nodup_append.mpr ⟨accounts.distinct, ?_, ?_⟩
      · cases visit.accepted? <;> simp
      · intro object waits new isNew
        obtain ⟨term, isTerm, rfl⟩ := List.mem_map.mp isNew
        have apart := (Visit.accepted?_eq_some (Option.mem_toList.mp isTerm)).2.2
        rw [same] at apart
        rintro rfl
        exact apart waits

theorem Accounts.advance (accounts : course.Accounts page) :
    (course.advance page).Accounts page := by
  rcases advance_cases page course with ⟨rest, next, -⟩ | ⟨visit, same, -, next⟩
  · rw [next]
    exact ⟨accounts.objects, accounts.waiting, accounts.distinct, accounts.groups⟩
  · rw [next]
    exact accounts.visit same _

/-! ### Where the pass stands -/

theorem left_next_isSuffix (page : Page) (visit : Visit) :
    (visit.next page).2.left <:+ visit.rest.left := by
  rw [Visit.next, (Pass.visit_eq page _ _ _).2]
  exact Pass.onOpening_suffix _ _ _

theorem length_left_advance_le (page : Page) (course : Course) :
    (course.advance page).reader.left.length ≤ course.reader.left.length - 1 := by
  rcases advance_cases page course with
    ⟨rest, next, ⟨-, atEnd⟩ | ⟨event, -, given⟩⟩ | ⟨visit, -, given, next⟩
  · simp [next, atEnd]
  · simp [next, given]
  · rw [next, given, List.length_cons, Nat.add_sub_cancel]
    exact (left_next_isSuffix page visit).length_le

def events (course : Course) : List Event :=
  course.visits.map (.opening ·.tag) ++ course.reader.left

theorem events_advance_sublist (page : Page) (course : Course) :
    List.Sublist (course.advance page).events course.events := by
  rcases advance_cases page course with
    ⟨rest, next, ⟨atEnd, atEnd'⟩ | ⟨event, -, given⟩⟩ | ⟨visit, -, given, next⟩
  · have same : (course.advance page).events = course.events := by
      rw [next, events, events, atEnd, atEnd']
    exact same ▸ List.Sublist.refl _
  · rw [next, events, events, given]
    exact (List.Sublist.refl _).append (List.sublist_cons_self _ _)
  · rw [next, events, events, given, List.map_append, List.append_assoc]
    exact (List.Sublist.refl _).append ((left_next_isSuffix page visit).sublist.cons_cons _)

theorem run_advance (page : Page) (course : Course) :
    (course.advance page).pass.run page (course.advance page).reader.left =
      course.pass.run page course.reader.left := by
  rcases advance_cases page course with
    ⟨rest, next, ⟨atEnd, atEnd'⟩ | ⟨event, notOpening, given⟩⟩ | ⟨visit, same, given, next⟩
  · rw [next, atEnd, atEnd']
  · rw [next, given]
    cases event with
    | opening tag => contradiction
    | closing | text | comment => rw [Pass.run]; simp
  · have goesOn := Pass.visit_eq page visit.pass visit.tag visit.rest
    rw [next, given, Pass.run_opening, ← same, ← goesOn.1, ← goesOn.2]
    rfl

theorem pass_advance_of_description {rest : Reader} {tag : StartTag} {first : Term}
    {others : List Term} (given : course.reader.next = (some (.opening tag), rest))
    (isData : tag.name = "dd") (waiting : course.pass.pending = first :: others) :
    (course.advance page).pass =
      ⟨[], course.pass.records ++ (first :: others).map (fun term =>
        ⟨term.object, (rest.subtree tag).1.summary, page.file, page.pageClass, first.offset⟩),
        course.pass.notices⟩ := by
  have taken := Visit.role?_of_description ⟨course.pass, tag, rest⟩ isData (by simp [waiting])
  have next := Visit.next_of_role? page _ taken
  simp only [advance, given]
  rw [next, Pass.add, Pass.addDescription, waiting]
  rfl

end Course

/-- The course of the pass over a text after so many events and elements. -/
def Page.courseAt (page : Page) (text : String) : Nat → Course
  | 0 => ⟨[], Pass.start, Reader.start text.toList⟩
  | n + 1 => (page.courseAt text n).advance page

namespace Course

variable (page : Page) (text : String)

theorem accounts_courseAt (n : Nat) : (page.courseAt text n).Accounts page := by
  induction n with
  | zero => exact ⟨rfl, List.nil_suffix, List.nodup_nil, rfl⟩
  | succ n ih => exact ih.advance

theorem events_courseAt_sublist (n : Nat) :
    List.Sublist (page.courseAt text n).events (Markup.events text.toList) := by
  induction n with
  | zero => exact List.Sublist.refl _
  | succ n ih => exact (events_advance_sublist page _).trans ih

theorem run_courseAt (n : Nat) :
    (page.courseAt text n).pass.run page (page.courseAt text n).reader.left = page.index text := by
  induction n with
  | zero => rw [Page.index_eq]; rfl
  | succ n ih => rw [Page.courseAt, run_advance, ih]

theorem length_left_courseAt_le (n : Nat) :
    (page.courseAt text n).reader.left.length ≤ text.length - n := by
  induction n with
  | zero =>
    have bound := (Markup.arranged_pieces text.toList).length_eventsFrom_le 0
    rw [Markup.flatMap_source_pieces, String.length_toList] at bound
    simpa [Page.courseAt, Markup.events] using bound
  | succ n ih =>
    have fewer := length_left_advance_le page (page.courseAt text n)
    rw [Page.courseAt]
    omega

/-- After as many steps as a text has characters, the pass is done. -/
theorem pass_courseAt {n : Nat} (all : text.length ≤ n) :
    (page.courseAt text n).pass = page.index text := by
  have bound := length_left_courseAt_le page text n
  have atEnd : (page.courseAt text n).reader.left = [] := by
    apply List.eq_nil_of_length_eq_zero
    omega
  rw [← run_courseAt page text n, atEnd, Pass.run]

theorem tags_courseAt_sublist (n : Nat) :
    List.Sublist ((page.courseAt text n).visits.map Visit.tag)
      ((Reader.start text.toList).drain.filterMap Event.startTag?) := by
  have tags : ((page.courseAt text n).visits.map (Event.opening ·.tag)).filterMap Event.startTag? =
      (page.courseAt text n).visits.map Visit.tag := by
    simp [List.filterMap_map, Function.comp_def, Event.startTag?]
  have inText := (events_courseAt_sublist page text n).filterMap Event.startTag?
  rw [events, List.filterMap_append, tags] at inText
  rw [Reader.drain_eq_left, Reader.left_start]
  exact (List.sublist_append_left _ _).trans inText

end Course

/-- At every point of the pass over a text, its definitions and then the terms that wait are just
the terms that it has accepted, in the order of the text. A description that finds terms waiting
gives one record to each and leaves none waiting. What waits at the end of the text is not given. -/
theorem Page.conserves_terms (page : Page) (text : String) (n : Nat) :
    let course := page.courseAt text n
    course.Accounts page ∧
      List.Sublist (course.visits.map Visit.tag)
        ((Reader.start text.toList).drain.filterMap Event.startTag?) ∧
      (∀ tag rest first others, course.reader.next = (some (.opening tag), rest) →
        tag.name = "dd" → course.pass.pending = first :: others →
        (page.courseAt text (n + 1)).pass =
          ⟨[], course.pass.records ++ (first :: others).map (fun term =>
            ⟨term.object, (rest.subtree tag).1.summary, page.file, page.pageClass, first.offset⟩),
            course.pass.notices⟩) ∧
      (text.length ≤ n → course.pass = page.index text) := by
  intro course
  refine ⟨Course.accounts_courseAt page text n, Course.tags_courseAt_sublist page text n, ?_,
    Course.pass_courseAt page text⟩
  intro tag rest first others given isData waiting
  exact Course.pass_advance_of_description given isData waiting

/-- Two terms share a description. -/
theorem Page.conserves_terms_sharedDescription :
    let page : Page := ⟨⟨"lists.html"⟩, .misc, "lists"⟩
    let text := "<dt class=pubdef><a id=f/1></a><dt class=pubdef><a id=g/2></a><dd>Sorts. Or not."
    let course := page.courseAt text 2
    course.reader.next.1 = some (.opening ⟨"dd", [], 62, false⟩) ∧
      course.pass.pending = [⟨.callable "f" 1, 0⟩, ⟨.callable "g" 2, 31⟩] ∧
      (page.courseAt text 3).pass.pending = [] ∧
      (page.courseAt text 3).pass.records =
        [⟨.callable "f" 1, "Sorts.", ⟨"lists.html"⟩, .misc, 0⟩,
          ⟨.callable "g" 2, "Sorts.", ⟨"lists.html"⟩, .misc, 0⟩] ∧
      (page.courseAt text text.length).pass = page.index text := by
  intro page text course
  have reached : course.reader.next.1 = some (.opening ⟨"dd", [], 62, false⟩) ∧
      course.pass.pending = [⟨.callable "f" 1, 0⟩, ⟨.callable "g" 2, 31⟩] ∧
      course.pass.records = [] ∧
      (course.reader.next.2.subtree ⟨"dd", [], 62, false⟩).1.summary = "Sorts." := by
    decide +kernel
  obtain ⟨isData, waiting, before, summary⟩ := reached
  have given := (conserves_terms page text 2).2.2.1 _ course.reader.next.2 _ _
    (Prod.ext isData rfl) rfl waiting
  refine ⟨isData, waiting, by rw [given], ?_,
    (conserves_terms page text text.length).2.2.2 (Nat.le_refl _)⟩
  rw [given, summary, show (page.courseAt text 2).pass.records = [] from before]
  rfl

end DocIndex
