import DocIndex.Page
import DocIndex.Proofs.Markup.Shift
import DocIndex.Proofs.Markup.Walk
import DocIndex.Proofs.Object.Naming

/-!
# Extracting a record again

The place of a record is all that it takes to find the record again: the page from there on gives
the same record, at its very beginning. The pass over a page is not disturbed by what was found
before (`run_behind`), nor by where the page stands (`run_shift`). The central invariant is that
terms only wait since a point of the pass where none did, and that this is the place of the first of
them (`Anchored`).
-/

namespace DocIndex

open Markup (Event StartTag)

def Record.shift (distance : Nat) (record : Record) : Record :=
  { record with offset := record.offset + distance }

def Record.move (place : Nat → Nat) (record : Record) : Record :=
  { record with offset := place record.offset }

def Term.shift (distance : Nat) (term : Term) : Term :=
  { term with offset := term.offset + distance }

def Term.move (place : Nat → Nat) (term : Term) : Term :=
  { term with offset := place term.offset }

theorem Record.eq_of_shift_offset {here record : Record}
    (same : here.shift record.offset = record) : here = { record with offset := 0 } := by
  have zero : here.offset = 0 := by
    have place := congrArg Record.offset same
    simp only [Record.shift] at place
    omega
  rw [← same, ← zero]
  rfl

/-! ### What identifiers name -/

/-- The objects that identifiers name. -/
inductive Object.IsNamed : Object → Prop where
  | grammar (name : String) (arity : UInt32) : IsNamed (.grammar name arity)
  | callable (name : String) (arity : UInt32) : IsNamed (.callable name arity)
  | function (name : String) (arity : UInt32) : IsNamed (.function name arity)
  | symbol (name : String) : IsNamed (.symbol name)
  | qualified {module : String} {inner : Object} :
      inner.isCallable = true → IsNamed (.qualified module inner)

theorem Object.isNamed_of_ofToken? {token : List Char} {object : Object}
    (named : ofToken? token = some object) : object.IsNamed := by
  cases names_of_ofToken? named with
  | form _ _ gives =>
    cases gives with
    | grammar | callable | function | symbol => constructor
  | qualified _ _ _ callable => exact .qualified callable

theorem Object.IsNamed.isHeading_eq_false {object : Object} (named : object.IsNamed) :
    object.isHeading = false := by
  cases named <;> rfl

theorem exists_ofToken?_of_termObject? {term : Markup.Element} {object : Object}
    (named : termObject? term = some object) : ∃ token, Object.ofToken? token = some object := by
  obtain ⟨anchor, -, named⟩ := Option.bind_eq_some_iff.mp named
  obtain ⟨text, -, named⟩ := List.exists_of_findSome?_eq_some named
  cases read : Object.ofIdentifier text with
  | error failure =>
    rw [read] at named
    contradiction
  | ok found =>
    rw [read] at named
    cases named
    exact ⟨_, Object.ofIdentifier_eq_ok_iff.mp read⟩

theorem isNamed_of_termObject? {term : Markup.Element} {object : Object}
    (named : termObject? term = some object) : object.IsNamed := by
  obtain ⟨token, read⟩ := exists_ofToken?_of_termObject? named
  exact Object.isNamed_of_ofToken? read

theorem isHeading_of_termObject? {term : Markup.Element} {object : Object}
    (named : termObject? term = some object) : object.isHeading = false :=
  (isNamed_of_termObject? named).isHeading_eq_false

namespace Pass

variable (page : Page)

/-! ### What was found before -/

/-- A pass that follows one with these records and notices. -/
def behind (records : List Record) (notices : List MadeId) (pass : Pass) : Pass :=
  ⟨pass.pending, records ++ pass.records, notices ++ pass.notices⟩

theorem add_behind (records : List Record) (notices : List MadeId) (pass : Pass)
    (element : Markup.Element) (offset : Nat) (role : Role) :
    (pass.behind records notices).add page element offset role =
      (pass.add page element offset role).behind records notices := by
  cases role with
  | term =>
    simp only [add, addTerm]
    cases termObject? element with
    | none => rfl
    | some object =>
      have waits : (pass.behind records notices).pending.any (·.object = object) =
          pass.pending.any (·.object = object) := rfl
      simp only [waits]
      split <;> rfl
  | description | title | heading =>
    simp only [add, addDescription, addTitle, addHeading, behind, List.append_assoc]

theorem onOpening_behind (records : List Record) (notices : List MadeId) (pass : Pass)
    (tag : StartTag) (rest : List Event) :
    (pass.behind records notices).onOpening page tag rest =
      ((pass.onOpening page tag rest).1.behind records notices,
        (pass.onOpening page tag rest).2) := by
  have same : (pass.behind records notices).role? tag = pass.role? tag := rfl
  simp only [onOpening, same]
  cases pass.role? tag with
  | none => rfl
  | some role => simp only [add_behind]

/-- A pass goes on in the same way whatever it has found before. -/
theorem run_behind (records : List Record) (notices : List MadeId) (pass : Pass)
    (events : List Event) :
    (pass.behind records notices).run page events =
      (pass.run page events).behind records notices := by
  fun_induction run page pass events with
  | case1 pass => rw [run]
  | case2 pass tag rest next ih => rw [run, onOpening_behind, ← ih]
  | case3 pass event rest notOpening ih =>
    rw [run, ih]
    exact notOpening

theorem records_run (pass : Pass) (events : List Event) :
    (pass.run page events).records =
      pass.records ++ ((Pass.mk pass.pending [] []).run page events).records := by
  have split : pass = (Pass.mk pass.pending [] []).behind pass.records pass.notices := by
    simp only [behind, List.append_nil]
  have moved := run_behind page pass.records pass.notices ⟨pass.pending, [], []⟩ events
  rw [← split] at moved
  rw [moved, behind]

/-! ### Where the page stands -/

def shift (distance : Nat) (pass : Pass) : Pass :=
  ⟨pass.pending.map (Term.shift distance), pass.records.map (Record.shift distance), pass.notices⟩

def move (place : Nat → Nat) (pass : Pass) : Pass :=
  ⟨pass.pending.map (Term.move place), pass.records.map (Record.move place), pass.notices⟩

theorem describe_move (place : Nat → Nat) (summary : String) (pending : List Term) :
    describe page summary (pending.map (Term.move place)) =
      (describe page summary pending).map (Record.move place) := by
  cases pending with
  | nil => rfl
  | cons first rest =>
    simp only [describe, List.map_cons, List.map_map]
    rfl

theorem add_move (place : Nat → Nat) (pass : Pass) (element : Markup.Element) (offset : Nat)
    (role : Role) :
    (pass.move place).add page element (place offset) role =
      (pass.add page element offset role).move place := by
  cases role with
  | term =>
    simp only [add, addTerm]
    cases termObject? element with
    | none => rfl
    | some object =>
      have waits : (pass.move place).pending.any (·.object = object) =
          pass.pending.any (·.object = object) := by
        simp only [move, List.any_map]
        rfl
      simp only [waits]
      split
      · rfl
      · simp only [move, List.map_append]
        rfl
  | description =>
    simp only [add, addDescription, move, describe_move, List.map_append, List.map_nil]
  | title | heading =>
    simp only [add, addTitle, addHeading, move, List.map_append]
    rfl

theorem role?_move (place : Nat → Nat) (pass : Pass) (tag : StartTag) :
    (pass.move place).role? (tag.move place) = pass.role? tag := by
  have waiting : (pass.move place).pending.isEmpty = pass.pending.isEmpty :=
    List.isEmpty_map
  unfold role?
  rw [waiting]
  rfl

theorem onOpening_move (place : Nat → Nat) (pass : Pass) (tag : StartTag) (rest : List Event) :
    (pass.move place).onOpening page (tag.move place) (rest.map (Event.move place)) =
      ((pass.onOpening page tag rest).1.move place,
        (pass.onOpening page tag rest).2.map (Event.move place)) := by
  simp only [onOpening, role?_move]
  cases pass.role? tag with
  | none => rfl
  | some role =>
    simp only [StartTag.subtree_move, ← add_move]
    rfl

/-- A pass finds the same things wherever the start tags stand. -/
theorem run_move (place : Nat → Nat) (pass : Pass) (events : List Event) :
    (pass.move place).run page (events.map (Event.move place)) = (pass.run page events).move place := by
  fun_induction run page pass events with
  | case1 pass => rw [List.map_nil, run]
  | case2 pass tag rest next ih => rw [List.map_cons, Event.move, run, onOpening_move, ← ih]
  | case3 pass event rest notOpening ih =>
    rw [List.map_cons, run, ih]
    intro tag same
    cases event with
    | opening tag => exact notOpening tag rfl
    | closing | text | comment => contradiction

/-- A pass finds the same things wherever a page stands. -/
theorem run_shift (distance : Nat) (pass : Pass) (events : List Event) :
    (pass.shift distance).run page (events.map (Event.shift distance)) =
      (pass.run page events).shift distance := by
  rw [Event.shift_eq_move]
  exact run_move page (· + distance) pass events

/-! ### Where records come from -/

theorem exists_add_eq {role : Role} (isSection : role = .title ∨ ∃ level, role = .heading level)
    (element : Markup.Element) (offset : Nat) :
    ∃ record notices, record.offset = offset ∧ record.object.isHeading = true ∧
      ∀ pass : Pass, pass.add page element offset role =
        ⟨pass.pending, pass.records ++ [record], pass.notices ++ notices⟩ := by
  rcases isSection with rfl | ⟨level, rfl⟩
  · refine ⟨⟨.heading 0 "0" page.localPath page.file.text, element.flatten, page.file,
      page.pageClass, offset⟩, [], rfl, rfl, ?_⟩
    intro pass
    rw [List.append_nil]
    rfl
  · exact ⟨⟨.heading level _ _ _, _, _, _, offset⟩, _, rfl, rfl, fun _ => rfl⟩

theorem mem_describe {page : Page} {summary : String} {pending : List Term} {record : Record}
    (mem : record ∈ describe page summary pending) :
    (∃ term ∈ pending, record.object = term.object) ∧
      ∃ first ∈ pending.head?, record.offset = first.offset := by
  cases pending with
  | nil => cases mem
  | cons first others =>
    obtain ⟨term, isTerm, rfl⟩ := List.mem_map.mp mem
    exact ⟨⟨term, isTerm, rfl⟩, first, rfl, rfl⟩

theorem summary_of_mem_describe {page : Page} {summary : String} {pending : List Term}
    {record : Record} (mem : record ∈ describe page summary pending) :
    record.summary = summary := by
  cases pending with
  | nil => cases mem
  | cons first others =>
    obtain ⟨term, -, rfl⟩ := List.mem_map.mp mem
    rfl

theorem role?_eq_of_section {pass : Pass} {tag : StartTag} {role : Role}
    (taken : pass.role? tag = some role) (isSection : role = .title ∨ ∃ level, role = .heading level)
    (other : Pass) : other.role? tag = some role := by
  unfold role? at taken ⊢
  split at taken
  · rcases isSection with rfl | ⟨level, rfl⟩ <;> cases taken
  next notTerm =>
    rw [if_neg notTerm]
    split at taken
    · rcases isSection with rfl | ⟨level, rfl⟩ <;> cases taken
    · have notDescription : ¬tag.name = "dd" := by
        rintro isDescription
        rw [isDescription] at taken
        split at taken <;> simp_all [Heading.levelOf?]
      simpa [notDescription] using taken

/-- A record is found again by the pass over the events from some start tag on: the tag stands at
the place of the record. -/
def Extractable (whole : List Event) (all : List Record) (record : Record) : Prop :=
  ∃ tag rest, .opening tag :: rest <:+ whole ∧ tag.offset = record.offset ∧
    record ∈ (start.run page (.opening tag :: rest)).records ∧
    (record.object.isHeading = true →
      (start.run page (.opening tag :: rest)).records.head? = some record) ∧
    (record.object.isHeading = false →
      (start.run page (.opening tag :: rest)).records <:+ all)

/-- The terms that wait while these events are left: the pass got here from the first of them, and
no term waited there. -/
structure Anchored (whole : List Event) (pass : Pass) (left : List Event) : Prop where
  objects : ∀ term ∈ pass.pending, term.object.isHeading = false
  anchor : ∀ first ∈ pass.pending.head?, ∃ tag rest records notices,
    .opening tag :: rest <:+ whole ∧ tag.offset = first.offset ∧ records <+: pass.records ∧
      pass.run page left = (Pass.mk [] records notices).run page (.opening tag :: rest)

variable {page}

theorem anchored_of_pending_eq_nil {whole left : List Event} {pass : Pass}
    (none : pass.pending = []) : Anchored page whole pass left := by
  refine ⟨?_, ?_⟩ <;> simp [none]

theorem Anchored.move {whole left more : List Event} {pass : Pass}
    (anchored : Anchored page whole pass left)
    (goesOn : pass.run page left = pass.run page more) : Anchored page whole pass more :=
  ⟨anchored.objects, goesOn ▸ anchored.anchor⟩

theorem run_opening (page : Page) (pass : Pass) (tag : StartTag) (rest : List Event) :
    pass.run page (.opening tag :: rest) =
      (pass.onOpening page tag rest).1.run page (pass.onOpening page tag rest).2 := by
  rw [run]

theorem onOpening_of_role? {pass : Pass} {tag : StartTag} {role : Role}
    (taken : pass.role? tag = some role) (rest : List Event) :
    pass.onOpening page tag rest =
      (pass.add page (tag.subtree rest).1 tag.offset role, (tag.subtree rest).2) := by
  rw [onOpening, taken]

theorem extractable_of_section {whole : List Event} {all : List Record} {tag : StartTag}
    {rest : List Event} {role : Role} {record : Record} {notices : List MadeId}
    (suffix : .opening tag :: rest <:+ whole) (taken : ∀ other : Pass, other.role? tag = some role)
    (place : record.offset = tag.offset) (isSection : record.object.isHeading = true)
    (added : ∀ pass : Pass, pass.add page (tag.subtree rest).1 tag.offset role =
      ⟨pass.pending, pass.records ++ [record], pass.notices ++ notices⟩) :
    Extractable page whole all record := by
  have again : (start.run page (.opening tag :: rest)).records =
      record :: ((Pass.mk [] [] []).run page (tag.subtree rest).2).records := by
    rw [run_opening, onOpening_of_role? (taken start), added start, records_run]
    rfl
  refine ⟨tag, rest, suffix, place.symm, ?_, ?_, ?_⟩
  · rw [again]
    exact List.mem_cons_self
  · intro _
    rw [again, List.head?_cons]
  · intro notSection
    rw [isSection] at notSection
    contradiction

/-- A record that a description gives is found again from the first of the terms on. -/
theorem extractable_of_description {whole left more : List Event} {pass next : Pass}
    {summary : String} {record : Record} (anchored : Anchored page whole pass left)
    (goesOn : pass.run page left = next.run page more)
    (added : next.records = pass.records ++ describe page summary pass.pending)
    (mem : record ∈ describe page summary pass.pending) :
    Extractable page whole (pass.run page left).records record := by
  cases waiting : pass.pending with
  | nil =>
    rw [waiting, describe] at mem
    contradiction
  | cons first others =>
    have describes := mem
    rw [waiting, describe] at describes
    obtain ⟨term, isTerm, rfl⟩ := List.mem_map.mp describes
    have notSection := anchored.objects term (waiting ▸ isTerm)
    obtain ⟨tag, rest, records, notices, suffix, place, ⟨since, split⟩, same⟩ :=
      anchored.anchor first (by rw [waiting]; rfl)
    have all : (pass.run page left).records =
        records ++ (start.run page (.opening tag :: rest)).records := by
      rw [same, records_run]
      rfl
    -- What has been found since the first term is what a pass from there on finds.
    have found : (start.run page (.opening tag :: rest)).records =
        since ++ describe page summary pass.pending ++
          ((Pass.mk next.pending [] []).run page more).records := by
      refine List.append_cancel_left (?_ : records ++ _ = records ++ _)
      rw [← all, goesOn, records_run, added, ← split]
      simp only [List.append_assoc]
    refine ⟨tag, rest, suffix, place, ?_, ?_, ?_⟩
    · rw [found]
      exact List.mem_append_left _ (List.mem_append_right _ mem)
    · intro isSection
      rw [notSection] at isSection
      contradiction
    · intro _
      exact ⟨records, all.symm⟩

theorem Anchored.addTerm {whole rest : List Event} {pass : Pass} {tag : StartTag}
    (anchored : Anchored page whole pass (.opening tag :: rest))
    (suffix : .opening tag :: rest <:+ whole) (taken : pass.role? tag = some .term) :
    Anchored page whole (pass.addTerm (tag.subtree rest).1 tag.offset) (tag.subtree rest).2 := by
  have goesOn : pass.run page (.opening tag :: rest) =
      (pass.addTerm (tag.subtree rest).1 tag.offset).run page (tag.subtree rest).2 := by
    rw [run_opening, onOpening_of_role? taken]
    rfl
  unfold Pass.addTerm at goesOn ⊢
  cases named : termObject? (tag.subtree rest).1 with
  | none =>
    simp only [named] at goesOn ⊢
    exact anchored.move goesOn
  | some object =>
    simp only [named] at goesOn ⊢
    split at goesOn
    next waits =>
      rw [if_pos waits]
      exact anchored.move goesOn
    next isNew =>
      rw [if_neg isNew]
      constructor
      · intro term mem
        rcases List.mem_append.mp mem with waits | isNew
        · exact anchored.objects term waits
        · rw [List.mem_singleton.mp isNew]
          exact isHeading_of_termObject? named
      · intro first isFirst
        cases waiting : pass.pending with
        | nil =>
          simp only [waiting, List.nil_append, List.head?_cons, Option.mem_def,
            Option.some.injEq] at isFirst
          refine ⟨tag, rest, pass.records, pass.notices, suffix, ?_, List.prefix_rfl, ?_⟩
          · rw [← isFirst]
          · rw [waiting] at goesOn
            rw [← goesOn, ← waiting]
        | cons oldest others =>
          rw [waiting] at goesOn
          rw [← goesOn]
          apply anchored.anchor
          simpa [waiting] using isFirst

theorem Anchored.append {whole left more : List Event} {pass : Pass}
    (anchored : Anchored page whole pass left) (records : List Record) (notices : List MadeId)
    (goesOn : pass.run page left =
      (Pass.mk pass.pending (pass.records ++ records) notices).run page more) :
    Anchored page whole ⟨pass.pending, pass.records ++ records, notices⟩ more := by
  refine ⟨anchored.objects, ?_⟩
  intro first isFirst
  obtain ⟨tag, rest, before, notices, suffix, place, since, same⟩ := anchored.anchor first isFirst
  refine ⟨tag, rest, before, notices, suffix, place, ?_, ?_⟩
  · exact since.trans (List.prefix_append _ _)
  · rw [← goesOn, same]

theorem anchored_addSection {whole rest : List Event} {pass : Pass} {tag : StartTag} {role : Role}
    (anchored : Anchored page whole pass (.opening tag :: rest))
    (suffix : .opening tag :: rest <:+ whole) (taken : pass.role? tag = some role)
    (isSection : role = .title ∨ ∃ level, role = .heading level) :
    Anchored page whole (pass.add page (tag.subtree rest).1 tag.offset role)
        (tag.subtree rest).2 ∧
      ∀ record ∈ (pass.add page (tag.subtree rest).1 tag.offset role).records,
        record ∈ pass.records ∨
          Extractable page whole (pass.run page (.opening tag :: rest)).records record := by
  have goesOn := run_opening page pass tag rest
  obtain ⟨record, notices, place, isHeading, added⟩ :=
    exists_add_eq page isSection (tag.subtree rest).1 tag.offset
  rw [onOpening_of_role? taken, added] at goesOn
  rw [added]
  refine ⟨anchored.append [record] _ goesOn, ?_⟩
  intro other mem
  rcases List.mem_append.mp mem with before | same
  · exact .inl before
  · rw [List.mem_singleton.mp same]
    exact .inr (extractable_of_section suffix (role?_eq_of_section taken isSection) place
      isHeading added)

theorem records_addTerm (pass : Pass) (term : Markup.Element) (offset : Nat) :
    (pass.addTerm term offset).records = pass.records := by
  unfold addTerm
  split
  · rfl
  · split <;> rfl

theorem mem_pending_addTerm {pass : Pass} {element : Markup.Element} {offset : Nat} {term : Term}
    (mem : term ∈ (pass.addTerm element offset).pending) :
    term ∈ pass.pending ∨ termObject? element = some term.object ∧ term.offset = offset := by
  unfold addTerm at mem
  split at mem
  next => exact .inl mem
  next object named =>
    split at mem
    next => exact .inl mem
    next =>
      rcases List.mem_append.mp mem with waits | isNew
      · exact .inl waits
      · obtain rfl := List.mem_singleton.mp isNew
        exact .inr ⟨named, rfl⟩

/-- What a start tag leads to keeps the anchor, and the records that it adds can be extracted. -/
theorem anchored_onOpening {whole rest : List Event} {pass : Pass} {tag : StartTag}
    (anchored : Anchored page whole pass (.opening tag :: rest))
    (suffix : .opening tag :: rest <:+ whole) :
    Anchored page whole (pass.onOpening page tag rest).1 (pass.onOpening page tag rest).2 ∧
      ∀ record ∈ (pass.onOpening page tag rest).1.records, record ∈ pass.records ∨
        Extractable page whole (pass.run page (.opening tag :: rest)).records record := by
  have goesOn := run_opening page pass tag rest
  cases taken : pass.role? tag with
  | none =>
    have stays : pass.onOpening page tag rest = (pass, rest) := by rw [onOpening, taken]
    rw [stays] at goesOn ⊢
    exact ⟨anchored.move goesOn, fun record mem => .inl mem⟩
  | some role =>
    rw [onOpening_of_role? taken] at goesOn ⊢
    cases role with
    | term =>
      refine ⟨anchored.addTerm suffix taken, ?_⟩
      intro record mem
      exact .inl (by simpa only [add, records_addTerm] using mem)
    | description =>
      refine ⟨anchored_of_pending_eq_nil rfl, ?_⟩
      intro record mem
      rcases List.mem_append.mp mem with before | added
      · exact .inl before
      · exact .inr (extractable_of_description anchored goesOn rfl added)
    | title => exact anchored_addSection anchored suffix taken (.inl rfl)
    | heading level => exact anchored_addSection anchored suffix taken (.inr ⟨level, rfl⟩)

theorem onOpening_suffix (pass : Pass) (tag : StartTag) (rest : List Event) :
    (pass.onOpening page tag rest).2 <:+ rest := by
  unfold onOpening
  cases pass.role? tag with
  | none => exact List.suffix_rfl
  | some role =>
    obtain ⟨used, split, -⟩ := tag.exists_run_subtree rest
    exact ⟨used, split.symm⟩

/-- What every element in its role keeps, the pass keeps. -/
theorem run_keeps {P : Pass → Prop} {events : List Event} {pass : Pass} (holds : P pass)
    (kept : ∀ (pass : Pass) (tag : StartTag) (role : Role) (element : Markup.Element),
      .opening tag ∈ events → pass.role? tag = some role → P pass →
        P (pass.add page element tag.offset role)) :
    P (pass.run page events) := by
  fun_induction run page pass events with
  | case1 pass => exact holds
  | case2 pass tag rest next ih =>
    have within : next.2 ⊆ rest := (onOpening_suffix pass tag rest).subset
    refine ih ?_ fun pass further role element mem =>
      kept pass further role element (List.mem_cons_of_mem _ (within mem))
    show P (pass.onOpening page tag rest).1
    cases taken : pass.role? tag with
    | none => rwa [onOpening, taken]
    | some role =>
      rw [onOpening_of_role? taken]
      exact kept pass tag role _ List.mem_cons_self taken holds
  | case3 pass event rest _ ih =>
    exact ih holds fun pass tag role element mem =>
      kept pass tag role element (List.mem_cons_of_mem _ mem)

/-- The records of a pass that stands somewhere in a page can be extracted, but for those that it
has found before. -/
theorem extractable_of_mem_run {whole left : List Event} {pass : Pass}
    (anchored : Anchored page whole pass left) (suffix : left <:+ whole) {record : Record}
    (mem : record ∈ (pass.run page left).records) :
    record ∈ pass.records ∨ Extractable page whole (pass.run page left).records record := by
  fun_induction run page pass left with
  | case1 pass => exact .inl mem
  | case2 pass tag rest next ih =>
    obtain ⟨anchored', extractable⟩ := anchored_onOpening anchored suffix
    have behind : next.2 <:+ whole :=
      (onOpening_suffix pass tag rest).trans ((List.suffix_cons _ _).trans suffix)
    rw [run_opening] at extractable
    rcases ih anchored' behind mem with before | found
    · exact extractable record before
    · exact .inr found
  | case3 pass event rest notOpening ih =>
    have goesOn : pass.run page (event :: rest) = pass.run page rest := by
      rw [run]
      exact notOpening
    exact ih (anchored.move goesOn) ((List.suffix_cons _ _).trans suffix) mem

end Pass

def Page.indexFrom (page : Page) (text : String) (offset : Nat) : Pass :=
  page.index (String.ofList (text.toList.drop offset))

/-- The place of a record is enough to extract it again. The text from there on begins with markup
and gives the record, as its first one if it is a section; if it is a definition, the text gives
just what the whole text gives at its end. -/
theorem Page.records_indexFrom_offset (page : Page) (text : String) (record : Record)
    (found : record ∈ (page.index text).records) :
    (text.toList.drop record.offset).head? = some '<' ∧
      { record with offset := 0 } ∈ (page.indexFrom text record.offset).records ∧
      (record.object.isHeading = true →
        (page.indexFrom text record.offset).records.head? = some { record with offset := 0 }) ∧
      (record.object.isHeading = false →
        (page.indexFrom text record.offset).records.map (Record.shift record.offset) <:+
          (page.index text).records) := by
  rw [index_eq] at found
  have start : Pass.start.shift record.offset = Pass.start := rfl
  rcases Pass.extractable_of_mem_run (Pass.anchored_of_pending_eq_nil rfl) List.suffix_rfl found
    with before | ⟨tag, rest, suffix, place, mem, first, last⟩
  · contradiction
  obtain ⟨behind, dropped, again⟩ := Markup.eq_events_of_suffix suffix
  rw [place] at dropped again
  rw [again, ← start, Pass.run_shift] at mem first last
  rw [indexFrom, index_eq, index_eq, dropped, String.toList_ofList]
  refine ⟨rfl, ?_, ?_, last⟩
  · obtain ⟨here, isHere, same⟩ := List.mem_map.mp mem
    rw [← Record.eq_of_shift_offset same]
    exact isHere
  · intro isSection
    have isFirst := first isSection
    rw [Pass.shift, List.head?_map] at isFirst
    obtain ⟨here, isHere, same⟩ := Option.map_eq_some_iff.mp isFirst
    rw [← Record.eq_of_shift_offset same]
    exact isHere

/-- The second of two terms with one description is found again from the first one on. -/
theorem Page.records_indexFrom_offset_secondTerm :
    let page : Page := ⟨⟨"lists.html"⟩, .misc, "lists"⟩
    let text := "<h1 id=s>S</h1><dt class=pubdef><a id=f/1>f</a><dt class=pubdef><a id=g/2>g</a>" ++
      "<dd>Does it. Or not."
    let second : Record := ⟨.callable "g" 2, "Does it.", ⟨"lists.html"⟩, .misc, 15⟩
    second ∈ (page.index text).records ∧
      { second with offset := 0 } ∈ (page.indexFrom text second.offset).records := by
  refine ⟨by decide +kernel, ?_⟩
  exact (records_indexFrom_offset _ _ _ (by decide +kernel)).2.1

end DocIndex
