import DocIndex.Page
import DocIndex.Proofs.Markup.Omission
import DocIndex.Proofs.Page.Extraction

/-!
# Written pages

A page of headings and definition lists, in which the end tags of terms and descriptions may be left
out, gives the records that its blocks say. The invariant of a group of definitions is that its
objects wait, each of them once, with the place of the first term (`Waits`); its description turns
them into records and leaves none waiting.
-/

namespace DocIndex

open Markup (Bounds Event IsMarkup eventsAt writeElement writeEnd writeStart writeText)

/-! ### Blocks -/

structure WrittenTerm where
  token : String
  label : String
  /-- Whether the end tag is written. -/
  closed : Bool
  object : Object
  identifies : Object.ofIdentifier token = .ok object

structure WrittenGroup where
  first : WrittenTerm
  others : List WrittenTerm
  body : String
  /-- Whether the end tag of the description is written. -/
  closed : Bool

structure WrittenHeading where
  rank : Fin 4
  id : String
  text : String
  named : id ≠ ""

inductive Block where
  | heading (written : WrittenHeading)
  | definitions (first : WrittenGroup) (others : List WrittenGroup)

namespace WrittenTerm

def write (term : WrittenTerm) : List Char :=
  writeElement "dt" [⟨"class", "pubdef"⟩]
    (writeElement "a" [⟨"id", term.token⟩] (writeText term.label) true) term.closed

end WrittenTerm

namespace WrittenGroup

def terms (group : WrittenGroup) : List WrittenTerm :=
  group.first :: group.others

def write (group : WrittenGroup) : List Char :=
  group.terms.flatMap WrittenTerm.write ++ writeElement "dd" [] (writeText group.body) group.closed

/-- One record for each object, with the first sentence of the description and the place of the
first term. -/
def records (page : Page) (offset : Nat) (group : WrittenGroup) : List Record :=
  (group.terms.map WrittenTerm.object).eraseDups.map fun object =>
    ⟨object, String.ofList (Text.normalize (firstSentence group.body.toList)), page.file,
      page.pageClass, offset⟩

end WrittenGroup

namespace WrittenHeading

def tag (heading : WrittenHeading) : String :=
  match heading.rank with
  | 0 => "h1"
  | 1 => "h2"
  | 2 => "h3"
  | 3 => "h4"

def level (heading : WrittenHeading) : UInt8 :=
  UInt8.ofNat (heading.rank + 1)

def write (heading : WrittenHeading) : List Char :=
  writeElement heading.tag [⟨"id", heading.id⟩] (writeText heading.text) true

def record (page : Page) (offset : Nat) (heading : WrittenHeading) : Record :=
  let parts := Heading.splitNumber (Text.normalize heading.text.toList)
  ⟨.heading heading.level (String.ofList parts.1) heading.id page.file.text,
    String.ofList parts.2, page.file, page.pageClass, offset⟩

end WrittenHeading

/-- What parts of a text give that stand one behind the other, the first of them at this place. -/
def placed {α : Type} (write : α → List Char) (records : Nat → α → List Record) (offset : Nat) :
    List α → List Record
  | [] => []
  | part :: rest =>
    records offset part ++ placed write records (offset + (write part).length) rest

namespace Block

def write : Block → List Char
  | heading written => written.write
  | definitions first others =>
    writeStart "dl" [] ++ ((first :: others).flatMap WrittenGroup.write ++ writeEnd "dl")

def records (page : Page) (offset : Nat) : Block → List Record
  | heading written => [written.record page offset]
  | definitions first others =>
    placed WrittenGroup.write (WrittenGroup.records page) (offset + (writeStart "dl" []).length)
      (first :: others)

end Block

/-! ### Elements of the pass -/

theorem isMarkup_dt : IsMarkup "dt" [⟨"class", "pubdef"⟩] := by
  constructor <;> decide +kernel

theorem isMarkup_dd : IsMarkup "dd" [] := by
  constructor <;> decide +kernel

theorem isMarkup_dl : IsMarkup "dl" [] := by
  constructor <;> decide +kernel

theorem isMarkup_anchor (token : String) : IsMarkup "a" [⟨"id", token⟩] := by
  refine ⟨by decide +kernel, ?_, by decide⟩
  intro a mem
  rw [List.mem_singleton.mp mem]
  exact (by decide +kernel : Markup.isName "id" = true)

theorem isMarkup_heading (heading : WrittenHeading) :
    IsMarkup heading.tag [⟨"id", heading.id⟩] := by
  have tags : Markup.isName heading.tag = true ∧ Markup.isRawTextElement heading.tag = false := by
    unfold WrittenHeading.tag
    split <;> decide +kernel
  exact ⟨tags.1, (isMarkup_anchor heading.id).names, tags.2⟩

def WrittenTerm.anchor (term : WrittenTerm) : Markup.Element :=
  ⟨"a", [⟨"id", term.token⟩], Markup.textNodes term.label⟩

theorem readsNodes_anchor (term : WrittenTerm) :
    Markup.ReadsNodes "dt" [term.anchor.toNode]
      (writeElement "a" [⟨"id", term.token⟩] (writeText term.label) true) := by
  have markup := isMarkup_anchor term.token
  have element : Markup.WritesElement "a" [⟨"id", term.token⟩] (writeText term.label) _ :=
    .paired (by decide) (Markup.lower_toList markup.named)
      (Markup.writesAttributes_write markup.names) (Markup.lower_toList markup.named)
  have writes := Markup.Writes.element markup.notRaw (by simp [Markup.voidElements])
    (Markup.writes_textNodes term.label) element .nil
  have regular : Markup.AreRegular "dt" [term.anchor.toNode] := by
    simp [WrittenTerm.anchor, Markup.Element.toNode, Markup.AreRegular, Markup.Node.IsRegular,
      Markup.Node.isText, Markup.Node.element?, markup.named, markup.notRaw,
      Markup.areRegular_textNodes, Markup.impliesEnd]
    exact (by decide +kernel : Markup.isName "id" = true)
  have spelled := writes.readsNodes regular
  simpa [writeElement, writeStart, writeEnd, WrittenTerm.anchor, Markup.Element.toNode]
    using spelled

theorem readsNodes_text (parent text : String) :
    Markup.ReadsNodes parent (Markup.textNodes text) (writeText text) :=
  (Markup.writes_textNodes text).readsNodes (Markup.areRegular_textNodes parent text)

namespace Pass

variable {page : Page}

variable (page) in
theorem run_writeElement {pass : Pass} {name : String} {list : List Markup.Attribute}
    {children : List Markup.Node} {content : List Char} {role : Role} {offset : Nat}
    (markup : IsMarkup name list) (notVoid : name ∉ Markup.voidElements)
    (reads : Markup.ReadsNodes name children content)
    (taken : pass.role? ⟨name, list, offset, false⟩ = some role) {closed : Bool} {rest : List Char}
    (stops : closed = true ∨ Bounds name rest) :
    pass.run page (eventsAt offset (writeElement name list content closed ++ rest)) =
      (pass.add page ⟨name, list, children⟩ offset role).run page
        (eventsAt (offset + (writeElement name list content closed).length) rest) := by
  obtain ⟨inside, events, subtree⟩ :=
    Markup.subtree_writeElement markup notVoid reads offset stops
  rw [events, run_opening, onOpening_of_role? taken, subtree]

theorem run_writeStart_list (pass : Pass) (offset : Nat) (rest : List Char) :
    pass.run page (eventsAt offset (writeStart "dl" [] ++ rest)) =
      pass.run page (eventsAt (offset + (writeStart "dl" []).length) rest) := by
  have ignored : pass.role? ⟨"dl", [], offset, false⟩ = none := by
    simp [role?, Heading.levelOf?]
  rw [Markup.eventsAt_writeStart isMarkup_dl, run_opening, onOpening, ignored]

theorem run_writeEnd {name : String} (named : Markup.isName name = true) (pass : Pass)
    (offset : Nat) (rest : List Char) :
    pass.run page (eventsAt offset (writeEnd name ++ rest)) =
      pass.run page (eventsAt (offset + (writeEnd name).length) rest) := by
  rw [Markup.eventsAt_writeEnd named, run]
  simp

/-! ### Terms that wait -/

/-- These objects wait, each of them once, with the place of the first of their terms. -/
structure Waits (place : Nat) (objects : List Object) (pending : List Term) : Prop where
  objects : pending.map Term.object = objects.eraseDups
  first : ∀ term ∈ pending.head?, term.offset = place

theorem Waits.mem_iff {place : Nat} {objects : List Object} {pending : List Term}
    (waits : Waits place objects pending) (object : Object) :
    pending.any (·.object = object) = true ↔ object ∈ objects := by
  rw [← List.mem_eraseDups, ← waits.objects]
  simp

theorem Waits.ne_nil {place : Nat} {objects : List Object} {pending : List Term}
    (waits : Waits place objects pending) (named : objects ≠ []) : pending ≠ [] := by
  obtain ⟨object, rest, rfl⟩ := List.exists_cons_of_ne_nil named
  rintro rfl
  simpa [List.eraseDups_cons] using waits.objects

theorem eraseDups_concat (objects : List Object) (object : Object) :
    (objects ++ [object]).eraseDups =
      if object ∈ objects then objects.eraseDups else objects.eraseDups ++ [object] := by
  by_cases mem : object ∈ objects <;>
    simp [List.eraseDups_append, List.removeAll, mem, List.eraseDups_cons]

theorem Waits.addTerm {place : Nat} {objects : List Object} {pass : Pass}
    {element : Markup.Element} {object : Object} {offset : Nat}
    (waits : Waits place objects pass.pending) (here : objects = [] → offset = place)
    (names : termObject? element = some object) :
    ∃ pending, Waits place (objects ++ [object]) pending ∧
      pass.addTerm element offset = ⟨pending, pass.records, pass.notices⟩ := by
  unfold Pass.addTerm
  rw [names]
  by_cases mem : object ∈ objects
  · refine ⟨pass.pending, ⟨?_, waits.first⟩, ?_⟩
    · rw [eraseDups_concat, if_pos mem, waits.objects]
    · simp only [(waits.mem_iff object).mpr mem, if_true]
  · refine ⟨pass.pending ++ [⟨object, offset⟩], ⟨?_, ?_⟩, ?_⟩
    · rw [eraseDups_concat, if_neg mem, List.map_append, waits.objects]
      rfl
    · intro term isFirst
      cases waiting : pass.pending with
      | nil =>
        have empty : objects = [] := Classical.byContradiction fun named => waits.ne_nil named waiting
        rw [waiting] at isFirst
        cases isFirst
        exact here empty
      | cons first others =>
        rw [waiting] at isFirst
        exact waits.first term (by rw [waiting]; exact isFirst)
    · have notWaiting : pass.pending.any (·.object = object) = false := by
        rw [Bool.eq_false_iff]
        exact fun waiting => mem ((waits.mem_iff object).mp waiting)
      simp only [notWaiting, Bool.false_eq_true, if_false]

theorem Waits.describe {place : Nat} {objects : List Object} {pending : List Term}
    (waits : Waits place objects pending) (summary : String) :
    Pass.describe page summary pending = objects.eraseDups.map fun object =>
      ⟨object, summary, page.file, page.pageClass, place⟩ := by
  rw [← waits.objects, List.map_map]
  cases pending with
  | nil => rfl
  | cons first others =>
    rw [Pass.describe, waits.first first rfl]
    rfl

theorem termObject?_of_anchor (term : WrittenTerm) (list : List Markup.Attribute) :
    termObject? ⟨"dt", list, [term.anchor.toNode]⟩ = some term.object := by
  have isAnchor : isAnchor term.anchor = true := by
    simp [isAnchor, WrittenTerm.anchor, anchorAttributes, Markup.Element.attribute?,
      Markup.attribute?]
  have notAnchor : DocIndex.isAnchor ⟨"dt", list, [term.anchor.toNode]⟩ = false := by
    simp [DocIndex.isAnchor]
  have found : Markup.Element.find? ⟨"dt", list, [term.anchor.toNode]⟩ DocIndex.isAnchor =
      some term.anchor := by
    simp only [Markup.Element.find?, Markup.Element.toNode, Markup.Node.find?] at notAnchor ⊢
    rw [notAnchor]
    simp only [Bool.false_eq_true, if_false, Markup.findIn?, Markup.Node.find?]
    rw [if_pos (show DocIndex.isAnchor term.anchor = true from isAnchor)]
    rfl
  rw [termObject?, found, Option.bind_some]
  simp [WrittenTerm.anchor, anchorAttributes, Markup.Element.attribute?, Markup.attribute?,
    term.identifies, Except.toOption]

/-! ### Groups and blocks -/

/-- A written term begins with its start tag, which ends a term or a description before it. -/
theorem bounds_term (term : WrittenTerm) {name : String} (item : name = "dt" ∨ name = "dd")
    (rest : List Char) : Bounds name (term.write ++ rest) := by
  rw [WrittenTerm.write, writeElement, List.append_assoc]
  refine .start _ isMarkup_dt ?_
  rcases item with rfl | rfl <;> rfl

theorem bounds_description (group : WrittenGroup) (rest : List Char) :
    Bounds "dt" (writeElement "dd" [] (writeText group.body) group.closed ++ rest) := by
  rw [writeElement, List.append_assoc]
  exact .start _ isMarkup_dd rfl

theorem bounds_terms (terms : List WrittenTerm) {rest : List Char} (bounds : Bounds "dt" rest) :
    Bounds "dt" (terms.flatMap WrittenTerm.write ++ rest) := by
  cases terms with
  | nil => exact bounds
  | cons term terms =>
    rw [List.flatMap_cons, List.append_assoc]
    exact bounds_term term (.inl rfl) _

variable (page) in
/-- The terms of a group all wait behind them. -/
theorem run_terms (terms : List WrittenTerm) {place : Nat} {objects : List Object} {pass : Pass}
    {offset : Nat} (waits : Waits place objects pass.pending) (here : objects = [] → offset = place)
    {rest : List Char} (bounds : Bounds "dt" rest) :
    ∃ pending, Waits place (objects ++ terms.map WrittenTerm.object) pending ∧
      pass.run page (eventsAt offset (terms.flatMap WrittenTerm.write ++ rest)) =
        (Pass.mk pending pass.records pass.notices).run page
          (eventsAt (offset + (terms.flatMap WrittenTerm.write).length) rest) := by
  induction terms generalizing objects pass offset with
  | nil => exact ⟨pass.pending, by simpa using waits, rfl⟩
  | cons term terms ih =>
    have taken : pass.role? ⟨"dt", [⟨"class", "pubdef"⟩], offset, false⟩ = some .term := by
      have isPublic : Markup.hasClass [⟨"class", "pubdef"⟩] "pubdef" = true := by decide +kernel
      simp [role?, isPublic]
    have first := run_writeElement page isMarkup_dt (by decide) (readsNodes_anchor term) taken
      (show term.closed = true ∨ _ from .inr (bounds_terms terms bounds))
    obtain ⟨pending, waits, added⟩ := waits.addTerm here (termObject?_of_anchor term _)
    rw [add, added] at first
    obtain ⟨whole, waits, others⟩ := @ih _ ⟨pending, pass.records, pass.notices⟩
      (offset + term.write.length) waits (by simp)
    refine ⟨whole, by simpa using waits, ?_⟩
    rw [List.flatMap_cons, List.append_assoc, List.length_append, ← Nat.add_assoc, ← others]
    exact first

/-- A group gives its records and leaves no term waiting. -/
theorem run_group (group : WrittenGroup) {pass : Pass} (empty : pass.pending = []) (offset : Nat)
    {rest : List Char} (bounds : Bounds "dd" rest) :
    pass.run page (eventsAt offset (group.write ++ rest)) =
      (Pass.mk [] (pass.records ++ group.records page offset) pass.notices).run page
        (eventsAt (offset + group.write.length) rest) := by
  have start : Waits offset [] pass.pending := ⟨by rw [empty]; rfl, by simp [empty]⟩
  obtain ⟨pending, waits, terms⟩ := run_terms page group.terms start (fun _ => rfl)
    (bounds_description group rest)
  have waiting := waits.ne_nil (by simp [WrittenGroup.terms])
  have taken : role? ⟨pending, pass.records, pass.notices⟩
      ⟨"dd", [], offset + (group.terms.flatMap WrittenTerm.write).length, false⟩ =
        some .description := by
    simp [role?, waiting]
  have description := run_writeElement page isMarkup_dd (by decide)
    (readsNodes_text "dd" group.body) taken (show group.closed = true ∨ _ from .inr bounds)
  rw [WrittenGroup.write, List.append_assoc, terms, description, add, addDescription,
    waits.describe, List.length_append, Nat.add_assoc, List.nil_append]
  simp only [WrittenGroup.records, Markup.Element.summary_eq, Markup.Element.rawText,
    Markup.rawTextOf_textNodes]

theorem bounds_groups {groups : List WrittenGroup} {rest : List Char} (bounds : Bounds "dd" rest) :
    Bounds "dd" (groups.flatMap WrittenGroup.write ++ rest) := by
  cases groups with
  | nil => exact bounds
  | cons group groups =>
    simp only [List.flatMap_cons, WrittenGroup.write, WrittenGroup.terms, List.append_assoc]
    exact bounds_term group.first (.inr rfl) _

theorem run_groups (groups : List WrittenGroup) {pass : Pass} (empty : pass.pending = [])
    (offset : Nat) {rest : List Char} (bounds : Bounds "dd" rest) :
    pass.run page (eventsAt offset (groups.flatMap WrittenGroup.write ++ rest)) =
      (Pass.mk [] (pass.records ++
          placed WrittenGroup.write (WrittenGroup.records page) offset groups) pass.notices).run page
        (eventsAt (offset + (groups.flatMap WrittenGroup.write).length) rest) := by
  induction groups generalizing pass offset with
  | nil =>
    obtain ⟨pending, records, notices⟩ := pass
    cases empty
    simp [placed]
  | cons group groups ih =>
    rw [List.flatMap_cons, List.append_assoc, run_group group empty offset (bounds_groups bounds),
      ih rfl, placed, List.length_append, Nat.add_assoc, List.append_assoc]

theorem levelOf?_tag (heading : WrittenHeading) :
    Heading.levelOf? heading.tag = some heading.level := by
  unfold WrittenHeading.tag WrittenHeading.level
  split <;> next same => rw [same]; rfl

theorem ofElement_heading (heading : WrittenHeading) :
    Heading.ofElement
        ⟨heading.tag, [⟨"id", heading.id⟩], Markup.textNodes heading.text⟩ heading.level =
      (let parts := Heading.splitNumber (Text.normalize heading.text.toList)
       ⟨heading.level, String.ofList parts.1, String.ofList parts.2, heading.id⟩, none) := by
  have unmarked :
      Heading.marked? ⟨heading.tag, [⟨"id", heading.id⟩], Markup.textNodes heading.text⟩ = none := by
    unfold Markup.textNodes
    split <;> rfl
  have id (title : String) : Heading.identify
      ⟨heading.tag, [⟨"id", heading.id⟩], Markup.textNodes heading.text⟩ title =
        (heading.id, none) := by
    simp [Heading.identify, Markup.Element.attribute?, Markup.attribute?, heading.named]
  rw [Heading.ofElement, Heading.numberAndTitle, unmarked]
  simp only [id, Markup.Element.flatten, Markup.Element.rawText, Markup.rawTextOf_textNodes,
    String.toList_ofList]

variable (page) in
theorem run_heading (heading : WrittenHeading) (pass : Pass) (offset : Nat) (rest : List Char) :
    pass.run page (eventsAt offset (heading.write ++ rest)) =
      (Pass.mk pass.pending (pass.records ++ [heading.record page offset]) pass.notices).run page
        (eventsAt (offset + heading.write.length) rest) := by
  have level := levelOf?_tag heading
  have apart : heading.tag ≠ "dt" ∧ heading.tag ≠ "dd" ∧ heading.tag ≠ "div" := by
    refine ⟨?_, ?_, ?_⟩ <;> intro same <;> rw [same] at level <;> cases level
  have notVoid : heading.tag ∉ Markup.voidElements := by
    unfold WrittenHeading.tag
    split <;> decide
  have taken : pass.role? ⟨heading.tag, [⟨"id", heading.id⟩], offset, false⟩ =
      some (.heading heading.level) := by
    simp [role?, apart, level]
  have element := run_writeElement page (isMarkup_heading heading) notVoid
    (readsNodes_text heading.tag heading.text) taken (show true = true ∨ Bounds _ rest from .inl rfl)
  rw [WrittenHeading.write, element, add, addHeading, ofElement_heading]
  simp [WrittenHeading.record]

theorem run_block (block : Block) {pass : Pass} (empty : pass.pending = []) (offset : Nat)
    (rest : List Char) :
    pass.run page (eventsAt offset (block.write ++ rest)) =
      (Pass.mk [] (pass.records ++ block.records page offset) pass.notices).run page
        (eventsAt (offset + block.write.length) rest) := by
  cases block with
  | heading written =>
    have heading := run_heading page written pass offset rest
    rwa [empty] at heading
  | definitions first others =>
    have listEnd : Bounds "dd" (writeEnd "dl" ++ rest) :=
      .ending rest isMarkup_dl.named (by decide) (by decide)
    rw [Block.write, List.append_assoc, List.append_assoc, run_writeStart_list,
      run_groups _ empty _ listEnd, run_writeEnd isMarkup_dl.named]
    simp only [Block.records, List.length_append, Nat.add_assoc]

theorem run_blocks (blocks : List Block) {pass : Pass} (empty : pass.pending = []) (offset : Nat) :
    pass.run page (eventsAt offset (blocks.flatMap Block.write)) =
      ⟨[], pass.records ++ placed Block.write (Block.records page) offset blocks,
        pass.notices⟩ := by
  induction blocks generalizing pass offset with
  | nil =>
    obtain ⟨pending, records, notices⟩ := pass
    cases empty
    simp [placed, eventsAt, Markup.eventsFrom, run]
  | cons block blocks ih =>
    rw [List.flatMap_cons, run_block block empty, ih rfl, placed, List.append_assoc]

end Pass

/-- A written page gives just what its blocks say, in their order, and nothing waits at its end. No
identifier is made up. -/
theorem Page.index_written (page : Page) (blocks : List Block) :
    page.index (String.ofList (blocks.flatMap Block.write)) =
      ⟨[], placed Block.write (Block.records page) 0 blocks, []⟩ := by
  rw [Page.index_eq, String.toList_ofList]
  exact Pass.run_blocks blocks rfl 0

/-- A heading with a number, and a list of two groups in which most end tags are left out. Two terms
of the first group have the same object. -/
theorem Page.index_written_mixedPage :
    let page : Page := ⟨⟨"a.html"⟩, .manual, "a"⟩
    let term (token : String) (object : Object) (closed : Bool)
        (names : Object.ofToken? (Text.trim token.toList) = some object) : WrittenTerm :=
      ⟨token, "x", closed, object, Object.ofIdentifier_eq_ok_iff.mpr names⟩
    let blocks : List Block :=
      [.heading ⟨1, "s", "4.1  A & B", by decide⟩,
        .definitions
          ⟨term "f/1" (.callable "f" 1) false (by decide +kernel),
            [term "m:g//2" (.qualified "m" (.grammar "g" 2)) true (by decide +kernel),
              term "f/1" (.callable "f" 1) false (by decide +kernel)],
            "x < y. Or not.", false⟩
          [⟨term "\"/0" (.callable "\"" 0) false (by decide +kernel), [], "Quotes", true⟩]]
    let text := "<h2 id=\"s\">4.1  A &amp; B</h2><dl>" ++
      "<dt class=\"pubdef\"><a id=\"f/1\">x</a><dt class=\"pubdef\"><a id=\"m:g//2\">x</a></dt>" ++
      "<dt class=\"pubdef\"><a id=\"f/1\">x</a><dd>x &lt; y. Or not." ++
      "<dt class=\"pubdef\"><a id=\"&quot;/0\">x</a><dd>Quotes</dd></dl>"
    String.ofList (blocks.flatMap Block.write) = text ∧
      (page.index text).records =
        [⟨.heading 2 "4.1" "s" "a.html", "A & B", ⟨"a.html"⟩, .manual, 0⟩,
          ⟨.callable "f" 1, "x < y.", ⟨"a.html"⟩, .manual, 34⟩,
          ⟨.qualified "m" (.grammar "g" 2), "x < y.", ⟨"a.html"⟩, .manual, 34⟩,
          ⟨.callable "\"" 0, "Quotes", ⟨"a.html"⟩, .manual, 171⟩] := by
  intro page term blocks text
  have written : String.ofList (blocks.flatMap Block.write) = text := by decide +kernel
  refine ⟨written, ?_⟩
  rw [← written, index_written]
  decide +kernel

end DocIndex
