import DocIndex.Proofs.Markup.Replacing
import DocIndex.Proofs.Markup.Uncommented
import DocIndex.Proofs.Page.Extraction
import Mathlib.Data.List.Forall2

/-!
# Comments in a page

A page gives the same records and notices whatever its comments say, with the records of what stands
behind a comment as much further on as the comment is longer. What an element is taken for does not
depend on the comments in it (`add_uncommented`), so that a pass over the events without comments is
the pass over the events (`run_withoutComments`).
-/

namespace DocIndex

open Markup (Element Event StartTag Piece eventsFrom withoutComments)

/-! ### What is read off an element -/

theorem termObject?_uncommented (term : Element) :
    termObject? term.uncommented = termObject? term := by
  rw [termObject?, Element.find?_uncommented fun _ => rfl, Option.bind_map]
  rfl

namespace Heading

theorem pairIn?_uncommented (number : Option Element) (siblings : List Element) :
    pairIn? (number.map Element.uncommented) (siblings.map Element.uncommented) =
      (pairIn? number siblings).map (Prod.map Element.uncommented Element.uncommented) := by
  have numbered (e : Element) : isNumber e.uncommented = isNumber e := rfl
  have entitled (e : Element) : isTitle e.uncommented = isTitle e := rfl
  induction siblings generalizing number with
  | nil => rfl
  | cons e rest ih =>
    rw [List.map_cons]
    unfold pairIn?
    rw [numbered, entitled]
    split
    · exact ih (some e)
    · cases number with
      | none => exact ih none
      | some first =>
        cases isTitle e with
        | true => rfl
        | false => exact ih (some first)

theorem marked?_uncommented (heading : Element) :
    marked? heading.uncommented =
      (marked? heading).map (Prod.map Element.uncommented Element.uncommented) := by
  rw [marked?, Element.descendants_uncommented, List.findSome?_map, marked?, List.map_findSome?]
  congr 1
  funext parent
  rw [Function.comp_apply, Element.elements_uncommented]
  exact pairIn?_uncommented none parent.elements

theorem ofElement_uncommented (heading : Element) (level : UInt8) :
    ofElement heading.uncommented level = ofElement heading level := by
  have parts : numberAndTitle heading.uncommented = numberAndTitle heading := by
    rw [numberAndTitle, numberAndTitle, marked?_uncommented, Element.flatten_uncommented]
    cases marked? heading with
    | none => rfl
    | some pair => simp only [Option.map_some, Prod.map, Element.flatten_uncommented]
  rw [ofElement, parts]
  rfl

end Heading

namespace Pass

variable (page : Page)

theorem add_uncommented (pass : Pass) (element : Element) (offset : Nat) (role : Role) :
    pass.add page element.uncommented offset role = pass.add page element offset role := by
  cases role with
  | term => rw [add, addTerm, termObject?_uncommented]; rfl
  | description => rw [add, addDescription, Element.summary_uncommented]; rfl
  | title => rw [add, addTitle, Element.flatten_uncommented]; rfl
  | heading level => rw [add, addHeading, Heading.ofElement_uncommented]; rfl

/-! ### Events without comments -/

theorem onOpening_withoutComments (pass : Pass) (tag : StartTag) (rest : List Event) :
    pass.onOpening page tag (withoutComments rest) =
      ((pass.onOpening page tag rest).1, withoutComments (pass.onOpening page tag rest).2) := by
  unfold onOpening
  cases pass.role? tag with
  | none => rfl
  | some role => simp only [StartTag.subtree_withoutComments, add_uncommented]

/-- A pass does not see comments. -/
theorem run_withoutComments (pass : Pass) (events : List Event) :
    pass.run page (withoutComments events) = pass.run page events := by
  fun_induction run page pass events with
  | case1 pass => rw [withoutComments, List.filter_nil, run]
  | case2 pass tag rest next ih =>
    rw [Markup.withoutComments_cons rfl, run, onOpening_withoutComments, ← ih]
  | case3 pass event rest notOpening ih =>
    cases kind : event.isComment with
    | true =>
      cases event with
      | opening | closing | text => contradiction
      | comment body => rw [Markup.withoutComments_comment, ih]
    | false =>
      rw [Markup.withoutComments_cons kind, run, ih]
      exact notOpening

theorem run_comment (pass : Pass) (front back : List Event) (body : String) :
    pass.run page (front ++ .comment body :: back) = pass.run page (front ++ back) := by
  rw [← run_withoutComments, Markup.withoutComments_append, Markup.withoutComments_comment,
    ← Markup.withoutComments_append, run_withoutComments]

end Pass

/-! ### Places behind a comment -/

/-- Where a start tag stands when something of this size is put in at a place. -/
def further (place size offset : Nat) : Nat :=
  if offset < place then offset else offset + size

theorem move_further_of_mem {before : List Piece} {place size : Nat}
    (length : (before.flatMap Piece.source).length = place) :
    (eventsFrom 0 before).map (Event.move (further place size)) = eventsFrom 0 before := by
  have stays : ∀ event ∈ eventsFrom 0 before, event.move (further place size) = event.move id := by
    intro event mem
    refine Event.move_congr fun tag same => ?_
    have inFront := (Markup.offset_of_mem_eventsFrom (same ▸ mem)).2
    exact if_pos (by omega)
  rw [List.map_congr_left stays, Event.move_id, List.map_id]

theorem move_further_behind (behind : List Piece) (place size : Nat) :
    (eventsFrom place behind).map (Event.move (further place size)) =
      eventsFrom (place + size) behind := by
  have moves : ∀ event ∈ eventsFrom place behind,
      event.move (further place size) = event.move (· + size) := by
    intro event mem
    refine Event.move_congr fun tag same => ?_
    have further := (Markup.offset_of_mem_eventsFrom (same ▸ mem)).1
    exact if_neg (by omega)
  rw [List.map_congr_left moves, ← Event.shift_eq_move, Markup.eventsFrom_add]

/-- A page with a comment that begins behind these characters. -/
def commented (front body behind : String) : String :=
  front ++ "<!--" ++ body ++ "-->" ++ behind

theorem toList_commented (front body behind : String) :
    (commented front body behind).toList =
      front.toList ++ ((Piece.comment body.toList true).source ++ behind.toList) := by
  simp [commented, Piece.source]

/-- Whatever a comment says, the pass over the page is one over the rest of the page, moved by the
size of the comment. -/
theorem Page.exists_index_commented (page : Page) {front body behind : String}
    (gives : Markup.GivesCommentBehind front.toList (commented front body behind).toList) :
    ∃ pass : Pass, ∀ other : String, ¬"-->".toList <:+: other.toList →
      page.index (commented front other behind) =
        pass.move (further front.length (other.length + 7)) := by
  rw [toList_commented] at gives
  obtain ⟨before, length, around⟩ := gives.exists_events
  rw [String.length_toList] at length
  refine ⟨Pass.start.run page (eventsFrom 0 before ++
    eventsFrom front.length (Markup.pieces behind.toList)), ?_⟩
  intro other noEnd
  rw [Page.index_eq, toList_commented, around other.toList noEnd, Pass.run_comment, ← Pass.run_move,
    List.map_append, move_further_of_mem length, move_further_behind, String.length_toList,
    String.length_toList]
  rfl

/-- A record of a page and one of the page with another comment, of another size: they say the same,
and the second is further on by the difference if it stands behind the comment. -/
structure Record.Follows (place size size' : Nat) (record record' : Record) : Prop where
  same : record' = { record with offset := record'.offset }
  moved : record.offset < place ∧ record'.offset = record.offset ∨
    place + size + 7 ≤ record.offset ∧ record'.offset + size = record.offset + size'

theorem Record.follows_move (place size size' : Nat) (record : Record) :
    Record.Follows place size size' (record.move (further place (size + 7)))
      (record.move (further place (size' + 7))) := by
  refine ⟨rfl, ?_⟩
  simp only [Record.move, further]
  split
  · exact .inl ⟨by assumption, rfl⟩
  · exact .inr ⟨by omega, by omega⟩

/-- What a comment says is nothing to the page: with another comment in its place the notices are
the same, and so are the records, in the same order, with those behind the comment further on by the
difference of the sizes. -/
theorem Page.index_replaceComment (page : Page) {front body body' behind : String}
    (noEnd : ¬"-->".toList <:+: body.toList) (noEnd' : ¬"-->".toList <:+: body'.toList)
    (gives : Markup.GivesCommentBehind front.toList (commented front body behind).toList) :
    (page.index (commented front body' behind)).notices =
        (page.index (commented front body behind)).notices ∧
      List.Forall₂ (Record.Follows front.length body.length body'.length)
        (page.index (commented front body behind)).records
        (page.index (commented front body' behind)).records := by
  obtain ⟨pass, alike⟩ := page.exists_index_commented gives
  rw [alike body noEnd, alike body' noEnd']
  refine ⟨rfl, ?_⟩
  rw [Pass.move, Pass.move, List.forall₂_map_left_iff, List.forall₂_map_right_iff, List.forall₂_same]
  exact fun record _ => record.follows_move front.length body.length body'.length

/-- A comment between a term and its description that holds another term, and one that ends in a
hyphen; the heading behind it gets its identifier from its title. -/
theorem Page.index_replaceComment_hiddenTerm :
    let page : Page := ⟨⟨"lists.html"⟩, .misc, "lists"⟩
    let front := "<dt class=pubdef><a id=f/1>f</a>"
    let body := "<dt class=pubdef><a id=g/2>g</a>"
    let behind := "<dd>Does it.</dd><h2>T</h2>"
    ¬"-->".toList <:+: body.toList ∧ ¬"-->".toList <:+: "-".toList ∧
      Markup.GivesCommentBehind front.toList (commented front body behind).toList ∧
      (page.index (commented front body behind)).records.map Record.offset = [0, 88] ∧
      (page.index (commented front "-" behind)).records.map Record.offset = [0, 57] ∧
      (page.index (commented front "-" behind)).notices =
        (page.index (commented front body behind)).notices ∧
      List.Forall₂ (Record.Follows front.length body.length "-".length)
        (page.index (commented front body behind)).records
        (page.index (commented front "-" behind)).records := by
  intro page front body behind
  have noEnd : ¬"-->".toList <:+: body.toList := by decide +kernel
  have noEnd' : ¬"-->".toList <:+: "-".toList := by decide +kernel
  have gives : Markup.GivesCommentBehind front.toList (commented front body behind).toList :=
    ⟨[.startTag "dt".toList " class=pubdef".toList true, .startTag "a".toList " id=f/1".toList true,
        .text "f".toList, .endTag "a".toList [] true],
      body.toList, true, Markup.pieces behind.toList, by decide +kernel, by decide +kernel⟩
  exact ⟨noEnd, noEnd', gives, by decide +kernel, by decide +kernel,
    page.index_replaceComment noEnd noEnd' gives⟩

end DocIndex
