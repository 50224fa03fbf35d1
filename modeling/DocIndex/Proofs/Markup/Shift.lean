import DocIndex.Markup.Reader

/-!
# Moved documents

A document that stands behind other characters has the same events, with its start tags further on.
And a start tag finds itself again: from where it stands, a document has the same events as a
document of its own (`eq_events_of_suffix`).
-/

namespace DocIndex.Markup

def StartTag.shift (distance : Nat) (tag : StartTag) : StartTag :=
  { tag with offset := tag.offset + distance }

def Event.shift (distance : Nat) : Event → Event
  | .opening tag => .opening (tag.shift distance)
  | .closing name => .closing name
  | .text data => .text data
  | .comment body => .comment body

def StartTag.move (place : Nat → Nat) (tag : StartTag) : StartTag :=
  { tag with offset := place tag.offset }

def Event.move (place : Nat → Nat) : Event → Event
  | .opening tag => .opening (tag.move place)
  | .closing name => .closing name
  | .text data => .text data
  | .comment body => .comment body

theorem Event.shift_eq_move (distance : Nat) : Event.shift distance = Event.move (· + distance) := by
  funext event
  cases event <;> rfl

theorem Event.move_congr {place place' : Nat → Nat} {event : Event}
    (same : ∀ tag, event = .opening tag → place tag.offset = place' tag.offset) :
    event.move place = event.move place' := by
  cases event with
  | opening tag => rw [move, move, StartTag.move, StartTag.move, same tag rfl]
  | closing | text | comment => rfl

theorem Event.move_id : Event.move id = id := by
  funext event
  cases event <;> rfl

theorem Piece.event?_add (offset distance : Nat) (piece : Piece) :
    piece.event? (offset + distance) = (piece.event? offset).map (Event.shift distance) := by
  cases piece <;> rfl

theorem eventsFrom_add (offset distance : Nat) (pieces : List Piece) :
    eventsFrom (offset + distance) pieces =
      (eventsFrom offset pieces).map (Event.shift distance) := by
  induction pieces generalizing offset with
  | nil => rfl
  | cons piece rest ih =>
    rw [eventsFrom, eventsFrom, Piece.event?_add, Nat.add_right_comm, ih, List.map_append,
      Option.toList_map]

theorem eventsFrom_pieces (offset : Nat) (document : List Char) :
    eventsFrom offset (pieces document) = (events document).map (Event.shift offset) := by
  rw [events, ← eventsFrom_add, Nat.zero_add]

/-! ### Start tags -/

theorem eq_of_opening {c : Char} {cs : List Char} {offset : Nat} {tag : StartTag}
    (given : (firstPiece c cs).1.event? offset = some (.opening tag)) :
    c = '<' ∧ tag.offset = offset := by
  cases first : (firstPiece c cs).1 with
  | comment | declaration | endTag | text | rawText =>
    rw [first] at given
    cases given
  | startTag name body closed =>
    rw [first] at given
    have source := source_firstPiece c cs
    rw [first, Piece.source, List.cons_append, List.cons_append, List.cons.injEq] at source
    cases given
    exact ⟨source.1.symm, rfl⟩

theorem suffix_eventsFrom_cons {offset : Nat} {piece : Piece} {pieces : List Piece} {event : Event}
    {rest : List Event} (suffix : event :: rest <:+ eventsFrom offset (piece :: pieces)) :
    piece.event? offset = some event ∧ event :: rest = eventsFrom offset (piece :: pieces) ∨
      event :: rest <:+ eventsFrom (offset + piece.source.length) pieces := by
  rw [eventsFrom] at suffix ⊢
  cases given : piece.event? offset with
  | none =>
    rw [given] at suffix
    exact .inr suffix
  | some first =>
    rw [given] at suffix
    rcases List.suffix_cons_iff.mp suffix with same | later
    · rw [List.cons.injEq] at same
      exact .inl ⟨congrArg some same.1.symm, by rw [same.1, same.2]; rfl⟩
    · exact .inr later

/-- Where a start tag of a document stands, its markup begins, and the events from there on are
those of the document that begins there. -/
theorem exists_source_of_suffix {offset : Nat} {document : List Char} {tag : StartTag}
    {rest : List Event} (suffix : .opening tag :: rest <:+ eventsFrom offset (pieces document)) :
    ∃ before behind, document = before ++ '<' :: behind ∧ tag.offset = offset + before.length ∧
      .opening tag :: rest = eventsFrom tag.offset (pieces ('<' :: behind)) := by
  fun_induction pieces document generalizing offset with
  | case1 =>
    rw [eventsFrom, List.suffix_nil] at suffix
    contradiction
  | case2 c cs first markup =>
    rename_i ih
    have whole := source_firstPiece c cs
    rcases suffix_eventsFrom_cons suffix with ⟨given, same⟩ | later
    · obtain ⟨rfl, here⟩ := eq_of_opening given
      refine ⟨[], cs, rfl, here, ?_⟩
      rw [here, same, pieces_cons, markup, piecesWithin_none]
    · obtain ⟨before, behind, split, place, same⟩ := ih later
      refine ⟨first.1.source ++ before, behind, ?_, ?_, same⟩
      · rw [← whole, List.append_assoc, ← split]
      · rw [place, List.length_append, Nat.add_assoc]
  | case3 c cs first name isRaw raw =>
    rename_i ih
    have whole := source_firstPiece c cs
    have inner := Text.splitBefore_append (beginsEndTag name) first.2
    rcases suffix_eventsFrom_cons suffix with ⟨given, same⟩ | later
    · obtain ⟨rfl, here⟩ := eq_of_opening given
      refine ⟨[], cs, rfl, here, ?_⟩
      rw [here, same, pieces_cons, isRaw]
      rfl
    rcases suffix_eventsFrom_cons later with ⟨given, -⟩ | later
    · cases given
    · obtain ⟨before, behind, split, place, same⟩ := ih later
      refine ⟨first.1.source ++ raw.1 ++ before, behind, ?_, ?_, same⟩
      · rw [← whole, List.append_assoc, List.append_assoc, ← split, inner]
      · simp only [place, List.length_append, Nat.add_assoc, Piece.source]

/-- A start tag is the first event of what begins where it stands. -/
theorem eq_events_of_suffix {document : List Char} {tag : StartTag} {rest : List Event}
    (suffix : .opening tag :: rest <:+ events document) :
    ∃ behind, document.drop tag.offset = '<' :: behind ∧
      .opening tag :: rest = (events ('<' :: behind)).map (Event.shift tag.offset) := by
  obtain ⟨before, behind, split, place, same⟩ := exists_source_of_suffix suffix
  rw [Nat.zero_add] at place
  refine ⟨behind, ?_, ?_⟩
  · rw [split, place, List.drop_left]
  · rw [same, eventsFrom_pieces]

/-! ### Trees -/

theorem Stack.step_move (stack : Stack) (place : Nat → Nat) (event : Event) :
    stack.step (event.move place) = stack.step event := by
  cases event <;> rfl

/-- A tree does not depend on where its start tags stand. -/
theorem Stack.build_move (stack : Stack) (place : Nat → Nat) (events : List Event) :
    stack.build (events.map (Event.move place)) =
      ((stack.build events).1, (stack.build events).2.map (Event.move place)) := by
  induction events generalizing stack with
  | nil => rfl
  | cons event rest ih =>
    simp only [List.map_cons, build, step_move]
    cases stack.step event with
    | goOn next => exact ih next
    | done root => rfl
    | doneBefore root => rfl

theorem StartTag.subtree_move (tag : StartTag) (place : Nat → Nat) (events : List Event) :
    (tag.move place).subtree (events.map (Event.move place)) =
      ((tag.subtree events).1, (tag.subtree events).2.map (Event.move place)) := by
  have size : (tag.move place).isEmpty = tag.isEmpty := rfl
  unfold subtree
  rw [size]
  split
  · rfl
  · exact Stack.build_move _ place events

end DocIndex.Markup
