import DocIndex.Proofs.Markup.Session
import DocIndex.Proofs.Text.Run

/-!
# Splitting a document

Every document splits into pieces that stand one after the other (`Arranged`), and a reader gives
their events (`Gives`) and no others (`Reader.exists_pieces_drain`). Only raw text may be empty, and
it stands behind the start tag of its element, so that there are no more events than characters.
-/

namespace DocIndex.Markup

/-! ### Single pieces -/

def beginsMarkup : List Char → Bool
  | '!' :: _ => true
  | '?' :: _ => true
  | '/' :: c :: _ => isNameChar c
  | c :: _ => c.isAlpha
  | [] => false

namespace Piece

/-- A piece of markup or text as it stands in front of the rest of a document. What lacks its end
reaches the end of the document, and text lasts to the next less-than sign. -/
inductive Stands : Piece → List Char → Prop where
  | comment {body behind : List Char} {closed : Bool} :
      ¬['-', '-', '>'] <:+: body →
      (closed = false → behind = []) →
      Stands (.comment body closed) behind
  | declaration {body behind : List Char} {closed : Bool} :
      (∃ mark ∈ body.head?, mark = '!' ∨ mark = '?') →
      ¬['!', '-', '-'] <+: body →
      '>' ∉ body →
      (closed = false → behind = []) →
      Stands (.declaration body closed) behind
  | startTag {name body behind : List Char} {closed : Bool} :
      (∃ first ∈ name.head?, first.isAlpha = true) →
      (∀ c ∈ name, isNameChar c = true) →
      Text.Ends isNameChar body →
      (closed = false → behind = []) →
      Stands (.startTag name body closed) behind
  | endTag {name body behind : List Char} {closed : Bool} :
      name ≠ [] →
      (∀ c ∈ name, isNameChar c = true) →
      Text.Ends isNameChar body →
      '>' ∉ body →
      (closed = false → behind = []) →
      Stands (.endTag name body closed) behind
  | text {c : Char} {run behind : List Char} :
      '<' ∉ run →
      (c = '<' → beginsMarkup (run ++ behind) = false) →
      Text.Ends (· != '<') behind →
      Stands (.text (c :: run)) behind

theorem Stands.source_ne_nil {piece : Piece} {behind : List Char} (stands : piece.Stands behind) :
    piece.source ≠ [] := by
  cases stands with
  | comment | declaration | startTag | endTag | text => exact List.cons_ne_nil _ _

end Piece

theorem stands_commentPiece (cs : List Char) :
    (commentPiece cs).1.Stands (commentPiece cs).2 :=
  .comment (Text.not_infix_splitAtMark (by simp) cs) Text.splitAtMark_rest

theorem stands_declarationPiece {mark : Char} {cs : List Char} (isMark : mark = '!' ∨ mark = '?')
    (noComment : ¬['!', '-', '-'] <+: mark :: cs) :
    (declarationPiece (mark :: cs)).1.Stands (declarationPiece (mark :: cs)).2 := by
  have notEnd : mark ≠ '>' := by rcases isMark with rfl | rfl <;> decide
  refine .declaration ?_ ?_ (Text.not_mem_splitAtMark _ _) Text.splitAtMark_rest
  · rw [Text.splitAtMark_cons_of_ne notEnd]
    exact ⟨mark, rfl, isMark⟩
  · intro comment
    exact noComment (comment.trans (Text.isPrefix_splitAtMark _ _))

theorem stands_endTagPiece {c : Char} (inName : isNameChar c = true) (cs : List Char) :
    (endTagPiece (c :: cs)).1.Stands (endTagPiece (c :: cs)).2 := by
  refine .endTag ?_ (List.all_eq_true.mp List.all_takeWhile) ?_ (Text.not_mem_splitAtMark _ _)
    Text.splitAtMark_rest
  · rw [List.takeWhile_cons_of_pos inName]
    exact List.cons_ne_nil _ _
  · exact (Text.ends_dropWhile _ _).of_isPrefix (Text.isPrefix_splitAtMark _ _)

theorem stands_startTagPiece {c : Char} (letter : c.isAlpha = true) (cs : List Char) :
    (startTagPiece (c :: cs)).1.Stands (startTagPiece (c :: cs)).2 := by
  have inName : isNameChar c = true := by simp [isNameChar, Char.isAlphanum, letter]
  refine .startTag ?_ (List.all_eq_true.mp List.all_takeWhile) ?_ ?_
  · rw [List.takeWhile_cons_of_pos inName]
    exact ⟨c, rfl, letter⟩
  · exact (Text.ends_dropWhile _ _).of_isPrefix ⟨_, splitTag_append none _⟩
  · intro unclosed
    have nothing : (splitTag none ((c :: cs).dropWhile isNameChar)).2 = [] := by
      simpa using unclosed
    simp only [startTagPiece, nothing, List.drop_nil]

theorem stands_markupPiece? {cs : List Char} {found : Piece × List Char}
    (read : markupPiece? cs = some found) : found.1.Stands found.2 := by
  unfold markupPiece? at read
  split at read
  next => exact Option.some.inj read ▸ stands_commentPiece _
  next after noComment =>
    refine Option.some.inj read ▸ stands_declarationPiece (.inl rfl) ?_
    rintro ⟨rest, same⟩
    simp only [List.cons_append, List.nil_append, List.cons.injEq, true_and] at same
    exact noComment rest same.symm
  next => exact Option.some.inj read ▸ stands_declarationPiece (.inr rfl) (by simp)
  next =>
    split at read
    next inName => exact Option.some.inj read ▸ stands_endTagPiece inName _
    next => contradiction
  next =>
    split at read
    next letter => exact Option.some.inj read ▸ stands_startTagPiece letter _
    next => contradiction
  next => contradiction

theorem beginsMarkup_eq_false {cs : List Char} (none : markupPiece? cs = none) :
    beginsMarkup cs = false := by
  unfold markupPiece? at none
  split at none
  · contradiction
  · contradiction
  · contradiction
  · simpa [beginsMarkup] using none
  next noComment noMark noQuestion noSlash =>
    unfold beginsMarkup
    split
    next same => exact absurd (List.cons.inj same).1 noMark
    next same => exact absurd (List.cons.inj same).1 noQuestion
    next same =>
      obtain ⟨sign, rest⟩ := List.cons.inj same
      exact (noSlash _ _ sign rest).elim
    next same =>
      obtain ⟨rfl, -⟩ := List.cons.inj same
      simpa using none
    next same => contradiction
  · rfl

theorem stands_firstPiece (c : Char) (cs : List Char) :
    (firstPiece c cs).1.Stands (firstPiece c cs).2 := by
  have asText (noMarkup : c = '<' → markupPiece? cs = none) :
      (textPiece c cs).1.Stands (textPiece c cs).2 := by
    refine .text ?_ ?_ (Text.ends_dropWhile _ _)
    · intro mem
      exact absurd (List.all_eq_true.mp List.all_takeWhile _ mem) (by decide)
    · intro sign
      rw [textPiece, List.takeWhile_append_dropWhile]
      exact beginsMarkup_eq_false (noMarkup sign)
  unfold firstPiece
  split
  next sign =>
    cases read : markupPiece? cs with
    | none => exact asText fun _ => read
    | some found => exact stands_markupPiece? read
  next noSign => exact asText fun sign => absurd sign noSign

/-! ### Documents -/

/-- Pieces that follow one another up to the end of a document, and begin in the raw text of an
element if one is given. Raw text stands behind the start tag of its element, and nowhere else. -/
inductive Arranged : Option String → List Piece → Prop where
  | nil : Arranged none []
  | piece {piece : Piece} {behind : List Piece} :
      piece.Stands (behind.flatMap Piece.source) →
      Arranged piece.rawTextElement? behind →
      Arranged none (piece :: behind)
  | rawText {name : String} {run : List Char} {behind : List Piece} :
      (behind = [] ∨ beginsEndTag name (behind.flatMap Piece.source) = true) →
      Arranged none behind →
      Arranged (some name) (.rawText run :: behind)

theorem arranged_pieces (document : List Char) : Arranged none (pieces document) := by
  fun_induction pieces document with
  | case1 => exact .nil
  | case2 c cs first markup ih =>
    refine .piece ?_ (markup ▸ ih)
    rw [flatMap_source_pieces]
    exact stands_firstPiece c cs
  | case3 c cs first name isRaw raw ih =>
    refine .piece ?_ (isRaw ▸ .rawText ?_ ih)
    · rw [List.flatMap_cons, flatMap_source_pieces, Piece.source, Text.splitBefore_append]
      exact stands_firstPiece c cs
    · rw [flatMap_source_pieces]
      rcases Text.splitBefore_snd (beginsEndTag name) first.2 with atEnd | begins
      · left
        simp only [raw, atEnd, pieces_nil]
      · exact .inr begins

namespace Arranged

end Arranged

theorem length_event?_le (offset : Nat) (piece : Piece) :
    (piece.event? offset).toList.length ≤ 1 := by
  cases piece <;> simp [Piece.event?]

theorem two_le_length_of_rawTextElement? {piece : Piece} {name : String}
    (raw : piece.rawTextElement? = some name) : 2 ≤ piece.source.length := by
  cases piece with
  | startTag written body closed =>
    cases written with
    | nil => simp [Piece.rawTextElement?, isRawTextElement, lower] at raw
    | cons c written => simp +arith [Piece.source]
  | comment | declaration | endTag | text | rawText => contradiction

theorem Arranged.length_eventsFrom_le {raw? : Option String} {split : List Piece}
    (arranged : Arranged raw? split) (offset : Nat) :
    (eventsFrom offset split).length ≤
      raw?.toList.length + (split.flatMap Piece.source).length := by
  induction arranged generalizing offset with
  | nil => simp [eventsFrom]
  | @piece piece behind stands _ ih =>
    have behindIt := ih (offset + piece.source.length)
    have one := length_event?_le offset piece
    have some := List.length_pos_iff.mpr stands.source_ne_nil
    simp only [eventsFrom, List.length_append, List.flatMap_cons, Option.toList_none,
      List.length_nil]
    cases raw : piece.rawTextElement? with
    | none =>
      simp only [raw, Option.toList_none, List.length_nil] at behindIt
      omega
    | some name =>
      have room := two_le_length_of_rawTextElement? raw
      simp only [raw, Option.toList_some, List.length_singleton] at behindIt
      omega
  | @rawText name run behind _ _ ih =>
    have behindIt := ih (offset + (Piece.rawText run).source.length)
    have one := length_event?_le offset (.rawText run)
    simp only [eventsFrom, List.length_append, List.flatMap_cons, Option.toList_some,
      List.length_singleton, Option.toList_none, List.length_nil] at behindIt ⊢
    omega

/-! ### Events -/

/-- What a piece that stands at this offset gives: a declaration nothing, any other piece one event.
References are decoded in text, but not in raw text. -/
inductive Piece.Gives (offset : Nat) : Piece → List Event → Prop
  | comment {body : List Char} {closed : Bool} :
      Gives offset (.comment body closed) [.comment (String.ofList body)]
  | declaration {body : List Char} {closed : Bool} : Gives offset (.declaration body closed) []
  | startTag {name body : List Char} {closed : Bool} {tag : StartTag} :
      tag.name = lower name →
      tag.attributes = attributes body →
      tag.offset = offset →
      tag.selfClosing = isSelfClosing body →
      Gives offset (.startTag name body closed) [.opening tag]
  | endTag {name body : List Char} {closed : Bool} :
      Gives offset (.endTag name body closed) [.closing (lower name)]
  | text {run : List Char} : Gives offset (.text run) [.text (String.ofList (decode run))]
  | rawText {run : List Char} : Gives offset (.rawText run) [.text (String.ofList run)]

/-- What pieces give of which the first stands at this offset. -/
inductive Gives : Nat → List Piece → List Event → Prop
  | nil {offset : Nat} : Gives offset [] []
  | cons {offset : Nat} {piece : Piece} {behind : List Piece} {events others : List Event} :
      piece.Gives offset events →
      Gives (offset + piece.source.length) behind others →
      Gives offset (piece :: behind) (events ++ others)

/-- An event is that of a piece at its place, with the events of the pieces before it and behind it
around it. -/
theorem exists_pieces_of_eventsFrom {offset : Nat} {split : List Piece} {front rest : List Event}
    {event : Event} (given : eventsFrom offset split = front ++ event :: rest) :
    ∃ before piece behind, split = before ++ piece :: behind ∧ eventsFrom offset before = front ∧
      piece.event? (offset + (before.flatMap Piece.source).length) = some event ∧
      eventsFrom (offset + (before.flatMap Piece.source).length + piece.source.length) behind =
        rest := by
  induction split generalizing offset front with
  | nil => simp [eventsFrom] at given
  | cons piece behind ih =>
    have further {others : List Event}
        (given : eventsFrom (offset + piece.source.length) behind = others ++ event :: rest)
        (known : (piece.event? offset).toList ++ others = front) :
        ∃ before found after, piece :: behind = before ++ found :: after ∧
          eventsFrom offset before = front ∧
          found.event? (offset + (before.flatMap Piece.source).length) = some event ∧
          eventsFrom (offset + (before.flatMap Piece.source).length + found.source.length) after =
            rest := by
      obtain ⟨before, found, after, rfl, others, here, left⟩ := ih given
      refine ⟨piece :: before, found, after, rfl, by rw [eventsFrom, others, known], ?_, ?_⟩
      · rw [List.flatMap_cons, List.length_append, ← Nat.add_assoc, here]
      · rw [List.flatMap_cons, List.length_append, ← Nat.add_assoc, left]
    rw [eventsFrom] at given
    cases read : piece.event? offset with
    | none =>
      rw [read] at given
      exact further given (by rw [read]; rfl)
    | some first =>
      rw [read] at given
      cases front with
      | nil =>
        obtain ⟨rfl, left⟩ := List.cons.inj given
        exact ⟨[], piece, behind, rfl, rfl, read, left⟩
      | cons other front =>
        obtain ⟨rfl, left⟩ := List.cons.inj given
        exact further left (by rw [read]; rfl)

theorem exists_piece_of_mem_eventsFrom {offset : Nat} {split : List Piece} {tag : StartTag}
    (mem : .opening tag ∈ eventsFrom offset split) :
    ∃ front name body closed back, split = front ++ .startTag name body closed :: back ∧
      (Piece.startTag name body closed).event? (offset + (front.flatMap Piece.source).length) =
        some (.opening tag) := by
  obtain ⟨events, rest, given⟩ := List.append_of_mem mem
  obtain ⟨before, piece, behind, rfl, -, here, -⟩ := exists_pieces_of_eventsFrom given
  cases piece with
  | startTag name body closed => exact ⟨before, name, body, closed, behind, rfl, here⟩
  | comment | declaration | endTag | text | rawText => simp [Piece.event?] at here

theorem exists_startTag_of_mem_eventsFrom {offset : Nat} {split : List Piece} {tag : StartTag}
    (mem : .opening tag ∈ eventsFrom offset split) :
    ∃ front name body closed back, split = front ++ .startTag name body closed :: back ∧
      lower name = tag.name ∧ tag.offset = offset + (front.flatMap Piece.source).length := by
  obtain ⟨front, name, body, closed, back, rfl, given⟩ := exists_piece_of_mem_eventsFrom mem
  cases given
  exact ⟨front, name, body, closed, back, rfl, rfl, rfl⟩

/-- Start tags stand within the pieces that their events come from. -/
theorem offset_of_mem_eventsFrom {offset : Nat} {split : List Piece} {tag : StartTag}
    (mem : .opening tag ∈ eventsFrom offset split) :
    offset ≤ tag.offset ∧ tag.offset < offset + (split.flatMap Piece.source).length := by
  obtain ⟨front, name, body, closed, back, rfl, -, place⟩ := exists_startTag_of_mem_eventsFrom mem
  have some : 0 < (Piece.startTag name body closed).source.length := by simp [Piece.source]
  simp only [List.flatMap_append, List.flatMap_cons, List.length_append]
  omega

theorem offset_lt_of_mem_events {document : List Char} {tag : StartTag}
    (mem : .opening tag ∈ events document) : tag.offset < document.length := by
  have within := (offset_of_mem_eventsFrom mem).2
  rwa [flatMap_source_pieces, Nat.zero_add] at within

theorem mem_of_mem_filterMap_startTag? {events : List Event} {tag : StartTag}
    (mem : tag ∈ events.filterMap Event.startTag?) : .opening tag ∈ events := by
  obtain ⟨event, isEvent, isTag⟩ := List.mem_filterMap.mp mem
  cases event with
  | opening found =>
    cases isTag
    exact isEvent
  | closing | text | comment => contradiction

theorem pairwise_offset_eventsFrom (offset : Nat) (split : List Piece) :
    ((eventsFrom offset split).filterMap Event.startTag?).Pairwise (·.offset < ·.offset) := by
  induction split generalizing offset with
  | nil => simp [eventsFrom]
  | cons piece behind ih =>
    have others := ih (offset + piece.source.length)
    rw [eventsFrom, List.filterMap_append]
    cases piece with
    | startTag name body closed =>
      refine List.pairwise_cons.mpr ⟨?_, others⟩
      intro tag mem
      have behind := (offset_of_mem_eventsFrom (mem_of_mem_filterMap_startTag? mem)).1
      have some : 0 < (Piece.startTag name body closed).source.length := by simp [Piece.source]
      show offset < tag.offset
      omega
    | comment | declaration | endTag | text | rawText => exact others

end DocIndex.Markup
