import DocIndex.Proofs.Markup.Scanning
import DocIndex.Proofs.Markup.Splitting

/-!
# Raw text

The raw text of an element ends where a less-than sign, a slash and the name of the element stand,
whatever goes on behind the name. What stands there is then read as an end tag, with the whole of
its name. So an end tag whose name only begins with that of the element ends the raw text, and what
stands behind it is read as markup; without such a tag the raw text lasts up to the end tag of the
element (`fst_splitBefore_eq_iff`).
-/

namespace DocIndex.Markup

/-! ### End tags -/

/-- Whether an end tag stands here that is read with this name. -/
def isEndTagOf (name : String) (cs : List Char) : Bool :=
  match cs with
  | '<' :: '/' :: rest => lower (rest.takeWhile isNameChar) == name
  | _ => false

theorem beginsEndTag_of_isEndTagOf {name : String} {cs : List Char}
    (stands : isEndTagOf name cs = true) : beginsEndTag name cs = true := by
  unfold isEndTagOf at stands
  split at stands
  next rest =>
    have written := eq_of_beq stands
    have length : name.length = (rest.takeWhile isNameChar).length := by
      rw [← written, lower, String.length_ofList, List.length_map]
    have taken : rest.take name.length = rest.takeWhile isNameChar := by
      rw [length]
      exact (List.prefix_iff_eq_take.mp (List.takeWhile_prefix isNameChar)).symm
    rw [beginsEndTag, taken]
    exact stands
  next => contradiction

/-- Where the end tag of an element may begin, an end tag is read whose name begins with that of the
element. -/
theorem exists_endTag_of_beginsEndTag {name : String} (named : isName name = true) {cs : List Char}
    (begins : beginsEndTag name cs = true) :
    ∃ written body closed rest, pieces cs = .endTag written body closed :: rest ∧
      (isEndTagOf name cs = true ↔ lower written = name) ∧ ∃ more, lower written = name ++ more := by
  unfold beginsEndTag at begins
  split at begins
  next rest =>
    have inName := forall_isNameChar_of_lower_eq named (eq_of_beq begins)
    have whole := List.take_append_drop name.length rest
    obtain ⟨c, others, first, -, -⟩ := exists_of_lower_eq named (eq_of_beq begins)
    have isFirst : rest.head? = some c := by rw [← whole, first]; rfl
    obtain ⟨after, rfl⟩ := List.head?_eq_some_iff.mp isFirst
    have inside : isNameChar c = true := inName c (by rw [first]; exact List.mem_cons_self)
    have read : firstPiece '<' ('/' :: c :: after) = endTagPiece (c :: after) := by
      rw [firstPiece, if_pos rfl, markupPiece?, if_pos inside, Option.getD_some]
    have split := pieces_cons '<' ('/' :: c :: after)
    rw [read, endTagPiece] at split
    refine ⟨_, _, _, _, split, ?_, ?_⟩
    · rw [isEndTagOf, beq_iff_eq]
    · refine ⟨lower (((c :: after).drop name.length).takeWhile isNameChar), ?_⟩
      have taken : (c :: after).takeWhile isNameChar = (c :: after).take name.length ++
          ((c :: after).drop name.length).takeWhile isNameChar := by
        rw [← List.takeWhile_append_of_pos inName, whole]
      apply String.toList_inj.mp
      rw [taken, lower, List.map_append, String.ofList_append, ← lower, ← lower, eq_of_beq begins]
  next => contradiction

/-! ### Near misses -/

/-- An end tag of another name, which begins with that of the element, stands in front of any end tag
of the element. -/
def HasNearMiss (name : String) (content : List Char) : Prop :=
  ∃ front back, content = front ++ back ∧ beginsEndTag name back = true ∧
    isEndTagOf name back = false ∧
    ∀ before c behind, front = before ++ c :: behind →
      isEndTagOf name (c :: (behind ++ back)) = false

theorem hasNearMiss_cons_iff {name : String} {c : Char} {cs : List Char} :
    HasNearMiss name (c :: cs) ↔
      isEndTagOf name (c :: cs) = false ∧
        (beginsEndTag name (c :: cs) = true ∨ HasNearMiss name cs) := by
  constructor
  · rintro ⟨front, back, split, begins, other, first⟩
    cases front with
    | nil =>
      cases split
      exact ⟨other, .inl begins⟩
    | cons d front =>
      obtain ⟨rfl, rfl⟩ := List.cons.inj split
      refine ⟨first [] c front rfl, .inr ⟨front, back, rfl, begins, other, ?_⟩⟩
      rintro before e behind rfl
      exact first (c :: before) e behind rfl
  · rintro ⟨notHere, begins | ⟨front, back, rfl, begins, other, first⟩⟩
    · exact ⟨[], c :: cs, rfl, begins, notHere, by simp⟩
    · refine ⟨c :: front, back, rfl, begins, other, ?_⟩
      intro before e behind split
      cases before with
      | nil =>
        obtain ⟨rfl, rfl⟩ := List.cons.inj split
        exact notHere
      | cons d before =>
        obtain ⟨rfl, rfl⟩ := List.cons.inj split
        exact first before e behind rfl

/-- The raw text of an element lasts up to its end tag just if there is no near miss. -/
theorem fst_splitBefore_eq_iff (name : String) (content : List Char) :
    (Text.splitBefore (beginsEndTag name) content).1 =
        (Text.splitBefore (isEndTagOf name) content).1 ↔ ¬HasNearMiss name content := by
  induction content with
  | nil =>
    refine iff_of_true rfl ?_
    rintro ⟨front, back, split, begins, -⟩
    rw [(List.append_eq_nil_iff.mp split.symm).2] at begins
    contradiction
  | cons c cs ih =>
    rw [hasNearMiss_cons_iff]
    by_cases stands : isEndTagOf name (c :: cs) = true
    · simp [Text.splitBefore, stands, beginsEndTag_of_isEndTagOf stands]
    · by_cases begins : beginsEndTag name (c :: cs) = true
      · simp [Text.splitBefore, stands, begins]
      · simp [Text.splitBefore, stands, begins, ih]

/-! ### Events -/

/-- The events behind a start tag begin with its content up to its end tag, as one text, and with
the event of this end tag, if there is any event behind the text. -/
def KeepsRawText (name : String) (content : List Char) (events : List Event) : Prop :=
  events.head? = some (.text (String.ofList (Text.splitBefore (isEndTagOf name) content).1)) ∧
    ∀ event ∈ events.tail.head?, event = .closing name

instance (name : String) (content : List Char) (events : List Event) :
    Decidable (KeepsRawText name content events) :=
  inferInstanceAs (Decidable (_ ∧ _))

theorem pieces_behind {document : List Char} {before behind : List Piece} {piece : Piece}
    (split : pieces document = before ++ piece :: behind) (markup : ∀ run, piece ≠ .rawText run) :
    behind = piecesWithin piece.rawTextElement? (behind.flatMap Piece.source) := by
  fun_induction pieces document generalizing before with
  | case1 => simp at split
  | case2 c cs first noRaw =>
    rename_i ih
    cases before with
    | nil =>
      obtain ⟨rfl, rfl⟩ := List.cons.inj split
      rw [noRaw, piecesWithin_none, flatMap_source_pieces]
    | cons other before => exact ih (List.cons.inj split).2
  | case3 c cs first name isRaw raw =>
    rename_i ih
    cases before with
    | nil =>
      obtain ⟨rfl, rfl⟩ := List.cons.inj split
      rw [isRaw, List.flatMap_cons, flatMap_source_pieces, Piece.source, Text.splitBefore_append]
      rfl
    | cons other before =>
      cases before with
      | nil => exact absurd (List.cons.inj (List.cons.inj split).2).1.symm (markup _)
      | cons next before => exact ih (List.cons.inj (List.cons.inj split).2).2

theorem isName_of_isRawTextElement {name : String} (raw : isRawTextElement name = true) :
    isName name = true := by
  rcases (by simpa [isRawTextElement] using raw : name = "script" ∨ name = "style") with rfl | rfl
  · decide +kernel
  · decide +kernel

theorem exists_closing_of_head? {name : String} (named : isName name = true) {offset : Nat}
    {content : List Char} {event : Event}
    (first : event ∈ (eventsFrom offset
      (pieces (Text.splitBefore (beginsEndTag name) content).2)).head?) :
    ∃ more, event = .closing (name ++ more) ∧
      (isEndTagOf name (Text.splitBefore (beginsEndTag name) content).2 = true ↔ more = "") := by
  rcases Text.splitBefore_snd (beginsEndTag name) content with atEnd | begins
  · rw [atEnd, pieces_nil] at first
    contradiction
  · obtain ⟨written, body, closed, rest, read, matched, more, begun⟩ :=
      exists_endTag_of_beginsEndTag named begins
    rw [read] at first
    cases first
    refine ⟨more, by rw [begun], ?_⟩
    rw [matched, begun]
    simp

theorem keepsRawText_eventsFrom_iff {name : String} (named : isName name = true) (offset : Nat)
    (content : List Char) :
    KeepsRawText name content (eventsFrom offset (piecesWithin (some name) content)) ↔
      ¬HasNearMiss name content := by
  rw [← fst_splitBefore_eq_iff, piecesWithin, eventsFrom]
  constructor
  · rintro ⟨text, -⟩
    simpa [Piece.event?, String.ofList_inj] using text
  · intro same
    refine ⟨by rw [← same]; rfl, ?_⟩
    intro event first
    obtain ⟨more, rfl, matched⟩ := exists_closing_of_head? named first
    have whole := (Text.splitBefore_append (beginsEndTag name) content).trans
      (Text.splitBefore_append (isEndTagOf name) content).symm
    rw [same, List.append_right_inj] at whole
    rcases Text.splitBefore_snd (isEndTagOf name) content with atEnd | stands
    · rw [whole, atEnd, pieces_nil] at first
      contradiction
    · rw [← whole] at stands
      rw [matched.mp stands, String.append_empty]

/-- Behind a start tag of an element with raw text stands one text, the content as it is written up
to the first place where the name of the element begins an end tag; then the events end, or an end
tag follows whose name begins with that of the element. The text lasts up to the end tag of the
element, and is followed by this end tag or nothing, just if there is no near miss in the content. -/
theorem Reader.keepsRawText_iff {document : List Char} {tag : StartTag} {front rest : List Event}
    (given : (Reader.start document).drain = front ++ .opening tag :: rest)
    (raw : isRawTextElement tag.name = true) (hasContent : tag.selfClosing = false) :
    ∃ before written body closed run behind,
      pieces document = before ++ .startTag written body closed :: .rawText run :: behind ∧
      lower written = tag.name ∧ tag.offset = (before.flatMap Piece.source).length ∧
      front = eventsFrom 0 before ∧
      rest.head? = some (.text (String.ofList run)) ∧
      (∀ event ∈ rest.tail.head?, ∃ more, event = .closing (tag.name ++ more)) ∧
      (KeepsRawText tag.name (run ++ behind.flatMap Piece.source) rest ↔
        ¬HasNearMiss tag.name (run ++ behind.flatMap Piece.source)) := by
  rw [drain_eq_left, left_start, events] at given
  obtain ⟨before, piece, others, split, before_eq, here, left⟩ := exists_pieces_of_eventsFrom given
  cases piece with
  | comment | declaration | endTag | text | rawText => simp [Piece.event?] at here
  | startTag written body closed =>
    cases here
    have raw : isRawTextElement (lower written) = true := raw
    have hasContent : isSelfClosing body = false := hasContent
    have named := isName_of_isRawTextElement raw
    have behind := pieces_behind split (by simp)
    rw [Piece.rawTextElement?, raw, hasContent, Bool.not_false, Bool.and_true, if_pos rfl,
      piecesWithin] at behind
    generalize others.flatMap Piece.source = content at behind
    rw [behind] at split
    rw [behind, eventsFrom] at left
    have covered : (Text.splitBefore (beginsEndTag (lower written)) content).1 ++
        (pieces (Text.splitBefore (beginsEndTag (lower written)) content).2).flatMap Piece.source =
          content := by
      rw [flatMap_source_pieces, Text.splitBefore_append]
    refine ⟨before, written, body, closed, _, _, split, rfl, Nat.zero_add _, before_eq.symm, ?_, ?_, ?_⟩
    · rw [← left]
      rfl
    · rw [← left]
      intro event first
      obtain ⟨more, closing, -⟩ := exists_closing_of_head? named first
      exact ⟨more, closing⟩
    · rw [covered, ← left]
      exact keepsRawText_eventsFrom_iff named _ content

/-- Markup and the end tags of other elements stand in the raw text, and its end tag is written in
capitals and with a blank in it. -/
theorem Reader.keepsRawText_iff_otherEndTags :
    let document := "<i><style a>b<i>\"</styl></i>\"</STYLE >c".toList
    let tag : StartTag := ⟨"style", [⟨"a", ""⟩], 3, false⟩
    let front : List Event := [.opening ⟨"i", [], 0, false⟩]
    let rest : List Event := [.text "b<i>\"</styl></i>\"", .closing "style", .text "c"]
    (Reader.start document).drain = front ++ .opening tag :: rest ∧
      isRawTextElement tag.name = true ∧ tag.selfClosing = false ∧
      KeepsRawText "style" "b<i>\"</styl></i>\"</STYLE >c".toList rest ∧
      ∃ before written body closed run behind,
        pieces document = before ++ .startTag written body closed :: .rawText run :: behind ∧
        lower written = tag.name ∧ tag.offset = (before.flatMap Piece.source).length ∧
        front = eventsFrom 0 before ∧
        rest.head? = some (.text (String.ofList run)) ∧
        (∀ event ∈ rest.tail.head?, ∃ more, event = .closing (tag.name ++ more)) ∧
        (KeepsRawText tag.name (run ++ behind.flatMap Piece.source) rest ↔
          ¬HasNearMiss tag.name (run ++ behind.flatMap Piece.source)) := by
  intro document tag front rest
  have given : (Reader.start document).drain = front ++ .opening tag :: rest := by
    rw [drain_eq_left]
    decide +kernel
  exact ⟨given, rfl, rfl, by decide +kernel, keepsRawText_iff given rfl rfl⟩

/-- A longer name that begins with that of the element ends the raw text, and the content behind it is
read as markup. -/
theorem Reader.not_keepsRawText_longerName :
    let content := "x = \"</scripts><b>\"</script>".toList
    let rest : List Event := [.text "x = \"", .closing "scripts", .opening ⟨"b", [], 23, false⟩,
      .text "\"", .closing "script"]
    (Reader.start ("<script>".toList ++ content)).drain =
        .opening ⟨"script", [], 0, false⟩ :: rest ∧
      (Text.splitBefore (isEndTagOf "script") content).1 = "x = \"</scripts><b>\"".toList ∧
      ¬KeepsRawText "script" content rest := by
  simp only [drain_eq_left]
  decide +kernel

end DocIndex.Markup
