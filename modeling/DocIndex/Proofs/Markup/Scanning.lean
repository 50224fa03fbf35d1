import DocIndex.Proofs.Markup.AttributeForms

/-!
# Pieces of written markup

Text without a less-than sign, comments, tags and raw text are read as the pieces that they are
written as, whatever follows them. Only a run of text needs markup behind it, or the end.
-/

namespace DocIndex.Markup

theorem firstPiece_text {c : Char} {run rest : List Char} (plain : '<' ∉ run)
    (noMarkup : c = '<' → markupPiece? (run ++ rest) = none) (ends : Text.Ends (· != '<') rest) :
    firstPiece c (run ++ rest) = (.text (c :: run), rest) := by
  have others := Text.forall_bne plain
  have read : textPiece c (run ++ rest) = (.text (c :: run), rest) := by
    rw [textPiece, Text.takeWhile_append_of_ends others ends,
      Text.dropWhile_append_of_ends others ends]
  unfold firstPiece
  split
  next sign => rw [noMarkup sign, Option.getD_none, read]
  next => exact read

theorem pieces_text {run rest : List Char} (some : run ≠ []) (plain : '<' ∉ run)
    (ends : Text.Ends (· != '<') rest) : pieces (run ++ rest) = .text run :: pieces rest := by
  cases run with
  | nil => contradiction
  | cons c run =>
    rw [List.mem_cons, not_or] at plain
    have noSign : c = '<' → markupPiece? (run ++ rest) = none := fun sign =>
      absurd sign.symm plain.1
    rw [List.cons_append, pieces_cons, firstPiece_text plain.2 noSign ends]
    rfl

theorem splitAtMark_of_first {c : Char} {mark front rest : List Char}
    (first : ∀ before d behind, front = before ++ d :: behind →
      (c :: mark).isPrefixOf (d :: (behind ++ c :: (mark ++ rest))) = false) :
    Text.splitAtMark (c :: mark) (front ++ c :: (mark ++ rest)) = (front, true, rest) := by
  have found : (c :: mark).isPrefixOf (c :: (mark ++ rest)) = true := by simp
  have split := Text.splitBefore_append_of_first found first
  simp only [Text.splitAtMark, split]
  simp

/-- The end of a comment does not overlap what it ends. -/
theorem splitAtMark_comment {body : List Char} (inside : ¬['-', '-', '>'] <:+: body)
    (rest : List Char) :
    Text.splitAtMark ['-', '-', '>'] (body ++ '-' :: '-' :: '>' :: rest) = (body, true, rest) := by
  have first (before : List Char) (d : Char) (behind : List Char)
      (eq : body = before ++ d :: behind) :
      ['-', '-', '>'].isPrefixOf (d :: (behind ++ '-' :: '-' :: '>' :: rest)) = false := by
    match behind with
    | [] => simp [List.isPrefixOf]
    | [e] => simp [List.isPrefixOf]
    | e :: f :: more =>
      have apart : ¬('-' = d ∧ '-' = e ∧ '>' = f) := by
        rintro ⟨rfl, rfl, rfl⟩
        exact inside ⟨before, more, by simp [eq]⟩
      simpa [List.isPrefixOf] using apart
  exact splitAtMark_of_first first

theorem firstPiece_comment {body : List Char} (inside : ¬['-', '-', '>'] <:+: body)
    (rest : List Char) :
    firstPiece '<' ('!' :: '-' :: '-' :: (body ++ '-' :: '-' :: '>' :: rest)) =
      (.comment body true, rest) := by
  rw [firstPiece, if_pos rfl, markupPiece?, Option.getD_some, commentPiece,
    splitAtMark_comment inside]

theorem pieces_comment {body : List Char} (inside : ¬['-', '-', '>'] <:+: body)
    (rest : List Char) :
    pieces ('<' :: '!' :: '-' :: '-' :: (body ++ '-' :: '-' :: '>' :: rest)) =
      .comment body true :: pieces rest := by
  rw [pieces_cons, firstPiece_comment inside]
  rfl

theorem splitAtMark_of_not_mem {mark : Char} {cs : List Char} (without : mark ∉ cs)
    (rest : List Char) : Text.splitAtMark [mark] (cs ++ mark :: rest) = (cs, true, rest) := by
  have first (before : List Char) (d : Char) (behind : List Char) (eq : cs = before ++ d :: behind) :
      [mark].isPrefixOf (d :: (behind ++ mark :: rest)) = false := by
    have other : mark ≠ d := fun same => without (by simp [eq, same])
    simpa [List.isPrefixOf] using other
  exact splitAtMark_of_first first

theorem firstPiece_declaration {mark : Char} {body : List Char} (isMark : mark = '!' ∨ mark = '?')
    (noComment : ¬['!', '-', '-'] <+: mark :: body) (inside : '>' ∉ mark :: body)
    (rest : List Char) :
    firstPiece '<' (mark :: body ++ '>' :: rest) = (.declaration (mark :: body) true, rest) := by
  have read : declarationPiece (mark :: body ++ '>' :: rest) =
      (.declaration (mark :: body) true, rest) := by
    rw [declarationPiece, splitAtMark_of_not_mem inside]
  have apart (more : List Char) : mark :: body ++ '>' :: rest ≠ '!' :: '-' :: '-' :: more := by
    intro same
    have comment : ['!', '-', '-'] <+: mark :: body ++ '>' :: rest := ⟨more, same.symm⟩
    rcases Text.isPrefix_append_cases comment with ⟨within, -⟩ | ⟨others, eq, begun⟩
    · exact noComment within
    · cases others with
      | nil => exact noComment ⟨[], by simpa using eq⟩
      | cons c others =>
        obtain ⟨rfl, -⟩ := List.cons_prefix_cons.mp begun
        have sign : '>' ∈ ['!', '-', '-'] := by rw [eq]; simp
        simp at sign
  have markup : markupPiece? (mark :: body ++ '>' :: rest) =
      some (declarationPiece (mark :: body ++ '>' :: rest)) := by
    rcases isMark with rfl | rfl
    · rw [List.cons_append, markupPiece?]
      exact fun more same => apart more (congrArg ('!' :: ·) same)
    · rfl
  rw [firstPiece, if_pos rfl, markup, Option.getD_some, read]

theorem firstPiece_endTag {c : Char} {name body : List Char}
    (inName : ∀ d ∈ c :: name, isNameChar d = true) (ends : Text.Ends isNameChar body)
    (inside : '>' ∉ body) (rest : List Char) :
    firstPiece '<' ('/' :: (c :: name ++ (body ++ '>' :: rest))) =
      (.endTag (c :: name) body true, rest) := by
  have nameEnds := ends_append_greaterThan ends rest
  rw [firstPiece, if_pos rfl, List.cons_append, markupPiece?,
    if_pos (inName c List.mem_cons_self), Option.getD_some, ← List.cons_append, endTagPiece,
    Text.takeWhile_append_of_ends inName nameEnds, Text.dropWhile_append_of_ends inName nameEnds,
    splitAtMark_of_not_mem inside]

theorem pieces_endTag {name : String} (named : isName name = true) {ending : List Char}
    (writes : lower ending = name) (rest : List Char) :
    pieces ('<' :: '/' :: (ending ++ '>' :: rest)) = .endTag ending [] true :: pieces rest := by
  have inName := forall_isNameChar_of_lower_eq named writes
  obtain ⟨c, cs, rfl, -, -⟩ := exists_of_lower_eq named writes
  have read := firstPiece_endTag inName (Text.ends_nil isNameChar) List.not_mem_nil rest
  rw [List.nil_append] at read
  rw [pieces_cons, read]
  rfl

theorem rawTextElement?_startTag {opening inside : List Char} {name : String} {list : List Attribute}
    (writes : lower opening = name) (writesAll : WritesForms list inside) :
    (Piece.startTag opening inside true).rawTextElement? =
      if isRawTextElement name then some name else none := by
  rw [Piece.rawTextElement?, writesAll.isSelfClosing_eq_false, writes, Bool.not_false, Bool.and_true]

theorem pieces_startTag {name : String} (named : isName name = true) {opening : List Char}
    (writes : lower opening = name) {list : List Attribute} {inside : List Char}
    (writesAll : WritesForms list inside) (rest : List Char) :
    pieces ('<' :: (opening ++ (inside ++ '>' :: rest))) =
      .startTag opening inside true ::
        piecesWithin (if isRawTextElement name then some name else none) rest := by
  have inName := forall_isNameChar_of_lower_eq named writes
  have raw := rawTextElement?_startTag writes writesAll
  obtain ⟨c, cs, rfl, letter, -⟩ := exists_of_lower_eq named writes
  have ends : Text.Ends isNameChar inside := by
    simpa using writesAll.ends_append (Text.ends_nil isNameChar)
  rw [pieces_cons, firstPiece_startTag letter inName ends writesAll.passes, raw]

theorem length_le_of_take_eq {name : String} (named : isName name = true) {front rest : List Char}
    (written : lower ((front ++ '<' :: rest).take name.length) = name) :
    name.length ≤ front.length := by
  refine Nat.le_of_not_lt fun short => ?_
  have sign : '<' ∈ (front ++ '<' :: rest).take name.length := by
    obtain ⟨room, eq⟩ := Nat.exists_eq_add_of_lt short
    rw [eq, Nat.add_assoc, List.take_length_add_append, List.take_succ_cons]
    exact List.mem_append_right _ List.mem_cons_self
  have inName := forall_isNameChar_of_lower_eq named written _ sign
  contradiction

/-- In raw text without an end tag, none begins either that the end tag behind it would complete. -/
theorem beginsEndTag_eq_false {name : String} (named : isName name = true) {before behind : List Char}
    {d : Char}
    (inside : ∀ other, lower other = name → ¬ '<' :: '/' :: other <:+: before ++ d :: behind)
    (rest : List Char) : beginsEndTag name (d :: (behind ++ '<' :: rest)) = false := by
  cases begins : beginsEndTag name (d :: (behind ++ '<' :: rest)) with
  | false => rfl
  | true =>
    exfalso
    unfold beginsEndTag at begins
    split at begins
    next after same =>
      cases behind with
      | nil =>
        simp only [List.nil_append, List.cons.injEq] at same
        exact absurd same.2.1 (by decide)
      | cons e more =>
        simp only [List.cons_append, List.cons.injEq] at same
        obtain ⟨rfl, rfl, rfl⟩ := same
        have written := eq_of_beq begins
        rw [List.take_append_of_le_length (length_le_of_take_eq named written)] at written
        refine inside _ written ⟨before, more.drop name.length, ?_⟩
        rw [List.append_assoc, List.cons_append, List.cons_append, List.take_append_drop]
    next => contradiction

/-- The raw text of an element ends at the first end tag of this element. -/
theorem piecesWithin_rawText {name : String} (named : isName name = true) {data ending : List Char}
    (writes : lower ending = name)
    (inside : ∀ other, lower other = name → ¬ '<' :: '/' :: other <:+: data) (rest : List Char) :
    piecesWithin (some name) (data ++ '<' :: '/' :: (ending ++ '>' :: rest)) =
      .rawText data :: pieces ('<' :: '/' :: (ending ++ '>' :: rest)) := by
  have size : name.length = ending.length := by
    rw [← writes, lower, String.length_ofList, List.length_map]
  have found : beginsEndTag name ('<' :: '/' :: (ending ++ '>' :: rest)) = true := by
    rw [beginsEndTag, size, List.take_left, writes, beq_self_eq_true]
  have first (before : List Char) (d : Char) (behind : List Char)
      (eq : data = before ++ d :: behind) :
      beginsEndTag name (d :: (behind ++ '<' :: '/' :: (ending ++ '>' :: rest))) = false :=
    beginsEndTag_eq_false named (eq ▸ inside) _
  rw [piecesWithin, Text.splitBefore_append_of_first found first]

end DocIndex.Markup
