import DocIndex.Proofs.Markup.RawText
import DocIndex.Proofs.Markup.StrayQuote

/-!
# Replacing a comment

How a piece is read depends on what stands behind it in its first character only, unless the piece
reaches the end of the document (`exists_firstPiece_of_stands`); and raw text ends at an end tag,
all of which stands in front of the next piece. So whatever replaces a comment, the pieces before it
are read as before (`piecesWithin_replace`).
-/

namespace DocIndex.Markup

/-! ### Single pieces -/

theorem markupPiece?_eq_none {cs : List Char} (plain : beginsMarkup cs = false) :
    markupPiece? cs = none := by
  unfold beginsMarkup at plain
  split at plain
  · contradiction
  · contradiction
  next => simp [markupPiece?, plain]
  next c rest noMark noQuestion noSlash =>
    unfold markupPiece?
    split <;> rename_i same <;> simp_all
  · rfl

/-- No start tag ends within its body, whatever stands behind it. -/
def Piece.EndsItself : Piece → Prop
  | startTag _ body closed => closed = true → Passes body
  | _ => True

theorem passes_of_splitTag {cs body rest : List Char}
    (read : splitTag none cs = (body, '>' :: rest)) : Passes body := by
  have part : body <+: (splitTag none cs).1 := (congrArg Prod.fst read).symm ▸ List.prefix_rfl
  have whole := splitTag_append_of_isPrefix part ('>' :: rest)
  have covered := splitTag_append none cs
  rw [read] at covered
  rw [covered, read] at whole
  intro more
  have others := splitTag_append_of_isPrefix part more
  cases quote : body.foldl quoteAfter none with
  | none =>
    rw [quote] at others
    exact others
  | some open_ =>
    rw [quote] at whole
    have same := congrArg Prod.fst whole
    simp [splitTag] at same

theorem endsItself_startTagPiece (cs : List Char) : (startTagPiece cs).1.EndsItself := by
  intro closed
  rcases splitTag_snd none (cs.dropWhile isNameChar) with atEnd | ⟨rest, found⟩
  · simp [atEnd] at closed
  · exact passes_of_splitTag (Prod.ext rfl found)

theorem endsItself_firstPiece (c : Char) (cs : List Char) : (firstPiece c cs).1.EndsItself := by
  cases read : (firstPiece c cs).1 with
  | startTag name body closed =>
    obtain ⟨after, same⟩ := exists_startTagPiece read
    exact same ▸ endsItself_startTagPiece after
  | comment | declaration | endTag | text | rawText => trivial

theorem beginsMarkup_cons_cons (c d : Char) (cs cs' : List Char) :
    beginsMarkup (c :: d :: cs) = beginsMarkup (c :: d :: cs') := by
  unfold beginsMarkup
  split <;> grind

theorem beginsMarkup_append (run rest rest' : List Char) :
    beginsMarkup (run ++ '<' :: rest) = beginsMarkup (run ++ '<' :: rest') := by
  match run with
  | [] => rfl
  | [c] => exact beginsMarkup_cons_cons c '<' rest rest'
  | c :: d :: run => exact beginsMarkup_cons_cons c d _ _

theorem Piece.Stands.of_head? {piece : Piece} {rest rest' : List Char}
    (stands : piece.Stands rest) (goesOn : rest ≠ []) (same : rest'.head? = rest.head?) :
    piece.Stands rest' := by
  cases stands with
  | comment inside atEnd => exact .comment inside fun open_ => absurd (atEnd open_) goesOn
  | declaration marked noComment inside atEnd =>
    exact .declaration marked noComment inside fun open_ => absurd (atEnd open_) goesOn
  | startTag letter inName ends atEnd =>
    exact .startTag letter inName ends fun open_ => absurd (atEnd open_) goesOn
  | endTag some inName ends inside atEnd =>
    exact .endTag some inName ends inside fun open_ => absurd (atEnd open_) goesOn
  | text plain noMarkup ends =>
    obtain ⟨c, more, rfl⟩ := List.exists_cons_of_ne_nil goesOn
    obtain ⟨more', rfl⟩ := List.head?_eq_some_iff.mp (same.trans rfl)
    obtain rfl : c = '<' := by simpa using ends
    refine .text plain (fun sign => ?_) ends
    rw [beginsMarkup_append _ more' more]
    exact noMarkup sign

/-- What stands behind a piece does not change how the piece is read. -/
theorem exists_firstPiece_of_stands {piece : Piece} {rest : List Char} (stands : piece.Stands rest)
    (itself : piece.EndsItself) (goesOn : rest ≠ []) :
    ∃ c cs, piece.source ++ rest = c :: cs ∧ firstPiece c cs = (piece, rest) := by
  cases stands with
  | comment inside atEnd =>
    obtain rfl := eq_true_of_ne_false (mt atEnd goesOn)
    exact ⟨_, _, by simp [Piece.source], firstPiece_comment inside rest⟩
  | declaration marked noComment inside atEnd =>
    obtain rfl := eq_true_of_ne_false (mt atEnd goesOn)
    obtain ⟨mark, isFirst, isMark⟩ := marked
    obtain ⟨more, rfl⟩ := List.head?_eq_some_iff.mp isFirst
    exact ⟨_, _, by simp [Piece.source], firstPiece_declaration isMark noComment inside rest⟩
  | startTag letter inName ends atEnd =>
    obtain rfl := eq_true_of_ne_false (mt atEnd goesOn)
    obtain ⟨c, isFirst, letter⟩ := letter
    obtain ⟨more, rfl⟩ := List.head?_eq_some_iff.mp isFirst
    exact ⟨_, _, by simp [Piece.source], firstPiece_startTag letter inName ends (itself rfl) rest⟩
  | endTag some inName ends inside atEnd =>
    obtain rfl := eq_true_of_ne_false (mt atEnd goesOn)
    obtain ⟨c, more, rfl⟩ := List.exists_cons_of_ne_nil some
    exact ⟨_, _, by simp [Piece.source], firstPiece_endTag inName ends inside rest⟩
  | text plain noMarkup ends =>
    exact ⟨_, _, rfl,
      firstPiece_text plain (fun sign => markupPiece?_eq_none (noMarkup sign)) ends⟩

theorem exists_of_pieces_eq_cons {document : List Char} {piece : Piece} {others : List Piece}
    (split : pieces document = piece :: others) :
    ∃ rest, document = piece.source ++ rest ∧ piece.Stands rest ∧ piece.EndsItself ∧
      piecesWithin piece.rawTextElement? rest = others := by
  cases document with
  | nil => simp at split
  | cons c cs =>
    rw [pieces_cons] at split
    obtain ⟨rfl, others⟩ := List.cons.inj split
    exact ⟨_, (source_firstPiece c cs).symm, stands_firstPiece c cs, endsItself_firstPiece c cs,
      others⟩

/-! ### Raw text -/

theorem isName_of_rawTextElement? {piece : Piece} {name : String}
    (raw : name ∈ piece.rawTextElement?) : isName name = true := by
  cases piece with
  | startTag written body closed =>
    simp only [Piece.rawTextElement?, Option.mem_ite_none_right, Bool.and_eq_true,
      Option.mem_some_iff] at raw
    obtain ⟨⟨isRaw, -⟩, rfl⟩ := raw
    exact isName_of_isRawTextElement isRaw
  | comment | declaration | endTag | text | rawText => contradiction

/-- Two signs and as many characters as the name has tell whether an end tag begins. -/
theorem beginsEndTag_append {name : String} {front : List Char}
    (long : name.length + 2 ≤ front.length) (back : List Char) :
    beginsEndTag name (front ++ back) = beginsEndTag name front := by
  match front with
  | [] | [_] => simp at long
  | c :: d :: front =>
    have enough : name.length ≤ front.length := by simpa using long
    by_cases signs : c = '<' ∧ d = '/'
    · obtain ⟨rfl, rfl⟩ := signs
      simp only [List.cons_append, beginsEndTag, List.take_append_of_le_length enough]
    · have other (cs : List Char) : beginsEndTag name (c :: d :: cs) = false := by
        unfold beginsEndTag
        split <;> grind
      rw [List.cons_append, List.cons_append, other, other]

theorem length_le_of_beginsEndTag {name : String} (named : isName name = true)
    {front tail : List Char} (begins : beginsEndTag name (front ++ '<' :: '!' :: tail) = true) :
    name.length + 2 ≤ front.length := by
  match front with
  | [] => simp [beginsEndTag] at begins
  | [c] => simp [beginsEndTag] at begins
  | c :: d :: front =>
    simp only [List.cons_append] at begins
    unfold beginsEndTag at begins
    split at begins
    next after same =>
      obtain ⟨-, -, rfl⟩ : c = '<' ∧ d = '/' ∧ front ++ '<' :: '!' :: tail = after := by
        simpa using same
      have within := length_le_of_take_eq named (eq_of_beq begins)
      simpa using within
    next => contradiction

theorem splitBefore_replace {name : String} (named : isName name = true)
    {run front tail : List Char}
    (split : Text.splitBefore (beginsEndTag name) (run ++ (front ++ '<' :: '!' :: tail)) =
      (run, front ++ '<' :: '!' :: tail)) (tail' : List Char) :
    Text.splitBefore (beginsEndTag name) (run ++ (front ++ '<' :: '!' :: tail')) =
      (run, front ++ '<' :: '!' :: tail') := by
  have begins : beginsEndTag name (front ++ '<' :: '!' :: tail) = true := by
    have stops := Text.splitBefore_snd (beginsEndTag name) (run ++ (front ++ '<' :: '!' :: tail))
    simpa [split] using stops
  have long := length_le_of_beginsEndTag named begins
  have first (before : List Char) (d : Char) (behind : List Char)
      (eq : run = before ++ d :: behind) :
      beginsEndTag name (d :: (behind ++ (front ++ '<' :: '!' :: tail'))) = false := by
    have notHere := Text.splitBefore_fst ((congrArg Prod.fst split).trans eq)
    have longer : name.length + 2 ≤ (d :: (behind ++ front)).length := by
      simp only [List.length_cons, List.length_append]
      omega
    rw [split, ← List.append_assoc, ← List.cons_append, beginsEndTag_append longer] at notHere
    rw [← List.append_assoc, ← List.cons_append, beginsEndTag_append longer, notHere]
  rw [beginsEndTag_append long, ← beginsEndTag_append long ('<' :: '!' :: tail')] at begins
  obtain ⟨c, rest, eq⟩ := List.exists_cons_of_ne_nil
    (List.append_ne_nil_of_right_ne_nil front (List.cons_ne_nil '<' ('!' :: tail')))
  rw [eq] at begins first ⊢
  exact Text.splitBefore_append_of_first begins first

/-! ### Documents -/

/-- The pieces before a comment stay, whatever comes in the place of the comment and of what is
behind it. -/
theorem piecesWithin_replace {raw? : Option String} {before behind : List Piece}
    {body tail : List Char} {closed : Bool} (named : ∀ name ∈ raw?, isName name = true)
    (split : piecesWithin raw? (before.flatMap Piece.source ++ '<' :: '!' :: tail) =
      before ++ .comment body closed :: behind) (tail' : List Char) :
    piecesWithin raw? (before.flatMap Piece.source ++ '<' :: '!' :: tail') =
      before ++ pieces ('<' :: '!' :: tail') := by
  induction before generalizing raw? with
  | nil =>
    cases raw? with
    | none => rfl
    | some name => cases split
  | cons piece before ih =>
    rw [List.flatMap_cons, List.append_assoc] at split ⊢
    cases raw? with
    | none =>
      obtain ⟨rest, covered, stands, itself, others⟩ := exists_of_pieces_eq_cons split
      obtain rfl := List.append_cancel_left covered
      have goesOn : before.flatMap Piece.source ++ '<' :: '!' :: tail ≠ [] := by simp
      have same : (before.flatMap Piece.source ++ '<' :: '!' :: tail').head? =
          (before.flatMap Piece.source ++ '<' :: '!' :: tail).head? := by
        cases before.flatMap Piece.source <;> rfl
      have goesOn' : before.flatMap Piece.source ++ '<' :: '!' :: tail' ≠ [] := by simp
      obtain ⟨c, cs, eq, read⟩ :=
        exists_firstPiece_of_stands (stands.of_head? goesOn same) itself goesOn'
      rw [piecesWithin_none, eq, pieces_cons, read, ih (fun _ => isName_of_rawTextElement?) others]
      rfl
    | some name =>
      obtain ⟨isRaw, others⟩ := List.cons.inj split
      obtain ⟨run, rfl⟩ : ∃ run, piece = .rawText run := ⟨_, isRaw.symm⟩
      have whole := Text.splitBefore_append (beginsEndTag name)
        (run ++ (before.flatMap Piece.source ++ '<' :: '!' :: tail))
      have first := Piece.rawText.inj isRaw
      simp only [Piece.source] at first others ⊢
      rw [first] at whole
      have second := List.append_cancel_left whole
      rw [second] at others
      have markup : ∀ other ∈ (none : Option String), isName other = true := by simp
      rw [piecesWithin, splitBefore_replace (named name rfl) (Prod.ext first second)]
      exact congrArg (.rawText run :: ·) (ih markup others)

/-- The reader of the document, which gives the events of its pieces, gives a comment that begins
right behind this part of it. -/
def GivesCommentBehind (front document : List Char) : Prop :=
  ∃ before body closed behind, pieces document = before ++ .comment body closed :: behind ∧
    before.flatMap Piece.source = front

/-- The events around a comment do not depend on what stands in the comment, but for the places of
those behind it. -/
theorem GivesCommentBehind.exists_events {front body behind : List Char}
    (gives : GivesCommentBehind front (front ++ ((Piece.comment body true).source ++ behind))) :
    ∃ before : List Piece, (before.flatMap Piece.source).length = front.length ∧
      ∀ other : List Char, ¬['-', '-', '>'] <:+: other →
        events (front ++ ((Piece.comment other true).source ++ behind)) =
          eventsFrom 0 before ++ .comment (String.ofList other) ::
            eventsFrom (front.length + (other.length + 7)) (pieces behind) := by
  obtain ⟨before, _, _, _, split, rfl⟩ := gives
  refine ⟨before, rfl, ?_⟩
  intro other noEnd
  have written (inside : List Char) : (Piece.comment inside true).source ++ behind =
      '<' :: '!' :: ('-' :: '-' :: (inside ++ '-' :: '-' :: '>' :: behind)) := by
    simp [Piece.source]
  have markup : ∀ name ∈ (none : Option String), isName name = true := by simp
  rw [written, ← piecesWithin_none] at split
  have others := piecesWithin_replace markup split
    ('-' :: '-' :: (other ++ '-' :: '-' :: '>' :: behind))
  have size : (Piece.comment other true).source.length = other.length + 7 := by
    simp +arith [Piece.source]
  rw [piecesWithin_none, pieces_comment noEnd] at others
  rw [written, events, others, eventsFrom_append, eventsFrom, size, Nat.zero_add]
  rfl

end DocIndex.Markup
