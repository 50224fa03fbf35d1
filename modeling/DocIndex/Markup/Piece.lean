import DocIndex.Markup.Attribute
import DocIndex.Text.Search

/-!
# Pieces of a document

A document is a sequence of pieces: comments, declarations, tags and runs of text. Every text can
be split in this way, and the sources of its pieces, one after the other, are the text again
(`flatMap_source_pieces`). A less-than sign that begins no markup begins a run of text.
-/

namespace DocIndex.Markup

/-- A stretch of a document. A construct that reaches the end of the document without its own end
is not closed. -/
inductive Piece where
  | comment (body : List Char) (closed : Bool)
  | declaration (body : List Char) (closed : Bool)
  | startTag (name body : List Char) (closed : Bool)
  | endTag (name body : List Char) (closed : Bool)
  | text (run : List Char)
  /-- The content of a script or style element. -/
  | rawText (run : List Char)
deriving DecidableEq, Repr

namespace Piece

def source : Piece → List Char
  | comment body closed => ['<', '!', '-', '-'] ++ body ++ if closed then ['-', '-', '>'] else []
  | declaration body closed => '<' :: body ++ if closed then ['>'] else []
  | startTag name body closed => '<' :: (name ++ body) ++ if closed then ['>'] else []
  | endTag name body closed => ['<', '/'] ++ (name ++ body) ++ if closed then ['>'] else []
  | text run => run
  | rawText run => run

end Piece

def isNameChar (c : Char) : Bool :=
  c.isAlphanum || c == '-' || c == '_' || c == ':' || c == '.'

/-- Splits before the first greater-than sign that stands in no quotes; the option is the quote
that is open. -/
def splitTag : Option Char → List Char → List Char × List Char
  | _, [] => ([], [])
  | some quote, c :: cs =>
    let parts := splitTag (if c = quote then none else some quote) cs
    (c :: parts.1, parts.2)
  | none, c :: cs =>
    if c = '>' then ([], c :: cs)
    else
      let parts := splitTag (if c = '"' ∨ c = '\'' then some c else none) cs
      (c :: parts.1, parts.2)

@[simp] theorem splitTag_append (quote : Option Char) (cs : List Char) :
    (splitTag quote cs).1 ++ (splitTag quote cs).2 = cs := by
  induction cs generalizing quote with
  | nil => cases quote <;> rfl
  | cons c cs ih =>
    cases quote with
    | some quote => simp [splitTag, ih]
    | none => simp only [splitTag]; split <;> simp [ih]

theorem splitTag_snd (quote : Option Char) (cs : List Char) :
    (splitTag quote cs).2 = [] ∨ ∃ rest, (splitTag quote cs).2 = '>' :: rest := by
  induction cs generalizing quote with
  | nil => cases quote <;> exact .inl rfl
  | cons c cs ih =>
    cases quote with
    | some quote => exact ih _
    | none =>
      simp only [splitTag]
      split
      next found => exact .inr ⟨cs, by rw [found]⟩
      next => exact ih _

def isRawTextElement (name : String) : Bool :=
  name = "script" || name = "style"

def isSelfClosing (body : List Char) : Bool :=
  (Text.trimEnd body).getLast? == some '/'

/-- The element whose raw text follows this piece. -/
def Piece.rawTextElement? : Piece → Option String
  | .startTag name body _ =>
    if isRawTextElement (lower name) && !isSelfClosing body then some (lower name) else none
  | _ => none

/-- Whether an end tag of this name begins here, in letters of any case. -/
def beginsEndTag (name : String) (cs : List Char) : Bool :=
  match cs with
  | '<' :: '/' :: rest => lower (rest.take name.length) == name
  | _ => false

/-- A run of text: one character, whatever it is, and all up to the next less-than sign. -/
def textPiece (c : Char) (cs : List Char) : Piece × List Char :=
  (.text (c :: cs.takeWhile (· != '<')), cs.dropWhile (· != '<'))

def commentPiece (cs : List Char) : Piece × List Char :=
  let parts := Text.splitAtMark ['-', '-', '>'] cs
  (.comment parts.1 parts.2.1, parts.2.2)

def declarationPiece (cs : List Char) : Piece × List Char :=
  let parts := Text.splitAtMark ['>'] cs
  (.declaration parts.1 parts.2.1, parts.2.2)

def endTagPiece (cs : List Char) : Piece × List Char :=
  let parts := Text.splitAtMark ['>'] (cs.dropWhile isNameChar)
  (.endTag (cs.takeWhile isNameChar) parts.1 parts.2.1, parts.2.2)

def startTagPiece (cs : List Char) : Piece × List Char :=
  let parts := splitTag none (cs.dropWhile isNameChar)
  (.startTag (cs.takeWhile isNameChar) parts.1 !parts.2.isEmpty, parts.2.drop 1)

/-- Reads on behind a less-than sign, if it begins markup. -/
def markupPiece? : List Char → Option (Piece × List Char)
  | '!' :: '-' :: '-' :: cs => some (commentPiece cs)
  | '!' :: cs => some (declarationPiece ('!' :: cs))
  | '?' :: cs => some (declarationPiece ('?' :: cs))
  | '/' :: c :: cs => if isNameChar c then some (endTagPiece (c :: cs)) else none
  | c :: cs => if c.isAlpha then some (startTagPiece (c :: cs)) else none
  | [] => none

/-- The first piece of a document that begins with this character, and the rest. -/
def firstPiece (c : Char) (cs : List Char) : Piece × List Char :=
  if c = '<' then (markupPiece? cs).getD (textPiece c cs) else textPiece c cs

theorem source_textPiece (c : Char) (cs : List Char) :
    (textPiece c cs).1.source ++ (textPiece c cs).2 = c :: cs := by
  simp [textPiece, Piece.source]

theorem source_commentPiece (cs : List Char) :
    (commentPiece cs).1.source ++ (commentPiece cs).2 = '<' :: '!' :: '-' :: '-' :: cs := by
  have parts := Text.splitAtMark_append ['-', '-', '>'] cs
  simpa [commentPiece, Piece.source] using parts

theorem source_declarationPiece (cs : List Char) :
    (declarationPiece cs).1.source ++ (declarationPiece cs).2 = '<' :: cs := by
  have parts := Text.splitAtMark_append ['>'] cs
  simpa [declarationPiece, Piece.source] using parts

theorem source_endTagPiece (cs : List Char) :
    (endTagPiece cs).1.source ++ (endTagPiece cs).2 = '<' :: '/' :: cs := by
  have parts := Text.splitAtMark_append ['>'] (cs.dropWhile isNameChar)
  rw [List.append_assoc] at parts
  simp [endTagPiece, Piece.source, parts]

theorem source_startTagPiece (cs : List Char) :
    (startTagPiece cs).1.source ++ (startTagPiece cs).2 = '<' :: cs := by
  have parts := splitTag_append none (cs.dropWhile isNameChar)
  rcases splitTag_snd none (cs.dropWhile isNameChar) with none | ⟨after, found⟩
  · rw [none, List.append_nil] at parts
    simp [startTagPiece, Piece.source, none, parts]
  · rw [found] at parts
    simp [startTagPiece, Piece.source, found, parts]

theorem source_markupPiece? {cs : List Char} {found : Piece × List Char}
    (h : markupPiece? cs = some found) : found.1.source ++ found.2 = '<' :: cs := by
  unfold markupPiece? at h
  split at h
  · exact Option.some.inj h ▸ source_commentPiece _
  · exact Option.some.inj h ▸ source_declarationPiece _
  · exact Option.some.inj h ▸ source_declarationPiece _
  · split at h
    · exact Option.some.inj h ▸ source_endTagPiece _
    · contradiction
  · split at h
    · exact Option.some.inj h ▸ source_startTagPiece _
    · contradiction
  · contradiction

theorem source_firstPiece (c : Char) (cs : List Char) :
    (firstPiece c cs).1.source ++ (firstPiece c cs).2 = c :: cs := by
  unfold firstPiece
  split
  next markup =>
    cases read : markupPiece? cs with
    | none => exact source_textPiece c cs
    | some found => exact markup ▸ source_markupPiece? read
  next => exact source_textPiece c cs

theorem markupPiece?_source_ne_nil {cs : List Char} {found : Piece × List Char}
    (h : markupPiece? cs = some found) : found.1.source ≠ [] := by
  unfold markupPiece? at h
  split at h
  · exact Option.some.inj h ▸ List.cons_ne_nil _ _
  · exact Option.some.inj h ▸ List.cons_ne_nil _ _
  · exact Option.some.inj h ▸ List.cons_ne_nil _ _
  · split at h
    · exact Option.some.inj h ▸ List.cons_ne_nil _ _
    · contradiction
  · split at h
    · exact Option.some.inj h ▸ List.cons_ne_nil _ _
    · contradiction
  · contradiction

theorem source_firstPiece_ne_nil (c : Char) (cs : List Char) :
    (firstPiece c cs).1.source ≠ [] := by
  unfold firstPiece
  split
  · cases read : markupPiece? cs with
    | none => exact List.cons_ne_nil _ _
    | some found => exact markupPiece?_source_ne_nil read
  · exact List.cons_ne_nil _ _

theorem length_firstPiece_le (c : Char) (cs : List Char) :
    (firstPiece c cs).2.length ≤ cs.length := by
  have whole := congrArg List.length (source_firstPiece c cs)
  have covered := List.length_pos_iff.mpr (source_firstPiece_ne_nil c cs)
  simp only [List.length_append, List.length_cons] at whole
  omega

/-- The pieces of a document. A start tag of a script or style element is followed by one piece of
raw text, which may be empty and lasts to the end tag of that element. -/
def pieces (cs : List Char) : List Piece :=
  match cs with
  | [] => []
  | c :: cs =>
    let first := firstPiece c cs
    match first.1.rawTextElement? with
    | none => first.1 :: pieces first.2
    | some name =>
      let raw := Text.splitBefore (beginsEndTag name) first.2
      first.1 :: .rawText raw.1 :: pieces raw.2
termination_by cs.length
decreasing_by
  all_goals have shorter := length_firstPiece_le c cs
  · simp only [List.length_cons]
    omega
  · have whole := congrArg List.length
      (Text.splitBefore_append (beginsEndTag name) (firstPiece c cs).2)
    simp only [List.length_append, List.length_cons] at whole ⊢
    omega

@[simp] theorem pieces_nil : pieces [] = [] := by
  rw [pieces]

/-- The pieces of the rest of a document, which begins in the raw text of an element if one is
given. -/
def piecesWithin : Option String → List Char → List Piece
  | none, cs => pieces cs
  | some name, cs =>
    let raw := Text.splitBefore (beginsEndTag name) cs
    .rawText raw.1 :: pieces raw.2

@[simp] theorem piecesWithin_none (cs : List Char) : piecesWithin none cs = pieces cs := rfl

theorem pieces_cons (c : Char) (cs : List Char) :
    pieces (c :: cs) =
      (firstPiece c cs).1 ::
        piecesWithin (firstPiece c cs).1.rawTextElement? (firstPiece c cs).2 := by
  rw [pieces]
  cases (firstPiece c cs).1.rawTextElement? with
  | none => rfl
  | some name => rfl

/-- The pieces of a document cover it, each character once and in order. -/
theorem flatMap_source_pieces (cs : List Char) : (pieces cs).flatMap Piece.source = cs := by
  fun_induction pieces cs with
  | case1 => rfl
  | case2 c cs first _ ih => rw [List.flatMap_cons, ih, source_firstPiece]
  | case3 c cs first name _ raw ih =>
    rw [List.flatMap_cons, List.flatMap_cons, ih, Piece.source, Text.splitBefore_append,
      source_firstPiece]

end DocIndex.Markup
