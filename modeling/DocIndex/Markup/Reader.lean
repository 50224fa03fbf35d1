import DocIndex.Markup.Subtree

/-!
# The reader of a document

A reader stands at a place of a document and gives the events behind it one at a time. It finds out
where a start tag stands by counting the characters since the tag before. The central fact is that a
reader is no more than the events that it still has to give (`Reader.left`): reading the next one
takes the first of them (`next_fst`, `left_next`), and reading a tree takes what the tree is built
from (`subtree_fst`, `left_subtree`).
-/

namespace DocIndex.Markup

structure Reader where
  /-- The rest of the document. -/
  unread : List Char
  /-- The number of characters before the last start tag. -/
  counted : Nat
  /-- The characters read since they were counted, the last one first. -/
  uncounted : List Char
  /-- An event that has been handed back. -/
  pushedBack? : Option Event
  /-- The element whose raw text comes next. -/
  rawText? : Option String

namespace Reader

def start (document : List Char) : Reader :=
  ⟨document, 0, [], none, none⟩

/-- The number of characters before the rest of the document. -/
def position (r : Reader) : Nat :=
  r.counted + r.uncounted.length

def countFor (r : Reader) : Piece → Reader
  | .startTag _ _ _ => { r with counted := r.position, uncounted := [] }
  | _ => r

def moveBehind (r : Reader) (source rest : List Char) : Reader :=
  { r with unread := rest, uncounted := source.reverseAux r.uncounted }

/-- Moves behind a piece, which may be the start of an element with raw text. -/
def pass (r : Reader) (piece : Piece) (rest : List Char) : Reader :=
  { (r.countFor piece).moveBehind piece.source rest with rawText? := piece.rawTextElement? }

def pushBack (r : Reader) (event : Event) : Reader :=
  { r with pushedBack? := some event }

/-- The events that the reader still has to give. -/
def left (r : Reader) : List Event :=
  r.pushedBack?.toList ++ eventsFrom r.position (piecesWithin r.rawText? r.unread)

@[simp] theorem left_start (document : List Char) : (start document).left = events document := rfl

theorem left_pushBack {r : Reader} (none : r.pushedBack? = none) (event : Event) :
    (r.pushBack event).left = event :: r.left := by
  simp [left, pushBack, none, position]

theorem event?_counted (r : Reader) (piece : Piece) :
    piece.event? (r.countFor piece).counted = piece.event? r.position := by
  cases piece <;> rfl

@[simp] theorem position_pass (r : Reader) (piece : Piece) (rest : List Char) :
    (r.pass piece rest).position = r.position + piece.source.length := by
  cases piece <;> simp +arith [pass, countFor, moveBehind, position, List.reverseAux_eq]

/-- Reads on to the next event of markup. Declarations have none. -/
def readMarkup (r : Reader) : Option Event × Reader :=
  match _h : r.unread with
  | [] => (none, r)
  | c :: cs =>
    let first := firstPiece c cs
    match first.1.event? (r.countFor first.1).counted with
    | some event => (some event, r.pass first.1 first.2)
    | none => readMarkup (r.pass first.1 first.2)
termination_by r.unread.length
decreasing_by
  rw [_h]
  exact Nat.lt_succ_of_le (length_firstPiece_le c cs)

def readRawText (r : Reader) (name : String) : Event × Reader :=
  let raw := Text.splitBefore (beginsEndTag name) r.unread
  (.text (String.ofList raw.1), { r.moveBehind raw.1 raw.2 with rawText? := none })

/-- The next event, which is none at the end of the document. -/
def next (r : Reader) : Option Event × Reader :=
  match r.pushedBack?, r.rawText? with
  | some event, _ => (some event, { r with pushedBack? := none })
  | none, some name => let raw := r.readRawText name; (some raw.1, raw.2)
  | none, none => r.readMarkup

@[simp] theorem pushedBack?_pass (r : Reader) (piece : Piece) (rest : List Char) :
    (r.pass piece rest).pushedBack? = r.pushedBack? := by
  cases piece <;> rfl

theorem pushedBack?_readMarkup (r : Reader) : r.readMarkup.2.pushedBack? = r.pushedBack? := by
  fun_induction readMarkup r with
  | case1 => rfl
  | case2 r c cs _ first event _ => exact r.pushedBack?_pass first.1 first.2
  | case3 r c cs _ first _ ih => exact ih.trans (r.pushedBack?_pass first.1 first.2)

@[simp] theorem pushedBack?_next (r : Reader) : r.next.2.pushedBack? = none := by
  unfold next
  split
  next => rfl
  next none _ => exact none
  next none _ => exact (pushedBack?_readMarkup r).trans none

theorem left_pass {r : Reader} (empty : r.pushedBack? = none) (piece : Piece) (rest : List Char) :
    (r.pass piece rest).left =
      eventsFrom (r.position + piece.source.length)
        (piecesWithin piece.rawTextElement? rest) := by
  rw [left, pushedBack?_pass, empty, position_pass]
  rfl

theorem rawTextElement?_of_event? {offset : Nat} {piece : Piece}
    (silent : piece.event? offset = none) : piece.rawTextElement? = none := by
  cases piece with
  | declaration => rfl
  | comment | startTag | endTag | text | rawText => cases silent

theorem left_of_unread {r : Reader} {c : Char} {cs : List Char} (empty : r.pushedBack? = none)
    (markup : r.rawText? = none) (unread : r.unread = c :: cs) :
    r.left = ((firstPiece c cs).1.event? r.position).toList ++
      (r.pass (firstPiece c cs).1 (firstPiece c cs).2).left := by
  rw [left_pass empty, left, empty, markup, unread, piecesWithin_none, pieces_cons]
  rfl

theorem readMarkup_eq (r : Reader) (empty : r.pushedBack? = none) (markup : r.rawText? = none) :
    r.readMarkup.1 = r.left.head? ∧ r.readMarkup.2.left = r.left.tail := by
  fun_induction readMarkup r with
  | case1 r atEnd => simp [left, empty, markup, atEnd, eventsFrom]
  | case2 r c cs unread first event read =>
    rw [event?_counted] at read
    rw [left_of_unread empty markup unread, read]
    exact ⟨rfl, rfl⟩
  | case3 r c cs unread first read ih =>
    rw [event?_counted] at read
    rw [left_of_unread empty markup unread, read]
    exact ih ((r.pushedBack?_pass first.1 first.2).trans empty) (rawTextElement?_of_event? read)

theorem left_of_rawText? {r : Reader} {name : String} (empty : r.pushedBack? = none)
    (raw : r.rawText? = some name) :
    r.left = (r.readRawText name).1 :: (r.readRawText name).2.left := by
  have moved (source : List Char) : r.counted + (source.reverseAux r.uncounted).length =
      r.position + source.length := by
    simp +arith [position, List.reverseAux_eq]
  simp only [left, empty, raw, readRawText, moveBehind, position, moved]
  rfl

theorem next_eq (r : Reader) : r.next.1 = r.left.head? ∧ r.next.2.left = r.left.tail := by
  unfold next
  split
  next event pushed => simp [left, pushed, position]
  next name empty raw =>
    rw [left_of_rawText? empty raw]
    exact ⟨rfl, rfl⟩
  next empty markup => exact readMarkup_eq r empty markup

/-- A reader gives the first of the events that are left. -/
theorem next_fst (r : Reader) : r.next.1 = r.left.head? :=
  (next_eq r).1

theorem left_next (r : Reader) : r.next.2.left = r.left.tail :=
  (next_eq r).2

theorem left_eq_cons {r : Reader} {event : Event} (given : r.next.1 = some event) :
    r.left = event :: r.next.2.left := by
  rw [next_fst] at given
  obtain ⟨rest, left⟩ := List.head?_eq_some_iff.mp given
  rw [left_next, left, List.tail_cons]

theorem left_eq_nil {r : Reader} (atEnd : r.next.1 = none) : r.left = [] := by
  rwa [next_fst, List.head?_eq_none_iff] at atEnd

theorem length_left_next_lt {r : Reader} {event : Event} (given : r.next.1 = some event) :
    r.next.2.left.length < r.left.length := by
  rw [left_eq_cons given]
  exact Nat.lt_succ_self _

def drain (r : Reader) : List Event :=
  match _h : r.next with
  | (none, _) => []
  | (some event, rest) => event :: drain rest
termination_by r.left.length
decreasing_by
  have shorter := length_left_next_lt (congrArg Prod.fst _h)
  rw [_h] at shorter
  exact shorter

theorem drain_eq_left (r : Reader) : r.drain = r.left := by
  fun_induction drain r with
  | case1 r rest read => rw [left_eq_nil (congrArg Prod.fst read)]
  | case2 r event rest read ih =>
    rw [left_eq_cons (congrArg Prod.fst read), read, ih]

/-- Reads the content of the open elements, up to the end of the root. -/
def readTree (stack : Stack) (r : Reader) : Element × Reader :=
  match _h : r.next with
  | (none, rest) => (stack.root, rest)
  | (some event, rest) =>
    match stack.step event with
    | .goOn next => readTree next rest
    | .done root => (root, rest)
    | .doneBefore root => (root, rest.pushBack event)
termination_by r.left.length
decreasing_by
  have shorter := length_left_next_lt (congrArg Prod.fst _h)
  rw [_h] at shorter
  exact shorter

theorem readTree_eq (stack : Stack) (r : Reader) :
    (readTree stack r).1 = (stack.build r.left).1 ∧
      (readTree stack r).2.left = (stack.build r.left).2 := by
  fun_induction readTree stack r with
  | case1 stack r rest read =>
    have atEnd := left_eq_nil (congrArg Prod.fst read)
    have after := left_next r
    rw [read, atEnd] at after
    rw [atEnd]
    exact ⟨rfl, after⟩
  | case2 stack r event rest read next step ih =>
    have given := left_eq_cons (congrArg Prod.fst read)
    simp only [given, read, Stack.build, step]
    exact ih
  | case3 stack r event rest read root step =>
    have given := left_eq_cons (congrArg Prod.fst read)
    simp only [given, read, Stack.build, step, and_self]
  | case4 stack r event rest read root step =>
    have given := left_eq_cons (congrArg Prod.fst read)
    have empty := r.pushedBack?_next
    rw [read] at empty
    simp only [given, read, Stack.build, step, left_pushBack empty, and_self]

/-- Reads the content of the start tag that was read last, and gives its element. -/
def subtree (r : Reader) (tag : StartTag) : Element × Reader :=
  if tag.isEmpty then ((Frame.ofTag tag).close, r) else r.readTree ⟨Frame.ofTag tag, []⟩

/-- A reader gives the tree that is built from the events that are left. -/
theorem subtree_fst (r : Reader) (tag : StartTag) :
    (r.subtree tag).1 = (tag.subtree r.left).1 := by
  unfold subtree StartTag.subtree
  split
  · rfl
  · exact (readTree_eq _ r).1

theorem left_subtree (r : Reader) (tag : StartTag) :
    (r.subtree tag).2.left = (tag.subtree r.left).2 := by
  unfold subtree StartTag.subtree
  split
  · rfl
  · exact (readTree_eq _ r).2

end Reader

end DocIndex.Markup
