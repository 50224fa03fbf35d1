import DocIndex.Proofs.Markup.Writing

/-!
# Omitted end tags

Markup in one fixed spelling: names in small letters, values in double quotes. The end tag of an
element may be left out where what follows ends the element. Either way the start tag finds the same
tree, and leaves the events of what follows (`subtree_writeElement`).
-/

namespace DocIndex.Markup

def eventsAt (offset : Nat) (document : List Char) : List Event :=
  eventsFrom offset (pieces document)

/-! ### Spelling -/

def Attribute.write (a : Attribute) : List Char :=
  ' ' :: (a.name.toList ++ '=' :: '"' :: (escape ['&', '"'] a.value.toList ++ ['"']))

def writeStart (name : String) (list : List Attribute) : List Char :=
  '<' :: (name.toList ++ (list.flatMap Attribute.write ++ ['>']))

def writeEnd (name : String) : List Char :=
  '<' :: '/' :: (name.toList ++ ['>'])

def writeText (text : String) : List Char :=
  escape ['&', '<'] text.toList

def textNodes (text : String) : List Node :=
  if text = "" then [] else [.text text]

/-- An element with this content, of which the end tag may be left out. -/
def writeElement (name : String) (list : List Attribute) (content : List Char) (closed : Bool) :
    List Char :=
  writeStart name list ++ (content ++ if closed then writeEnd name else [])

theorem writesAttributes_write {list : List Attribute} (names : ∀ a ∈ list, isName a.name = true) :
    WritesAttributes list (list.flatMap Attribute.write) := by
  induction list with
  | nil => exact .nil
  | cons a list ih =>
    obtain ⟨named, others⟩ := List.forall_mem_cons.mp names
    have written := WritesAttributes.cons (lower_toList named) (ih others)
    simpa only [List.flatMap_cons, Attribute.write, List.cons_append, List.append_assoc,
      List.nil_append] using written

theorem writes_textNodes (text : String) : Writes (textNodes text) (writeText text) := by
  unfold textNodes
  split
  next empty =>
    rw [empty]
    exact .nil
  next =>
    have written : Writes [.text text] _ := .text .nil
    rwa [List.append_nil] at written

theorem areRegular_textNodes (parent text : String) : AreRegular parent (textNodes text) := by
  unfold textNodes
  split
  next => trivial
  next some => simpa [AreRegular, Node.IsRegular, Node.element?] using some

theorem rawTextOf_textNodes (text : String) : rawTextOf (textNodes text) = text.toList := by
  unfold textNodes
  split
  next empty => rw [empty]; rfl
  next => simp [rawTextOf, Node.rawText]

/-! ### Events -/

theorem eventsAt_append {cs : List Char} {ps : List Piece}
    (read : ∀ rest, Text.Ends (· != '<') rest → pieces (cs ++ rest) = ps ++ pieces rest)
    (offset : Nat) {rest : List Char} (ends : Text.Ends (· != '<') rest) :
    eventsAt offset (cs ++ rest) = eventsFrom offset ps ++ eventsAt (offset + cs.length) rest := by
  have sources : ps.flatMap Piece.source = cs := by
    have whole := flatMap_source_pieces (cs ++ [])
    rwa [read [] (by simp), pieces_nil, List.append_nil, List.append_nil] at whole
  rw [eventsAt, read rest ends, eventsFrom_append, sources, eventsAt]

/-- An element whose content is markup, not raw text. -/
structure IsMarkup (name : String) (list : List Attribute) : Prop where
  named : isName name = true
  names : ∀ a ∈ list, isName a.name = true
  notRaw : isRawTextElement name = false

theorem eventsAt_writeStart {name : String} {list : List Attribute} (markup : IsMarkup name list)
    (offset : Nat) (rest : List Char) :
    eventsAt offset (writeStart name list ++ rest) =
      .opening ⟨name, list, offset, false⟩ ::
        eventsAt (offset + (writeStart name list).length) rest := by
  have forms := (writesAttributes_write markup.names).writesForms markup.names
  have whole := pieces_startTag markup.named (lower_toList markup.named) forms rest
  have size : (Piece.startTag name.toList (list.flatMap Attribute.write) true).source =
      writeStart name list := by
    simp [Piece.source, writeStart]
  have text : writeStart name list ++ rest =
      '<' :: (name.toList ++ (list.flatMap Attribute.write ++ '>' :: rest)) := by
    simp [writeStart]
  rw [markup.notRaw] at whole
  simp only [Bool.false_eq_true, if_false, piecesWithin_none] at whole
  rw [eventsAt, text, whole, eventsFrom, size, Piece.event?, lower_toList markup.named,
    forms.attributes_eq, forms.isSelfClosing_eq_false]
  rfl

theorem eventsAt_writeEnd {name : String} (named : isName name = true) (offset : Nat)
    (rest : List Char) :
    eventsAt offset (writeEnd name ++ rest) =
      .closing name :: eventsAt (offset + (writeEnd name).length) rest := by
  have whole := pieces_endTag named (lower_toList named) rest
  have size : (Piece.endTag name.toList [] true).source = writeEnd name := by
    simp [Piece.source, writeEnd]
  have text : writeEnd name ++ rest = '<' :: '/' :: (name.toList ++ '>' :: rest) := by
    simp [writeEnd]
  rw [eventsAt, text, whole, eventsFrom, size, Piece.event?, lower_toList named]
  rfl

/-! ### What ends an element -/

/-- Whether an event ends an open element that lacks its end tag, without being a part of it. -/
def Event.endsOpen (name : String) : Event → Bool
  | .opening tag => impliesEnd name tag.name
  | .closing ending => !closes ending name && optionalEnd.contains name
  | .text _ => false
  | .comment _ => false

theorem Stack.build_of_endsOpen {frame : Frame} {event : Event}
    (ends : event.endsOpen frame.name = true) (rest : List Event) :
    Stack.build ⟨frame, []⟩ (event :: rest) = (frame.close, event :: rest) := by
  cases event with
  | text | comment => cases ends
  | opening tag =>
    have implied : impliesEnd frame.name tag.name = true := ends
    simp only [build, step, onOpening, makeRoom?, implied, if_true, root, closeAll]
  | closing name =>
    obtain ⟨other, omitted⟩ := Bool.and_eq_true_iff.mp ends
    rw [Bool.not_eq_true'] at other
    simp only [build, step, onClosing, closeNamed?, rootName, List.getLastD_nil, other, omitted,
      Bool.false_eq_true, if_false, if_true, root, closeAll]

/-- Text that ends an open element of this name. -/
inductive Bounds (name : String) : List Char → Prop where
  | start {next : String} {list : List Attribute} (rest : List Char) :
      IsMarkup next list → impliesEnd name next = true → Bounds name (writeStart next list ++ rest)
  | ending {other : String} (rest : List Char) :
      isName other = true → closes other name = false → optionalEnd.contains name = true →
      Bounds name (writeEnd other ++ rest)

namespace Bounds

variable {name : String} {rest : List Char}

theorem exists_event (bounds : Bounds name rest) (offset : Nat) :
    ∃ event more, eventsAt offset rest = event :: more ∧ event.endsOpen name = true := by
  cases bounds with
  | start rest markup implied => exact ⟨_, _, eventsAt_writeStart markup offset rest, implied⟩
  | ending rest named other omitted =>
    exact ⟨_, _, eventsAt_writeEnd named offset rest, by simpa [Event.endsOpen, other] using omitted⟩

theorem ends (bounds : Bounds name rest) : Text.Ends (· != '<') rest := by
  cases bounds <;> simp [writeStart, writeEnd]

end Bounds

/-- The start tag of an element finds its content, whether the end tag is written or what follows
ends the element. The events of what follows are left. -/
theorem subtree_writeElement {name : String} {list : List Attribute} {children : List Node}
    {content : List Char} (markup : IsMarkup name list) (notVoid : name ∉ voidElements)
    (reads : ReadsNodes name children content) (offset : Nat) {closed : Bool} {rest : List Char}
    (stops : closed = true ∨ Bounds name rest) :
    ∃ inside,
      eventsAt offset (writeElement name list content closed ++ rest) =
          .opening ⟨name, list, offset, false⟩ :: inside ∧
        StartTag.subtree ⟨name, list, offset, false⟩ inside =
          (⟨name, list, children⟩,
            eventsAt (offset + (writeElement name list content closed).length) rest) := by
  obtain ⟨ps, grows, read⟩ := reads
  have notEmpty : ¬(StartTag.mk name list offset false).isEmpty = true := by
    simpa [StartTag.isEmpty] using notVoid
  have start := eventsAt_writeStart markup offset
    (content ++ ((if closed then writeEnd name else []) ++ rest))
  have whole : writeElement name list content closed ++ rest = writeStart name list ++
      (content ++ ((if closed then writeEnd name else []) ++ rest)) := by
    simp only [writeElement, List.append_assoc]
  have ends : Text.Ends (· != '<') ((if closed then writeEnd name else []) ++ rest) := by
    cases closed with
    | true => simp [writeEnd]
    | false => simpa using (stops.resolve_left (by decide)).ends
  refine ⟨_, by rw [whole, start], ?_⟩
  rw [eventsAt_append read _ ends, StartTag.subtree, if_neg notEmpty, Frame.ofTag, grows _ _ _ rfl,
    Stack.pushAll, List.append_nil]
  cases closed with
  | true =>
    simp only [if_true, eventsAt_writeEnd markup.named]
    simp only [Stack.build, Stack.step, Stack.onClosing, Stack.closeNamed?, Stack.rootName,
      List.getLastD_nil, closes_self, if_true, Stack.root, Stack.closeAll, Frame.close,
      List.reverse_reverse, writeElement, List.length_append, Nat.add_assoc]
  | false =>
    obtain ⟨event, more, same, isEnd⟩ := (stops.resolve_left (by decide)).exists_event
      (offset + (writeStart name list).length + content.length)
    simp only [Bool.false_eq_true, if_false, List.nil_append, same]
    rw [Stack.build_of_endsOpen isEnd, ← same]
    simp only [Frame.close, List.reverse_reverse, writeElement, List.length_append, Nat.add_assoc,
      Bool.false_eq_true, if_false, List.length_nil, Nat.add_zero]

end DocIndex.Markup
