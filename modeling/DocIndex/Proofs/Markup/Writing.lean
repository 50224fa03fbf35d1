import DocIndex.Proofs.Markup.Scanning
import DocIndex.Proofs.Markup.Shift

/-!
# Written trees

A tree that is written as markup is read back from it. The pieces of the markup are known, whatever
follows them (`Writes.readsNodes`), and they build the tree in whatever element they stand
(`Grows`). So a reader gives the start tag of the root, its tree, and then the events of what stands
behind it (`Reader.subtree_written`).
-/

namespace DocIndex.Markup

/-! ### Building -/

namespace Stack

def pushAll (stack : Stack) (nodes : List Node) : Stack :=
  ⟨⟨stack.top.name, stack.top.attributes, nodes.reverse ++ stack.top.content⟩, stack.outer⟩

theorem pushAll_append (stack : Stack) (front back : List Node) :
    (stack.pushAll front).pushAll back = stack.pushAll (front ++ back) := by
  simp only [pushAll, List.reverse_append, List.append_assoc]

theorem makeRoom?_eq_some {element : String} {top : Frame}
    (fits : impliesEnd top.name element = false) (outer : List Frame) :
    makeRoom? element top outer = some ⟨top, outer⟩ := by
  cases outer <;> simp [makeRoom?, fits]

theorem step_opening {stack : Stack} {tag : StartTag}
    (fits : impliesEnd stack.top.name tag.name = false) :
    stack.step (.opening tag) =
      .goOn (if tag.isEmpty then stack.push (Frame.ofTag tag).close.toNode
        else ⟨Frame.ofTag tag, stack.top :: stack.outer⟩) := by
  simp only [step, onOpening, makeRoom?_eq_some fits]
  split <;> rfl

end Stack

theorem closes_self (name : String) : closes name name = true := by
  simp [closes]

/-- Pieces that stand for these nodes wherever an element of this name is the innermost one. -/
def Grows (parent : String) (ps : List Piece) (nodes : List Node) : Prop :=
  ∀ offset (stack : Stack) rest, stack.top.name = parent →
    stack.build (eventsFrom offset ps ++ rest) = (stack.pushAll nodes).build rest

namespace Grows

variable {parent : String}

theorem nil : Grows parent [] [] :=
  fun _ _ _ _ => rfl

theorem append {ps qs : List Piece} {nodes more : List Node} (front : Grows parent ps nodes)
    (back : Grows parent qs more) : Grows parent (ps ++ qs) (nodes ++ more) := by
  intro offset stack rest inside
  rw [eventsFrom_append, List.append_assoc, front _ _ _ inside, back _ _ _ (by exact inside),
    Stack.pushAll_append]

theorem text {run : List Char} {data : String} (decoded : decode run = data.toList) :
    Grows parent [.text run] [.text data] := by
  intro offset stack rest _
  simp only [eventsFrom, Piece.event?, decoded, String.ofList_toList]
  rfl

theorem rawText (data : String) : Grows parent [.rawText data.toList] [.text data] := by
  intro offset stack rest _
  simp only [eventsFrom, Piece.event?, String.ofList_toList]
  rfl

theorem comment (body : String) (closed : Bool) :
    Grows parent [.comment body.toList closed] [.comment body] := by
  intro offset stack rest _
  simp only [eventsFrom, Piece.event?, String.ofList_toList]
  rfl

end Grows

def Element.startTag (e : Element) (offset : Nat) : StartTag :=
  ⟨e.name, e.attributes, offset, false⟩

/-- Pieces that complete an element behind its start tag, be it the root or within another one. -/
structure Completes (e : Element) (inner : List Piece) : Prop where
  root : ∀ offset place rest,
    (e.startTag place).subtree (eventsFrom offset inner ++ rest) = (e, rest)
  within : ∀ offset place (stack : Stack) rest, impliesEnd stack.top.name e.name = false →
    stack.build (.opening (e.startTag place) :: (eventsFrom offset inner ++ rest)) =
      (stack.push e.toNode).build rest

theorem completes_void {name : String} (void : name ∈ voidElements) (list : List Attribute) :
    Completes ⟨name, list, []⟩ [] := by
  have empty (place : Nat) : (Element.startTag ⟨name, list, []⟩ place).isEmpty = true := by
    simpa [StartTag.isEmpty, Element.startTag] using void
  constructor
  · intro offset place rest
    rw [StartTag.subtree, if_pos (empty place)]
    rfl
  · intro offset place stack rest fits
    rw [Stack.build, Stack.step_opening fits, if_pos (empty place)]
    rfl

theorem completes_paired {name : String} (notVoid : name ∉ voidElements) (list : List Attribute)
    {children : List Node} {ps : List Piece} (grows : Grows name ps children)
    {ending : List Char} (writes : lower ending = name) :
    Completes ⟨name, list, children⟩ (ps ++ [.endTag ending [] true]) := by
  have notEmpty (place : Nat) :
      ¬(Element.startTag ⟨name, list, children⟩ place).isEmpty = true := by
    simpa [StartTag.isEmpty, Element.startTag] using notVoid
  -- The content grows within the open element, and the end tag closes it.
  have filled (offset : Nat) (outer : List Frame) (rest : List Event) :
      Stack.build ⟨⟨name, list, []⟩, outer⟩
          (eventsFrom offset (ps ++ [.endTag ending [] true]) ++ rest) =
        Stack.build ⟨⟨name, list, children.reverse ++ []⟩, outer⟩ (.closing name :: rest) := by
    rw [eventsFrom_append, List.append_assoc, grows _ _ _ rfl, eventsFrom, Piece.event?, writes]
    rfl
  constructor
  · intro offset place rest
    rw [StartTag.subtree, if_neg (notEmpty place), Frame.ofTag, Element.startTag, filled offset]
    simp only [Stack.build, Stack.step, Stack.onClosing, Stack.closeNamed?, Stack.rootName,
      List.getLastD_nil, closes_self, if_true, Stack.root, Stack.closeAll, Frame.close,
      List.append_nil, List.reverse_reverse]
  · intro offset place stack rest fits
    rw [Stack.build, Stack.step_opening fits, if_neg (notEmpty place)]
    simp only [Frame.ofTag, Element.startTag]
    rw [filled offset]
    simp only [Stack.build, Stack.step, Stack.onClosing, Stack.closeNamed?, closes_self, if_true,
      Frame.close, List.append_nil, List.reverse_reverse]
    rfl

/-! ### Trees -/

def Node.isText : Node → Bool
  | .text _ => true
  | _ => false

/-- The text of a script or style element does not end the element. -/
def IsRawContent (name : String) (children : List Node) : Prop :=
  ∀ data, .text data ∈ children → ∀ ending, lower ending = name →
    ¬ '<' :: '/' :: ending <:+: data.toList

mutual

/-- Nodes that are themselves again when they are written and read. -/
def Node.IsRegular : Node → Prop
  | .element name attributes children =>
    isName name = true ∧ (∀ a ∈ attributes, isName a.name = true) ∧
      if isRawTextElement name then IsRawContent name children else AreRegular name children
  | .text data => data ≠ ""
  | .comment body => ¬['-', '-', '>'] <:+: body.toList

/-- The children of an element of this name: no two texts are neighbours, and no child ends the
element. -/
def AreRegular (parent : String) : List Node → Prop
  | [] => True
  | node :: rest =>
    node.IsRegular ∧ (∀ e ∈ node.element?, impliesEnd parent e.name = false) ∧
      ¬(node.isText = true ∧ rest.head?.any Node.isText = true) ∧ AreRegular parent rest

end

/-- The markup of an element with this content: a void element has neither content nor an end tag.
Names are written in letters of any case. -/
inductive WritesElement : String → List Attribute → List Char → List Char → Prop where
  | void {name : String} {list : List Attribute} {opening inside : List Char} :
      name ∈ voidElements → lower opening = name → WritesAttributes list inside →
      WritesElement name list [] ('<' :: (opening ++ (inside ++ ['>'])))
  | paired {name : String} {list : List Attribute} {opening inside content ending : List Char} :
      name ∉ voidElements → lower opening = name → WritesAttributes list inside →
      lower ending = name →
      WritesElement name list content
        ('<' :: (opening ++ (inside ++ '>' :: (content ++ '<' :: '/' :: (ending ++ ['>'])))))

/-- The markup of nodes, one after the other. The one text in a script or style element is written
as it is. -/
inductive Writes : List Node → List Char → Prop where
  | nil : Writes [] []
  | text {data : String} {nodes : List Node} {cs : List Char} :
      Writes nodes cs →
      Writes (.text data :: nodes) (escape ['&', '<'] data.toList ++ cs)
  | comment {body : String} {nodes : List Node} {cs : List Char} :
      Writes nodes cs →
      Writes (.comment body :: nodes)
        ('<' :: '!' :: '-' :: '-' :: (body.toList ++ '-' :: '-' :: '>' :: cs))
  | raw {name data : String} {list : List Attribute} {nodes : List Node}
      {element cs : List Char} :
      isRawTextElement name = true → WritesElement name list data.toList element →
      Writes nodes cs →
      Writes (.element name list [.text data] :: nodes) (element ++ cs)
  | element {name : String} {list : List Attribute} {children nodes : List Node}
      {content element cs : List Char} :
      isRawTextElement name = false → (name ∈ voidElements → children = []) →
      Writes children content → WritesElement name list content element →
      Writes nodes cs →
      Writes (.element name list children :: nodes) (element ++ cs)

theorem WritesElement.exists_of_names {name : String} {list : List Attribute}
    (named : isName name = true) (names : ∀ a ∈ list, isName a.name = true)
    {content : List Char} (empty : name ∈ voidElements → content = []) :
    ∃ cs, WritesElement name list content cs := by
  obtain ⟨inside, written⟩ := WritesAttributes.exists_of_names names
  by_cases void : name ∈ voidElements
  · rw [empty void]
    exact ⟨_, .void void (lower_toList named) written⟩
  · exact ⟨_, .paired void (lower_toList named) written (lower_toList named)⟩

mutual

/-- Void elements have no content, and script and style elements have one text. -/
def Node.HasForm : Node → Prop
  | .element name _ children =>
    (name ∈ voidElements → children = []) ∧
      if isRawTextElement name then ∃ data, children = [.text data] else HaveForm children
  | .text _ => True
  | .comment _ => True

def HaveForm : List Node → Prop
  | [] => True
  | node :: rest => node.HasForm ∧ HaveForm rest

end

mutual

theorem Writes.exists_cons {node : Node} (regular : node.IsRegular) (form : node.HasForm)
    {nodes : List Node} {cs : List Char} (writes : Writes nodes cs) :
    ∃ more, Writes (node :: nodes) more := by
  cases node with
  | text data => exact ⟨_, .text writes⟩
  | comment body => exact ⟨_, .comment writes⟩
  | element name list children =>
    obtain ⟨named, names, inside⟩ := regular
    obtain ⟨empty, form⟩ := form
    cases raw : isRawTextElement name with
    | true =>
      rw [if_pos raw] at form
      obtain ⟨data, rfl⟩ := form
      have notVoid : name ∉ voidElements := fun void => by cases empty void
      obtain ⟨_, element⟩ := WritesElement.exists_of_names named names
        fun void => absurd void notVoid
      exact ⟨_, .raw raw element writes⟩
    | false =>
      rw [if_neg (Bool.eq_false_iff.mp raw)] at form inside
      obtain ⟨content, children⟩ := Writes.exists_of_isRegular inside form
      have nothing : name ∈ voidElements → content = [] := by
        intro void
        cases empty void
        cases children
        rfl
      obtain ⟨_, element⟩ := WritesElement.exists_of_names named names nothing
      exact ⟨_, .element raw empty children element writes⟩

/-- Regular nodes of this form can be written, so that what follows speaks of all of them. -/
theorem Writes.exists_of_isRegular {parent : String} {nodes : List Node}
    (regular : AreRegular parent nodes) (form : HaveForm nodes) : ∃ cs, Writes nodes cs := by
  cases nodes with
  | nil => exact ⟨[], .nil⟩
  | cons node rest =>
    obtain ⟨whole, -, -, others⟩ := regular
    obtain ⟨cs, writes⟩ := Writes.exists_of_isRegular others form.2
    exact Writes.exists_cons whole form.1 writes

end

def ReadsElement (e : Element) (cs : List Char) : Prop :=
  ∃ opening inside inner, lower opening = e.name ∧ attributes inside = e.attributes ∧
    isSelfClosing inside = false ∧ Completes e inner ∧
    ∀ rest, pieces (cs ++ rest) = .startTag opening inside true :: (inner ++ pieces rest)

/-- Markup that is read as these nodes, if markup follows it or the end. -/
def ReadsNodes (parent : String) (nodes : List Node) (cs : List Char) : Prop :=
  ∃ ps, Grows parent ps nodes ∧
    ∀ rest, Text.Ends (· != '<') rest → pieces (cs ++ rest) = ps ++ pieces rest

theorem WritesElement.exists_cons {name : String} {list : List Attribute} {content cs : List Char}
    (writes : WritesElement name list content cs) : ∃ behind, cs = '<' :: behind := by
  cases writes with
  | void | paired => exact ⟨_, rfl⟩

theorem isRawTextElement_of_void : ∀ name ∈ voidElements, isRawTextElement name = false := by
  decide

/-- An element is read back if its content is, up to the end tag. -/
theorem WritesElement.readsElement {name : String} {list : List Attribute}
    {content cs : List Char} (writes : WritesElement name list content cs) (named : isName name = true)
    (names : ∀ a ∈ list, isName a.name = true) {children : List Node}
    (empty : name ∈ voidElements → children = []) {ps : List Piece} (grows : Grows name ps children)
    (read : ∀ ending, lower ending = name → ∀ rest,
      piecesWithin (if isRawTextElement name then some name else none)
          (content ++ '<' :: '/' :: (ending ++ '>' :: rest)) =
        ps ++ pieces ('<' :: '/' :: (ending ++ '>' :: rest))) :
    ReadsElement ⟨name, list, children⟩ cs := by
  cases writes with
  | @void opening inside void opened written =>
    rw [empty void]
    have forms := written.writesForms names
    refine ⟨opening, inside, [], opened, forms.attributes_eq, forms.isSelfClosing_eq_false,
      completes_void void list, ?_⟩
    intro rest
    have notRaw : isRawTextElement name = false := isRawTextElement_of_void name void
    have whole := pieces_startTag named opened forms rest
    rw [notRaw] at whole
    simpa using whole
  | @paired opening inside _ ending notVoid opened written closed =>
    have forms := written.writesForms names
    refine ⟨opening, inside, ps ++ [.endTag ending [] true], opened, forms.attributes_eq,
      forms.isSelfClosing_eq_false, completes_paired notVoid list grows closed, ?_⟩
    intro rest
    have whole := pieces_startTag named opened forms
      (content ++ '<' :: '/' :: (ending ++ '>' :: rest))
    rw [read ending closed rest, pieces_endTag named closed] at whole
    simpa only [List.append_assoc, List.cons_append, List.nil_append] using whole

theorem WritesElement.readsElement_raw {name data : String} {list : List Attribute}
    {cs : List Char} (writes : WritesElement name list data.toList cs)
    (isRaw : isRawTextElement name = true)
    (regular : (Node.element name list [.text data]).IsRegular) :
    ReadsElement ⟨name, list, [.text data]⟩ cs := by
  obtain ⟨named, names, inside⟩ := regular
  rw [if_pos isRaw] at inside
  refine writes.readsElement named names ?_ (Grows.rawText data) ?_
  · intro void
    rw [isRawTextElement_of_void name void] at isRaw
    contradiction
  · intro ending closed rest
    rw [if_pos isRaw]
    exact piecesWithin_rawText named closed (inside data List.mem_cons_self) rest

theorem WritesElement.readsElement_nodes {name : String} {list : List Attribute}
    {children : List Node} {content cs : List Char} (writes : WritesElement name list content cs)
    (notRaw : isRawTextElement name = false) (empty : name ∈ voidElements → children = [])
    (regular : (Node.element name list children).IsRegular)
    (reads : AreRegular name children → ReadsNodes name children content) :
    ReadsElement ⟨name, list, children⟩ cs := by
  obtain ⟨named, names, inside⟩ := regular
  rw [if_neg (Bool.eq_false_iff.mp notRaw)] at inside
  obtain ⟨ps, grows, read⟩ := reads inside
  refine writes.readsElement named names empty grows ?_
  intro ending closed rest
  rw [if_neg (Bool.eq_false_iff.mp notRaw), piecesWithin_none]
  exact read _ (by simp)

/-- An element is read in front of other nodes, if it does not end the element around it. -/
theorem ReadsElement.cons {e : Element} {cs : List Char} (reads : ReadsElement e cs)
    {parent : String} (fits : impliesEnd parent e.name = false) {nodes : List Node}
    {more : List Char} (others : ReadsNodes parent nodes more) :
    ReadsNodes parent (e.toNode :: nodes) (cs ++ more) := by
  obtain ⟨opening, inside, inner, opened, list, notClosed, completes, read⟩ := reads
  obtain ⟨ps, grows, readMore⟩ := others
  have first : Grows parent (.startTag opening inside true :: inner) [e.toNode] := by
    intro offset stack rest parentName
    have tag : (Piece.startTag opening inside true).event? offset =
        some (.opening (e.startTag offset)) := by
      rw [Piece.event?, opened, list, notClosed, Element.startTag]
    rw [eventsFrom, tag]
    exact completes.within _ _ _ _ (parentName ▸ fits)
  refine ⟨_, first.append grows, ?_⟩
  intro rest ends
  rw [List.append_assoc, read, readMore rest ends]
  simp only [List.cons_append, List.append_assoc]

namespace Writes

variable {nodes : List Node} {cs : List Char}

theorem ends_append (writes : Writes nodes cs) (noText : ¬nodes.head?.any Node.isText = true)
    {rest : List Char} (ends : Text.Ends (· != '<') rest) :
    Text.Ends (· != '<') (cs ++ rest) := by
  cases writes with
  | nil => exact ends
  | text => exact absurd rfl noText
  | comment => simp
  | raw _ element | element _ _ _ element =>
    obtain ⟨behind, rfl⟩ := element.exists_cons
    simp

theorem readsNodes (writes : Writes nodes cs) {parent : String}
    (regular : AreRegular parent nodes) : ReadsNodes parent nodes cs := by
  induction writes generalizing parent with
  | nil => exact ⟨[], Grows.nil, fun _ _ => rfl⟩
  | @text data nodes cs writes ih =>
    obtain ⟨nonempty, -, apart, others⟩ := regular
    obtain ⟨ps, grows, read⟩ := ih others
    have decoded : decode (escape ['&', '<'] data.toList) = data.toList :=
      decode_escape List.mem_cons_self _
    refine ⟨_, (Grows.text decoded).append grows, ?_⟩
    intro rest ends
    have behind := writes.ends_append (fun next => apart ⟨rfl, next⟩) ends
    have some : data.toList ≠ [] := by
      rw [Node.IsRegular] at nonempty
      simpa using nonempty
    rw [List.append_assoc, pieces_text (escape_ne_nil some)
      (not_mem_escape (.inl rfl) (by simp) _) behind, read rest ends]
    rfl
  | @comment body nodes cs writes ih =>
    obtain ⟨inside, -, -, others⟩ := regular
    obtain ⟨ps, grows, read⟩ := ih others
    refine ⟨_, (Grows.comment body true).append grows, ?_⟩
    intro rest ends
    have whole := pieces_comment inside (cs ++ rest)
    rw [read rest ends] at whole
    simpa only [List.cons_append, List.nil_append, List.append_assoc] using whole
  | raw isRaw writesElement _ ih =>
    obtain ⟨whole, fits, -, others⟩ := regular
    exact (writesElement.readsElement_raw isRaw whole).cons (fits _ rfl) (ih others)
  | element notRaw empty _ writesElement _ ihChildren ih =>
    obtain ⟨whole, fits, -, others⟩ := regular
    exact (writesElement.readsElement_nodes notRaw empty whole ihChildren).cons (fits _ rfl)
      (ih others)

/-- A root is read back whatever follows it. -/
theorem readsElement {root : Element} (writes : Writes [root.toNode] cs)
    (regular : root.toNode.IsRegular) : ReadsElement root cs := by
  obtain ⟨name, list, children⟩ := root
  cases writes with
  | raw isRaw element none =>
    cases none
    rw [List.append_nil]
    exact element.readsElement_raw isRaw regular
  | element notRaw empty writesChildren element none =>
    cases none
    rw [List.append_nil]
    exact element.readsElement_nodes notRaw empty regular writesChildren.readsNodes

end Writes

/-- A reader of a written tree gives the start tag of its root, its tree, and then the events of
what stands behind it, which are further on by the size of the tree. -/
theorem Reader.subtree_written {root : Element} {written : List Char}
    (writes : Writes [root.toNode] written) (regular : root.toNode.IsRegular)
    (behind : List Char) :
    let first := (Reader.start (written ++ behind)).next
    let tree := first.2.subtree (root.startTag 0)
    first.1 = some (.opening (root.startTag 0)) ∧ tree.1 = root ∧
      tree.2.drain = (Reader.start behind).drain.map (Event.shift written.length) := by
  obtain ⟨opening, inside, inner, opened, list, notClosed, completes, read⟩ :=
    writes.readsElement regular
  -- The pieces of the tree cover what is written, so that the rest begins right behind it.
  have size : ((Piece.startTag opening inside true :: inner).flatMap Piece.source).length =
      written.length := by
    have whole := flatMap_source_pieces (written ++ [])
    rw [read, pieces_nil, List.append_nil, List.append_nil] at whole
    rw [whole]
  have left : (Reader.start (written ++ behind)).left =
      .opening (root.startTag 0) ::
        (eventsFrom (Piece.startTag opening inside true).source.length inner ++
          (events behind).map (Event.shift written.length)) := by
    rw [left_start, events, read, ← List.cons_append, eventsFrom_append, size, Nat.zero_add,
      eventsFrom_pieces, eventsFrom, Piece.event?, opened, list, notClosed, Nat.zero_add]
    rfl
  have given : (Reader.start (written ++ behind)).next.1 = some (.opening (root.startTag 0)) := by
    rw [next_fst, left, List.head?_cons]
  have after := left_next (Reader.start (written ++ behind))
  rw [left, List.tail_cons] at after
  refine ⟨given, ?_, ?_⟩
  · rw [subtree_fst, after, completes.root]
  · rw [drain_eq_left, drain_eq_left, left_subtree, after, completes.root, left_start]

def paragraph : Element :=
  ⟨"p", [⟨"title", "\">"⟩],
    [.text "a<b", .element "br" [] [], .element "script" [] [.text "1<2"]]⟩

def writtenParagraph : List Char :=
  "<P Title=\"&quot;>\">a&lt;b<BR><script>1<2</Script></p>".toList

theorem writes_paragraph : Writes [paragraph.toNode] writtenParagraph := by
  have title : WritesAttributes [⟨"title", "\">"⟩] _ :=
    .cons (show lower "Title".toList = "title" by decide +kernel) .nil
  have br : WritesElement "br" [] [] _ :=
    .void (by decide) (show lower "BR".toList = "br" by decide +kernel) .nil
  have script : WritesElement "script" [] "1<2".toList _ :=
    .paired (by decide) (show lower "script".toList = "script" by decide +kernel) .nil
      (show lower "Script".toList = "script" by decide +kernel)
  have children : Writes paragraph.children _ :=
    .text (.element (by decide) (fun _ => rfl) .nil br (.raw (by decide) script .nil))
  have whole : Writes [paragraph.toNode] _ :=
    .element (by decide) (by decide) children
      (.paired (by decide) (show lower "P".toList = "p" by decide +kernel) title
        (show lower "p".toList = "p" by decide +kernel)) .nil
  refine Eq.mp (congrArg _ ?_) whole
  decide +kernel

theorem isRegular_paragraph : paragraph.toNode.IsRegular := by
  have names : ∀ name ∈ ["p", "title", "br", "script"], isName name = true := by decide +kernel
  simp only [List.forall_mem_cons, List.not_mem_nil, false_imp_iff, implies_true, and_true] at names
  have data : IsRawContent "script" [.text "1<2"] := by
    intro data mem ending _ part
    cases List.mem_singleton.mp mem
    have slash : '/' ∉ "1<2".toList := by decide +kernel
    exact slash (part.subset (by simp))
  simp [paragraph, Element.toNode, Node.IsRegular, AreRegular, names, data,
    isRawTextElement, Node.isText, Node.element?, impliesEnd, closesParagraph]

theorem Reader.subtree_writtenParagraph :
    Writes [paragraph.toNode] writtenParagraph ∧ paragraph.toNode.IsRegular ∧
      ((Reader.start (writtenParagraph ++ "<p>".toList)).next.2.subtree
        (paragraph.startTag 0)).1 = paragraph :=
  ⟨writes_paragraph, isRegular_paragraph,
    (subtree_written writes_paragraph isRegular_paragraph "<p>".toList).2.1⟩

end DocIndex.Markup
