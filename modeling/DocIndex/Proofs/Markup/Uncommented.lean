import DocIndex.Markup.Subtree
import DocIndex.Proofs.DocumentOrder
import DocIndex.Sentence

/-!
# Trees without comments

Comments are nodes of a tree, but a tree without its comments has the same text, and the same
elements in the same order, each without its comments. It is also the tree that the events without
comments are built to: an event does to a stack without comments what it does to the stack
(`step_uncommented`), and a comment does nothing to it.
-/

namespace DocIndex.Markup

mutual

/-- A node without the comments in it. A comment leaves nothing. -/
def Node.uncommented : Node → List Node
  | .element name attributes children => [.element name attributes (uncommentedOf children)]
  | .text data => [.text data]
  | .comment _ => []

def uncommentedOf : List Node → List Node
  | [] => []
  | node :: rest => node.uncommented ++ uncommentedOf rest

end

theorem uncommentedOf_append (front back : List Node) :
    uncommentedOf (front ++ back) = uncommentedOf front ++ uncommentedOf back := by
  induction front with
  | nil => rfl
  | cons node rest ih => simp only [List.cons_append, uncommentedOf, ih, List.append_assoc]

theorem Node.reverse_uncommented (node : Node) : node.uncommented.reverse = node.uncommented := by
  cases node <;> rfl

theorem uncommentedOf_reverse (nodes : List Node) :
    uncommentedOf nodes.reverse = (uncommentedOf nodes).reverse := by
  induction nodes with
  | nil => rfl
  | cons node rest ih =>
    simp only [List.reverse_cons, uncommentedOf_append, uncommentedOf, ih, List.append_nil,
      List.reverse_append, Node.reverse_uncommented]

/-! ### What is read off a tree -/

theorem rawTextOf_append (front back : List Node) :
    rawTextOf (front ++ back) = rawTextOf front ++ rawTextOf back := by
  induction front with
  | nil => rfl
  | cons node rest ih => simp only [List.cons_append, rawTextOf, ih, List.append_assoc]

theorem elementsOf_append (front back : List Node) :
    elementsOf (front ++ back) = elementsOf front ++ elementsOf back := by
  induction front with
  | nil => rfl
  | cons node rest ih => simp only [List.cons_append, elementsOf, ih, List.append_assoc]

mutual

theorem Node.rawTextOf_uncommented : (node : Node) → rawTextOf node.uncommented = node.rawText
  | .element _ _ children => by
    rw [Node.uncommented, rawTextOf, rawTextOf, Node.rawText, rawTextOf_uncommentedOf children,
      List.append_nil, Node.rawText]
  | .text _ => by rw [Node.uncommented, rawTextOf, rawTextOf, List.append_nil]
  | .comment _ => by rw [Node.uncommented, rawTextOf, Node.rawText]

theorem rawTextOf_uncommentedOf : (nodes : List Node) →
    rawTextOf (uncommentedOf nodes) = rawTextOf nodes
  | [] => rfl
  | node :: rest => by
    rw [uncommentedOf, rawTextOf_append, Node.rawTextOf_uncommented node,
      rawTextOf_uncommentedOf rest, rawTextOf]

end

namespace Element

def uncommented (e : Element) : Element :=
  { e with children := uncommentedOf e.children }

@[simp] theorem uncommented_toNode (e : Element) :
    e.toNode.uncommented = [e.uncommented.toNode] := by
  rw [toNode, Node.uncommented]
  rfl

@[simp] theorem rawText_uncommented (e : Element) : e.uncommented.rawText = e.rawText :=
  rawTextOf_uncommentedOf e.children

@[simp] theorem flatten_uncommented (e : Element) : e.uncommented.flatten = e.flatten := by
  rw [flatten, flatten, rawText_uncommented]

@[simp] theorem summary_uncommented (e : Element) : e.uncommented.summary = e.summary := by
  rw [summary_eq, summary_eq, rawText_uncommented]

theorem elements_uncommented (e : Element) :
    e.uncommented.elements = e.elements.map uncommented := by
  have children (nodes : List Node) : (uncommentedOf nodes).filterMap Node.element? =
      (nodes.filterMap Node.element?).map uncommented := by
    induction nodes with
    | nil => rfl
    | cons node rest ih =>
      rw [uncommentedOf, List.filterMap_append, ih]
      cases node with
      | element | text | comment => rfl
  exact children e.children

end Element

mutual

theorem Node.elementsOf_uncommented : (node : Node) →
    elementsOf node.uncommented = node.elements.map Element.uncommented
  | .element _ _ children => by
    rw [Node.uncommented, elementsOf, elementsOf, Node.elements, List.append_nil,
      elementsOf_uncommentedOf children, Node.elements, List.map_cons]
    rfl
  | .text _ => by
    rw [Node.uncommented, elementsOf, elementsOf, List.append_nil, Node.elements, List.map_nil]
  | .comment _ => by rw [Node.uncommented, elementsOf, Node.elements, List.map_nil]

theorem elementsOf_uncommentedOf : (nodes : List Node) →
    elementsOf (uncommentedOf nodes) = (elementsOf nodes).map Element.uncommented
  | [] => rfl
  | node :: rest => by
    rw [uncommentedOf, elementsOf_append, Node.elementsOf_uncommented node,
      elementsOf_uncommentedOf rest, elementsOf, List.map_append]

end

namespace Element

theorem descendants_uncommented (e : Element) :
    e.uncommented.descendants = e.descendants.map uncommented := by
  have below := Node.elementsOf_uncommented e.toNode
  rwa [uncommented_toNode, elementsOf, elementsOf, List.append_nil] at below

theorem find?_uncommented {satisfies : Element → Bool}
    (blind : ∀ e, satisfies e.uncommented = satisfies e) (e : Element) :
    e.uncommented.find? satisfies = (e.find? satisfies).map uncommented := by
  have same : satisfies ∘ uncommented = satisfies := funext blind
  rw [find?_eq_find?_descendants, descendants_uncommented, List.find?_map, same,
    find?_eq_find?_descendants]

end Element

/-! ### Building a tree -/

namespace Frame

def uncommented (frame : Frame) : Frame :=
  { frame with content := uncommentedOf frame.content }

theorem close_uncommented (frame : Frame) : frame.uncommented.close = frame.close.uncommented := by
  rw [close, close, Element.uncommented, uncommentedOf_reverse]
  rfl

theorem push_close_uncommented (frame inner : Frame) :
    frame.uncommented.push inner.uncommented.close.toNode =
      (frame.push inner.close.toNode).uncommented := by
  rw [close_uncommented, push, push, uncommented, uncommented, uncommentedOf,
    Element.uncommented_toNode, List.singleton_append]

end Frame

namespace Stack

def uncommented (stack : Stack) : Stack :=
  ⟨stack.top.uncommented, stack.outer.map Frame.uncommented⟩

theorem closeAll_uncommented (top : Frame) (outer : List Frame) :
    closeAll top.uncommented (outer.map Frame.uncommented) = (closeAll top outer).uncommented := by
  induction outer generalizing top with
  | nil => exact top.close_uncommented
  | cons next outer ih =>
    rw [List.map_cons, closeAll, closeAll, Frame.push_close_uncommented, ih]

theorem root_uncommented (stack : Stack) : stack.uncommented.root = stack.root.uncommented :=
  closeAll_uncommented stack.top stack.outer

theorem makeRoom?_uncommented (element : String) (top : Frame) (outer : List Frame) :
    makeRoom? element top.uncommented (outer.map Frame.uncommented) =
      (makeRoom? element top outer).map uncommented := by
  have same : top.uncommented.name = top.name := rfl
  induction outer generalizing top with
  | nil =>
    rw [List.map_nil, makeRoom?, makeRoom?, same]
    split <;> rfl
  | cons next outer ih =>
    rw [List.map_cons, makeRoom?, makeRoom?, same]
    split
    · rw [Frame.push_close_uncommented, ih _ rfl]
    · rfl

theorem closeNamed?_uncommented (ending : String) (top : Frame) (outer : List Frame) :
    closeNamed? ending top.uncommented (outer.map Frame.uncommented) =
      (closeNamed? ending top outer).map uncommented := by
  have same : top.uncommented.name = top.name := rfl
  induction outer generalizing top with
  | nil => rfl
  | cons next outer ih =>
    rw [List.map_cons, closeNamed?, closeNamed?, same, Frame.push_close_uncommented]
    split
    · rfl
    · exact ih _ rfl

theorem rootName_uncommented (stack : Stack) : stack.uncommented.rootName = stack.rootName := by
  rcases stack with ⟨top, outer⟩
  rcases List.eq_nil_or_concat outer with rfl | ⟨inner, root, rfl⟩
  · rfl
  · simp [rootName, uncommented, Frame.uncommented]

end Stack

namespace Progress

def uncommented : Progress → Progress
  | .goOn stack => .goOn stack.uncommented
  | .done root => .done root.uncommented
  | .doneBefore root => .doneBefore root.uncommented

end Progress

def Event.isComment : Event → Bool
  | .comment _ => true
  | _ => false

def withoutComments (events : List Event) : List Event :=
  events.filter (!·.isComment)

theorem withoutComments_comment (body : String) (rest : List Event) :
    withoutComments (.comment body :: rest) = withoutComments rest := rfl

theorem withoutComments_cons {event : Event} (other : event.isComment = false)
    (rest : List Event) : withoutComments (event :: rest) = event :: withoutComments rest :=
  List.filter_cons_of_pos (by rw [other]; rfl)

theorem withoutComments_append (front back : List Event) :
    withoutComments (front ++ back) = withoutComments front ++ withoutComments back :=
  List.filter_append front back

namespace Stack

theorem onOpening_uncommented (stack : Stack) (tag : StartTag) :
    stack.uncommented.onOpening tag = (stack.onOpening tag).uncommented := by
  have room : makeRoom? tag.name stack.uncommented.top stack.uncommented.outer =
      (makeRoom? tag.name stack.top stack.outer).map uncommented :=
    makeRoom?_uncommented tag.name stack.top stack.outer
  rw [onOpening, onOpening, room]
  cases makeRoom? tag.name stack.top stack.outer with
  | none => exact congrArg Progress.doneBefore stack.root_uncommented
  | some room =>
    simp only [Option.map_some]
    split <;> rfl

theorem onClosing_uncommented (stack : Stack) (name : String) :
    stack.uncommented.onClosing name = (stack.onClosing name).uncommented := by
  have closed : closeNamed? name stack.uncommented.top stack.uncommented.outer =
      (closeNamed? name stack.top stack.outer).map uncommented :=
    closeNamed?_uncommented name stack.top stack.outer
  rw [onClosing, onClosing, closed, rootName_uncommented, root_uncommented]
  cases closeNamed? name stack.top stack.outer with
  | some rest => rfl
  | none =>
    simp only [Option.map_none]
    split
    · rfl
    · split <;> rfl

/-- What an event does to the open elements, it does to them without their comments. -/
theorem step_uncommented (stack : Stack) {event : Event} (other : event.isComment = false) :
    stack.uncommented.step event = (stack.step event).uncommented := by
  cases event with
  | comment => contradiction
  | text => rfl
  | opening tag => exact onOpening_uncommented stack tag
  | closing name => exact onClosing_uncommented stack name

theorem uncommented_push_comment (stack : Stack) (body : String) :
    (stack.push (.comment body)).uncommented = stack.uncommented := rfl

theorem build_withoutComments (stack : Stack) (events : List Event) :
    stack.uncommented.build (withoutComments events) =
      ((stack.build events).1.uncommented, withoutComments (stack.build events).2) := by
  induction events generalizing stack with
  | nil => exact congrArg (·, []) stack.root_uncommented
  | cons event rest ih =>
    cases kind : event.isComment with
    | true =>
      cases event with
      | opening | closing | text => contradiction
      | comment body =>
        rw [← uncommented_push_comment stack body, withoutComments_comment]
        exact ih (stack.push (.comment body))
    | false =>
      have kept := withoutComments_cons kind rest
      rw [kept, build, build, step_uncommented stack kind]
      cases stack.step event with
      | goOn next => exact ih next
      | done root => rfl
      | doneBefore root => exact congrArg (root.uncommented, ·) kept.symm

end Stack

/-- The tree that is built from the events without comments is the tree without comments. -/
theorem StartTag.subtree_withoutComments (tag : StartTag) (rest : List Event) :
    tag.subtree (withoutComments rest) =
      ((tag.subtree rest).1.uncommented, withoutComments (tag.subtree rest).2) := by
  unfold subtree
  split
  · rfl
  · exact Stack.build_withoutComments ⟨Frame.ofTag tag, []⟩ rest

end DocIndex.Markup
