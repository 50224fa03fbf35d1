import DocIndex.Markup.Reader
import DocIndex.Proofs.Markup.Closing

/-!
# Trees as walks

The walk of a tree lists its nodes in document order, each without what is in it. A stack of open
elements has a walk too, that of the tree it would be closed to. The central invariant is that an
event adds its own items to the walk of the stack, however many elements it closes (`walk_goOn`).
-/

namespace DocIndex.Markup

/-- A node without its children. -/
inductive Item where
  | element (name : String) (attributes : List Attribute)
  | text (data : String)
  | comment (body : String)
deriving DecidableEq, Repr

mutual

def Node.walk : Node → List Item
  | .element name attributes children => .element name attributes :: walkOf children
  | .text data => [.text data]
  | .comment body => [.comment body]

def walkOf : List Node → List Item
  | [] => []
  | node :: rest => node.walk ++ walkOf rest

end

theorem walkOf_append (front back : List Node) :
    walkOf (front ++ back) = walkOf front ++ walkOf back := by
  induction front with
  | nil => rfl
  | cons node rest ih => simp only [List.cons_append, walkOf, ih, List.append_assoc]

/-- What an event adds to a walk. An end tag adds nothing. -/
def Event.items : Event → List Item
  | .opening tag => [.element tag.name tag.attributes]
  | .closing _ => []
  | .text data => [.text data]
  | .comment body => [.comment body]

namespace Frame

def walk (frame : Frame) : List Item :=
  frame.close.toNode.walk

@[simp] theorem walk_push (frame : Frame) (node : Node) :
    (frame.push node).walk = frame.walk ++ node.walk := by
  simp only [walk, close, push, Element.toNode, Node.walk, List.reverse_cons, walkOf_append,
    walkOf, List.append_nil, List.cons_append]

@[simp] theorem walk_ofTag (tag : StartTag) :
    (ofTag tag).walk = (Event.opening tag).items := rfl

end Frame

def walkOpen (frames : List Frame) : List Item :=
  frames.reverse.flatMap Frame.walk

@[simp] theorem walkOpen_cons (top : Frame) (outer : List Frame) :
    walkOpen (top :: outer) = walkOpen outer ++ top.walk := by
  simp [walkOpen]

theorem walkOpen_close (top next : Frame) (outer : List Frame) :
    walkOpen (next.push top.close.toNode :: outer) = walkOpen (top :: next :: outer) := by
  simp only [walkOpen_cons, Frame.walk_push, List.append_assoc]
  rfl

namespace Stack

def walk (stack : Stack) : List Item :=
  walkOpen (stack.top :: stack.outer)

@[simp] theorem walk_push (stack : Stack) (node : Node) :
    (stack.push node).walk = stack.walk ++ node.walk := by
  simp only [walk, push, walkOpen_cons, Frame.walk_push, List.append_assoc]

/-- Closing open elements changes no walk. -/
theorem Closes.walk_eq {stack rest : Stack} (closes : stack.Closes rest) :
    rest.walk = stack.walk := by
  induction closes with
  | done => rfl
  | close _ ih => exact ih.trans (walkOpen_close _ _ _)

theorem walk_root (stack : Stack) : stack.root.toNode.walk = stack.walk := by
  obtain ⟨last, closes, root⟩ := closes_root stack
  have alone : last.walk = walk ⟨last, []⟩ := by simp [walk, walkOpen]
  rw [root, ← closes.walk_eq, ← alone]
  rfl

theorem walk_goOn {stack next : Stack} {event : Event} (step : stack.step event = .goOn next) :
    next.walk = stack.walk ++ event.items := by
  cases goesOn_of_step step with
  | text | comment => exact walk_push stack _
  | empty closes =>
    rw [walk_push, closes.walk_eq]
    rfl
  | opened closes =>
    rw [← closes.walk_eq, walk, walkOpen_cons, Frame.walk_ofTag]
    rfl
  | closing _ closes => rw [closes.walk_eq, Event.items, List.append_nil]

theorem walk_done {stack : Stack} {event : Event} {root : Element}
    (step : stack.step event = .done root) :
    root.toNode.walk = stack.walk ∧ event.items = [] := by
  obtain ⟨rfl, name, rfl⟩ := root_of_done step
  exact ⟨walk_root stack, rfl⟩

theorem walk_doneBefore {stack : Stack} {event : Event} {root : Element}
    (step : stack.step event = .doneBefore root) : root.toNode.walk = stack.walk := by
  rw [root_of_doneBefore step, walk_root]

/-- Building the root takes a run of events off the front and adds the items of this run to the
walk. -/
theorem exists_run_build (stack : Stack) (events : List Event) :
    ∃ run, events = run ++ (stack.build events).2 ∧
      (stack.build events).1.toNode.walk = stack.walk ++ run.flatMap Event.items := by
  induction events generalizing stack with
  | nil => exact ⟨[], rfl, by rw [List.flatMap_nil, List.append_nil]; exact walk_root stack⟩
  | cons event rest ih =>
    cases step : stack.step event with
    | goOn next =>
      obtain ⟨run, split, walk⟩ := ih next
      refine ⟨event :: run, ?_, ?_⟩
      · simpa only [build, step, List.cons_append] using congrArg (event :: ·) split
      · simp only [build, step, walk, walk_goOn step, List.append_assoc, List.flatMap_cons]
    | done root =>
      refine ⟨[event], ?_, ?_⟩
      · simp only [build, step, List.singleton_append]
      · simp only [build, step, walk_done step, List.flatMap_singleton, List.append_nil]
    | doneBefore root =>
      refine ⟨[], ?_, ?_⟩
      · simp only [build, step, List.nil_append]
      · simp only [build, step, walk_doneBefore step, List.flatMap_nil, List.append_nil]

end Stack

/-- The tree of a start tag takes a run of events, and walks through the tag and then through the
items of this run. -/
theorem StartTag.exists_run_subtree (tag : StartTag) (events : List Event) :
    ∃ run, events = run ++ (tag.subtree events).2 ∧
      (tag.subtree events).1.toNode.walk =
        (Event.opening tag).items ++ run.flatMap Event.items := by
  unfold subtree
  split
  · exact ⟨[], rfl, rfl⟩
  · exact Stack.exists_run_build _ events

end DocIndex.Markup
