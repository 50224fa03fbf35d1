import DocIndex.Proofs.Markup.Walk

/-!
# Sessions with a reader

The user of a reader asks for the next event, or, right behind a start tag, for its tree. However
the two are mixed, the events of the document are used up from the front, each of them once: an
event by itself, a run of events as the tree that walks through them (`Session.consumes_run`).
-/

namespace DocIndex.Markup

inductive Request where
  | next
  /-- The tree of the start tag that the step before gave. -/
  | subtree
deriving DecidableEq, Repr

inductive Answer where
  | event (event : Event)
  | atEnd
  | tree (element : Element)
  /-- There is no tree to ask for. -/
  | refused

structure Session where
  reader : Reader
  /-- The start tag that the last step gave. -/
  current? : Option StartTag

def Event.startTag? : Event → Option StartTag
  | .opening tag => some tag
  | _ => none

namespace Session

def start (document : List Char) : Session :=
  ⟨Reader.start document, none⟩

def step (session : Session) : Request → Answer × Session
  | .next =>
    match session.reader.next with
    | (some event, rest) => (.event event, ⟨rest, event.startTag?⟩)
    | (none, rest) => (.atEnd, ⟨rest, none⟩)
  | .subtree =>
    match session.current? with
    | some tag =>
      let tree := session.reader.subtree tag
      (.tree tree.1, ⟨tree.2, none⟩)
    | none => (.refused, session)

def run (session : Session) : List Request → List Answer × Session
  | [] => ([], session)
  | request :: rest =>
    let first := session.step request
    let more := first.2.run rest
    (first.1 :: more.1, more.2)

end Session

/-- Answers use up a sequence of events from its front, and these are left. The option is the start
tag right before the first of the events, if a tree may be asked for. -/
inductive Consumes : Option StartTag → List Answer → List Event → List Event → Prop where
  | done {current? : Option StartTag} {left : List Event} : Consumes current? [] left left
  | event {current? : Option StartTag} {answers : List Answer} {event : Event}
      {events left : List Event} :
      Consumes event.startTag? answers events left →
      Consumes current? (.event event :: answers) (event :: events) left
  | atEnd {current? : Option StartTag} {answers : List Answer} {left : List Event} :
      Consumes none answers [] left →
      Consumes current? (.atEnd :: answers) [] left
  /-- A tree uses up a run of events, which may be empty. -/
  | tree {tag : StartTag} {element : Element} {answers : List Answer}
      {events left : List Event} (used : List Event) :
      element.name = tag.name → element.attributes = tag.attributes →
      walkOf element.children = used.flatMap Event.items →
      Consumes none answers events left →
      Consumes (some tag) (.tree element :: answers) (used ++ events) left
  | refused {answers : List Answer} {events left : List Event} :
      Consumes none answers events left →
      Consumes none (.refused :: answers) events left

namespace Session

theorem consumes_step (session : Session) (request : Request) {answers : List Answer}
    {left : List Event}
    (rest : Consumes (session.step request).2.current? answers
      (session.step request).2.reader.left left) :
    Consumes session.current? ((session.step request).1 :: answers) session.reader.left left := by
  cases request with
  | next =>
    rcases read : session.reader.next with ⟨event?, after⟩
    cases event? with
    | some event =>
      rw [Reader.left_eq_cons (congrArg Prod.fst read)]
      simp only [step, read] at rest ⊢
      exact .event rest
    | none =>
      have atEnd := Reader.left_eq_nil (congrArg Prod.fst read)
      have nothing := Reader.left_next session.reader
      rw [read, atEnd, List.tail_nil] at nothing
      simp only [step, read, nothing, atEnd] at rest ⊢
      exact .atEnd rest
  | subtree =>
    unfold step at rest ⊢
    cases current : session.current? with
    | none =>
      simp only [current] at rest ⊢
      exact .refused rest
    | some tag =>
      simp only [current] at rest ⊢
      obtain ⟨used, split, walk⟩ := tag.exists_run_subtree session.reader.left
      rw [← Reader.subtree_fst, Element.toNode, Node.walk, Event.items, List.singleton_append,
        List.cons.injEq, Item.element.injEq] at walk
      rw [split, ← Reader.left_subtree]
      exact .tree used walk.1.1 walk.1.2 walk.2 rest

theorem consumes_run_left (session : Session) (requests : List Request) :
    Consumes session.current? (session.run requests).1 session.reader.left
      (session.run requests).2.reader.left := by
  induction requests generalizing session with
  | nil => exact .done
  | cons request rest ih => exact consumes_step session request (ih _)

/-- The answers of a session, and then the events that the reader still gives, use up the events of
the document in order. -/
theorem consumes_run (document : List Char) (requests : List Request) :
    Consumes none ((start document).run requests).1 (Reader.start document).drain
      ((start document).run requests).2.reader.drain := by
  rw [Reader.drain_eq_left, Reader.drain_eq_left]
  exact consumes_run_left (start document) requests

end Session

end DocIndex.Markup
