import DocIndex.Markup.Subtree

/-!
# What an event does to open elements

An event that leaves the root open closes elements from the inside out, or none, and then adds a
node to the innermost element that is left or opens an element in it. An event that ends the root
closes all that is open. There is nothing else that an event does (`does_step`).
-/

namespace DocIndex.Markup

namespace Stack

/-- Some of the open elements have been closed, from the inside out. -/
inductive Closes : Stack → Stack → Prop where
  | done (stack : Stack) : Closes stack stack
  | close {top next : Frame} {outer : List Frame} {rest : Stack} :
      Closes ⟨next.push top.close.toNode, outer⟩ rest → Closes ⟨top, next :: outer⟩ rest

theorem closes_root (stack : Stack) :
    ∃ last : Frame, stack.Closes ⟨last, []⟩ ∧ stack.root = last.close := by
  obtain ⟨top, outer⟩ := stack
  induction outer generalizing top with
  | nil => exact ⟨top, .done _, rfl⟩
  | cons next outer ih =>
    obtain ⟨last, closes, root⟩ := ih (next.push top.close.toNode)
    exact ⟨last, .close closes, root⟩

theorem closes_makeRoom? {element : String} {top : Frame} {outer : List Frame} {room : Stack}
    (made : makeRoom? element top outer = some room) :
    Closes ⟨top, outer⟩ room ∧ impliesEnd room.top.name element = false := by
  induction outer generalizing top with
  | nil =>
    rw [makeRoom?, Option.ite_none_left_eq_some] at made
    obtain ⟨allowed, ⟨⟩⟩ := made
    exact ⟨.done _, Bool.eq_false_iff.mpr allowed⟩
  | cons next outer ih =>
    rw [makeRoom?] at made
    split at made
    next =>
      obtain ⟨closes, allowed⟩ := ih made
      exact ⟨.close closes, allowed⟩
    next allowed =>
      cases made
      exact ⟨.done _, Bool.eq_false_iff.mpr allowed⟩

theorem closes_closeNamed? {ending : String} {top : Frame} {outer : List Frame} {rest : Stack}
    (closed : closeNamed? ending top outer = some rest) : Closes ⟨top, outer⟩ rest := by
  induction outer generalizing top with
  | nil => contradiction
  | cons next outer ih =>
    rw [closeNamed?] at closed
    split at closed
    next =>
      cases closed
      exact .close (.done _)
    next => exact .close (ih closed)

/-- An event leads from open elements to others, with the root still open. -/
inductive GoesOn (stack : Stack) : Event → Stack → Prop where
  | text (data : String) : GoesOn stack (.text data) (stack.push (.text data))
  | comment (body : String) : GoesOn stack (.comment body) (stack.push (.comment body))
  /-- An element without content stands in the innermost one that has room for it. -/
  | empty {tag : StartTag} {room : Stack} :
      stack.Closes room → impliesEnd room.top.name tag.name = false →
        GoesOn stack (.opening tag) (room.push (Frame.ofTag tag).close.toNode)
  | opened {tag : StartTag} {room : Stack} :
      stack.Closes room → impliesEnd room.top.name tag.name = false → tag.isEmpty = false →
        GoesOn stack (.opening tag) ⟨Frame.ofTag tag, room.top :: room.outer⟩
  | closing (name : String) {rest : Stack} :
      stack.Closes rest → GoesOn stack (.closing name) rest

/-- All that an event can do to open elements. Only an end tag ends the root as a part of it. -/
inductive Does (stack : Stack) : Event → Progress → Prop where
  | goOn {event : Event} {next : Stack} :
      stack.GoesOn event next → Does stack event (.goOn next)
  | done (name : String) : Does stack (.closing name) (.done stack.root)
  | doneBefore (event : Event) : Does stack event (.doneBefore stack.root)

theorem does_step (stack : Stack) (event : Event) : stack.Does event (stack.step event) := by
  cases event with
  | text data => exact .goOn (.text data)
  | comment body => exact .goOn (.comment body)
  | opening tag =>
    rw [step, onOpening]
    split
    next => exact .doneBefore _
    next room made =>
      obtain ⟨closes, allowed⟩ := closes_makeRoom? made
      split
      next => exact .goOn (.empty closes allowed)
      next content => exact .goOn (.opened closes allowed (Bool.eq_false_iff.mpr content))
  | closing name =>
    rw [step, onClosing]
    split
    next rest closed => exact .goOn (.closing name (closes_closeNamed? closed))
    split
    next => exact .done name
    split
    next => exact .doneBefore _
    next => exact .goOn (.closing name (.done stack))

variable {stack : Stack} {event : Event}

theorem goesOn_of_step {next : Stack} (step : stack.step event = .goOn next) :
    stack.GoesOn event next := by
  have does := stack.does_step event
  rw [step] at does
  cases does with
  | goOn goesOn => exact goesOn

theorem root_of_done {root : Element} (step : stack.step event = .done root) :
    root = stack.root ∧ ∃ name, event = .closing name := by
  have does := stack.does_step event
  rw [step] at does
  cases does with
  | done name => exact ⟨rfl, name, rfl⟩

theorem root_of_doneBefore {root : Element} (step : stack.step event = .doneBefore root) :
    root = stack.root := by
  have does := stack.does_step event
  rw [step] at does
  cases does with
  | doneBefore => rfl

end Stack

end DocIndex.Markup
