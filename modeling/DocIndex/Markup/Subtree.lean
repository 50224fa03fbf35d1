import DocIndex.Markup.Element
import DocIndex.Markup.Event

/-!
# Building a tree from events

The tree of a start tag is built from the events behind it, with the stack of the elements that are
open. An end tag closes the innermost element that it names, and all within it; an end tag that
names none is dropped. The end tags of some elements may be omitted: the start of an element that
cannot stand in the innermost one closes it. When such an event ends the root itself, or when the
root may lack its end tag and an end tag names no open element, the event is left to what follows
the tree.
-/

namespace DocIndex.Markup

def voidElements : List String :=
  ["area", "base", "br", "col", "embed", "hr", "img", "input", "link", "meta", "param", "source",
   "track", "wbr"]

/-- Elements whose end tag may be omitted. -/
def optionalEnd : List String :=
  ["dt", "dd", "li", "p", "td", "th", "tr", "option"]

def headings : List String :=
  ["h1", "h2", "h3", "h4", "h5", "h6"]

/-- Elements that cannot stand in a paragraph. -/
def closesParagraph : List String :=
  ["address", "article", "aside", "blockquote", "dd", "div", "dl", "dt", "fieldset", "footer",
   "form", "h1", "h2", "h3", "h4", "h5", "h6", "header", "hr", "main", "nav", "ol", "p", "pre",
   "section", "table", "ul"]

/-- Whether an end tag closes an open element: the end of any heading closes any heading. -/
def closes (ending element : String) : Bool :=
  ending = element || headings.contains ending && headings.contains element

/-- Whether the start of an element ends an open one that lacks its end tag. -/
def impliesEnd (element next : String) : Bool :=
  match element with
  | "p" => closesParagraph.contains next
  | "dt" | "dd" => ["dt", "dd"].contains next
  | "li" => next = "li"
  | "option" => next = "option"
  | "td" | "th" => ["td", "th", "tr"].contains next
  | "tr" => next = "tr"
  | _ => false

def StartTag.isEmpty (tag : StartTag) : Bool :=
  tag.selfClosing || voidElements.contains tag.name

/-- An open element, with the content read so far, the last node first. -/
structure Frame where
  name : String
  attributes : List Attribute
  content : List Node

namespace Frame

def ofTag (tag : StartTag) : Frame :=
  ⟨tag.name, tag.attributes, []⟩

def push (frame : Frame) (node : Node) : Frame :=
  { frame with content := node :: frame.content }

def close (frame : Frame) : Element :=
  ⟨frame.name, frame.attributes, frame.content.reverse⟩

end Frame

/-- The open elements: the innermost one, and those around it, the root last. -/
structure Stack where
  top : Frame
  outer : List Frame

namespace Stack

def push (stack : Stack) (node : Node) : Stack :=
  { stack with top := stack.top.push node }

def closeAll (top : Frame) : List Frame → Element
  | [] => top.close
  | next :: outer => closeAll (next.push top.close.toNode) outer

def root (stack : Stack) : Element :=
  closeAll stack.top stack.outer

/-- Closes what the start of an element ends, unless that is the root. -/
def makeRoom? (element : String) (top : Frame) : List Frame → Option Stack
  | [] => if impliesEnd top.name element then none else some ⟨top, []⟩
  | next :: outer =>
    if impliesEnd top.name element then makeRoom? element (next.push top.close.toNode) outer
    else some ⟨top, next :: outer⟩

/-- Closes the innermost element that an end tag names and all within it, unless that is the
root. -/
def closeNamed? (ending : String) (top : Frame) : List Frame → Option Stack
  | [] => none
  | next :: outer =>
    if closes ending top.name then some ⟨next.push top.close.toNode, outer⟩
    else closeNamed? ending (next.push top.close.toNode) outer

def rootName (stack : Stack) : String :=
  (stack.outer.getLastD stack.top).name

end Stack

/-- What an event does to the open elements. -/
inductive Progress where
  | goOn (stack : Stack)
  /-- The event ends the root. -/
  | done (root : Element)
  /-- The event does not belong to the root, which is ended before it. -/
  | doneBefore (root : Element)

namespace Stack

def onOpening (stack : Stack) (tag : StartTag) : Progress :=
  match makeRoom? tag.name stack.top stack.outer with
  | none => .doneBefore stack.root
  | some room =>
    if tag.isEmpty then .goOn (room.push (Frame.ofTag tag).close.toNode)
    else .goOn ⟨Frame.ofTag tag, room.top :: room.outer⟩

def onClosing (stack : Stack) (name : String) : Progress :=
  match closeNamed? name stack.top stack.outer with
  | some rest => .goOn rest
  | none =>
    if closes name stack.rootName then .done stack.root
    else if optionalEnd.contains stack.rootName then .doneBefore stack.root
    else .goOn stack

def step (stack : Stack) : Event → Progress
  | .text data => .goOn (stack.push (.text data))
  | .comment body => .goOn (stack.push (.comment body))
  | .opening tag => stack.onOpening tag
  | .closing name => stack.onClosing name

/-- The root that these events complete, and the events left. -/
def build (stack : Stack) : List Event → Element × List Event
  | [] => (stack.root, [])
  | event :: rest =>
    match stack.step event with
    | .goOn next => build next rest
    | .done root => (root, rest)
    | .doneBefore root => (root, event :: rest)

theorem length_build_le (stack : Stack) (events : List Event) :
    (stack.build events).2.length ≤ events.length := by
  induction events generalizing stack with
  | nil => exact Nat.le_refl _
  | cons event rest ih =>
    simp only [build]
    split
    · exact Nat.le_succ_of_le (ih _)
    · exact Nat.le_succ _
    · exact Nat.le_refl _

end Stack

/-- The tree of a start tag, built from the events behind it, and the events left. -/
def StartTag.subtree (tag : StartTag) (rest : List Event) : Element × List Event :=
  if tag.isEmpty then ((Frame.ofTag tag).close, rest)
  else Stack.build ⟨Frame.ofTag tag, []⟩ rest

theorem StartTag.length_subtree_le (tag : StartTag) (rest : List Event) :
    (tag.subtree rest).2.length ≤ rest.length := by
  unfold subtree
  split
  · exact Nat.le_refl _
  · exact Stack.length_build_le _ _

end DocIndex.Markup
