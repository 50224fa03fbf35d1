import DocIndex.Markup.Reader
import DocIndex.Proofs.Markup.Closing

/-!
# What stands in what

The start of an element that cannot stand in an open one closes it first, and what has no content is
never opened. So each open element has its place in the one around it, and keeps it when it is
closed into that one (`IsNested.close`), whichever event closes it.
-/

namespace DocIndex.Markup

/-- An element of the first name cannot hold one of the second as a child. -/
inductive Excludes : String → String → Prop where
  | entry {outer inner : String} : outer ∈ ["dt", "dd"] → inner ∈ ["dt", "dd"] → Excludes outer inner
  | item : Excludes "li" "li"
  | choice : Excludes "option" "option"
  | cell {outer inner : String} :
      outer ∈ ["td", "th"] → inner ∈ ["td", "th", "tr"] → Excludes outer inner
  | row : Excludes "tr" "tr"
  | paragraph {inner : String} : inner ∈ closesParagraph → Excludes "p" inner

theorem impliesEnd_iff {outer inner : String} :
    impliesEnd outer inner = true ↔ Excludes outer inner := by
  constructor
  · intro ends
    unfold impliesEnd at ends
    split at ends
    next => exact .paragraph (List.contains_iff_mem.mp ends)
    next => exact .entry (by decide) (List.contains_iff_mem.mp ends)
    next => exact .entry (by decide) (List.contains_iff_mem.mp ends)
    next => exact of_decide_eq_true ends ▸ .item
    next => exact of_decide_eq_true ends ▸ .choice
    next => exact .cell (by decide) (List.contains_iff_mem.mp ends)
    next => exact .cell (by decide) (List.contains_iff_mem.mp ends)
    next => exact of_decide_eq_true ends ▸ .row
    next => contradiction
  · intro excludes
    cases excludes with
    | item | choice | row => rfl
    | paragraph mem => exact List.contains_iff_mem.mpr mem
    | entry isOuter mem =>
      simp only [List.mem_cons, List.not_mem_nil, or_false] at isOuter
      rcases isOuter with rfl | rfl <;> exact List.contains_iff_mem.mpr mem
    | cell isOuter mem =>
      simp only [List.mem_cons, List.not_mem_nil, or_false] at isOuter
      rcases isOuter with rfl | rfl <;> exact List.contains_iff_mem.mpr mem

/-- An element whose children may all stand in it. -/
structure Element.IsTidy (e : Element) : Prop where
  children : ∀ child ∈ e.elements, impliesEnd e.name child.name = false
  void : e.name ∈ voidElements → e.children = []

/-- A node that may stand in an element of this name, and holds only what may stand in it. -/
structure Node.Fits (parent : String) (node : Node) : Prop where
  here : ∀ e ∈ node.element?, impliesEnd parent e.name = false
  below : ∀ e ∈ node.elements, e.IsTidy

theorem exists_of_mem_elementsOf {nodes : List Node} {e : Element} (mem : e ∈ elementsOf nodes) :
    ∃ node ∈ nodes, e ∈ node.elements := by
  induction nodes with
  | nil => contradiction
  | cons node rest ih =>
    rcases List.mem_append.mp mem with inFirst | behind
    · exact ⟨node, List.mem_cons_self, inFirst⟩
    · obtain ⟨other, isIn, inside⟩ := ih behind
      exact ⟨other, List.mem_cons_of_mem node isIn, inside⟩

/-! ### Open elements -/

structure Frame.IsTidy (frame : Frame) : Prop where
  content : ∀ node ∈ frame.content, node.Fits frame.name
  notVoid : frame.name ∉ voidElements

theorem Frame.IsTidy.push {frame : Frame} (tidy : frame.IsTidy) {node : Node}
    (fits : node.Fits frame.name) : (frame.push node).IsTidy :=
  ⟨List.forall_mem_cons.mpr ⟨fits, tidy.content⟩, tidy.notVoid⟩

theorem Frame.IsTidy.descendants {frame : Frame} (tidy : frame.IsTidy) :
    ∀ e ∈ frame.close.descendants, e.IsTidy := by
  intro e mem
  rcases List.mem_cons.mp mem with rfl | below
  · refine ⟨?_, fun isVoid => absurd isVoid tidy.notVoid⟩
    intro child isChild
    obtain ⟨node, isIn, found⟩ := List.mem_filterMap.mp isChild
    exact (tidy.content node (List.mem_reverse.mp isIn)).here child found
  · obtain ⟨node, isIn, inside⟩ := exists_of_mem_elementsOf below
    exact (tidy.content node (List.mem_reverse.mp isIn)).below e inside

theorem Frame.IsTidy.fits {frame : Frame} (tidy : frame.IsTidy) {parent : String}
    (allowed : impliesEnd parent frame.name = false) : frame.close.toNode.Fits parent := by
  refine ⟨?_, tidy.descendants⟩
  rintro _ ⟨⟩
  exact allowed

theorem Element.isTidy_of_isEmpty {e : Element} (empty : e.children = []) : e.IsTidy := by
  refine ⟨?_, fun _ => empty⟩
  simp [elements, empty]

theorem descendants_ofTag (tag : StartTag) :
    ∀ e ∈ (Frame.ofTag tag).close.descendants, e.IsTidy := by
  intro e mem
  obtain rfl := List.mem_singleton.mp mem
  exact Element.isTidy_of_isEmpty rfl

theorem Frame.isTidy_ofTag {tag : StartTag} (content : tag.isEmpty = false) :
    (Frame.ofTag tag).IsTidy := by
  refine ⟨by simp [Frame.ofTag], fun isVoid => ?_⟩
  simp [StartTag.isEmpty, show tag.name ∈ voidElements from isVoid] at content

namespace Stack

/-- Open elements with each in its place: it may stand in the one around it. -/
inductive IsNested : Stack → Prop where
  | alone {frame : Frame} : frame.IsTidy → IsNested ⟨frame, []⟩
  | within {top next : Frame} {outer : List Frame} :
      top.IsTidy → impliesEnd next.name top.name = false → IsNested ⟨next, outer⟩ →
        IsNested ⟨top, next :: outer⟩

theorem IsNested.top {stack : Stack} (nested : stack.IsNested) : stack.top.IsTidy := by
  cases nested <;> assumption

theorem IsNested.push {stack : Stack} (nested : stack.IsNested) {node : Node}
    (fits : node.Fits stack.top.name) : (stack.push node).IsNested := by
  cases nested with
  | alone tidy => exact .alone (tidy.push fits)
  | within tidy allowed around => exact .within (tidy.push fits) allowed around

theorem IsNested.close {top next : Frame} {outer : List Frame}
    (nested : IsNested ⟨top, next :: outer⟩) :
    IsNested ⟨next.push top.close.toNode, outer⟩ := by
  cases nested with
  | within tidy allowed around => exact around.push (tidy.fits allowed)

theorem Closes.isNested {stack rest : Stack} (closes : stack.Closes rest)
    (nested : stack.IsNested) : rest.IsNested := by
  induction closes with
  | done => exact nested
  | close _ ih => exact ih nested.close

theorem GoesOn.isNested {stack next : Stack} {event : Event} (goesOn : stack.GoesOn event next)
    (nested : stack.IsNested) : next.IsNested := by
  cases goesOn with
  | text | comment => exact nested.push ⟨by rintro _ ⟨⟩, by simp [Node.elements]⟩
  | empty closes allowed =>
    refine (closes.isNested nested).push ⟨?_, descendants_ofTag _⟩
    rintro _ ⟨⟩
    exact allowed
  | opened closes allowed content =>
    exact .within (Frame.isTidy_ofTag content) allowed (closes.isNested nested)
  | closing _ closes => exact closes.isNested nested

theorem IsNested.isTidy_root {stack : Stack} (nested : stack.IsNested) :
    ∀ e ∈ stack.root.descendants, e.IsTidy := by
  obtain ⟨last, closes, root⟩ := closes_root stack
  rw [root]
  exact (closes.isNested nested).top.descendants

theorem IsNested.isTidy_build {stack : Stack} (nested : stack.IsNested) (events : List Event) :
    ∀ e ∈ (stack.build events).1.descendants, e.IsTidy := by
  induction events generalizing stack with
  | nil => exact nested.isTidy_root
  | cons event rest ih =>
    rw [Stack.build]
    split
    next step => exact ih ((goesOn_of_step step).isNested nested)
    next step => exact (root_of_done step).1 ▸ nested.isTidy_root
    next step => exact root_of_doneBefore step ▸ nested.isTidy_root

end Stack

theorem StartTag.isTidy_of_mem_subtree (tag : StartTag) (events : List Event) :
    ∀ e ∈ (tag.subtree events).1.descendants, e.IsTidy := by
  unfold subtree
  split
  next => exact descendants_ofTag tag
  next content =>
    have tidy := Frame.isTidy_ofTag (Bool.eq_false_iff.mpr content)
    exact (Stack.IsNested.alone tidy).isTidy_build events

/-- Whatever the reader still has to give, in the tree of a start tag no element has a child that it
cannot hold, and an element that never has content has none. -/
theorem Reader.subtree_isTidy (r : Reader) (tag : StartTag) :
    ∀ e ∈ (r.subtree tag).1.descendants,
      (∀ child ∈ e.elements,
        impliesEnd e.name child.name = false ∧ ¬Excludes e.name child.name) ∧
      (e.name ∈ voidElements → e.children = []) := by
  intro e mem
  rw [subtree_fst] at mem
  have tidy := tag.isTidy_of_mem_subtree r.left e mem
  refine ⟨fun child isChild => ⟨tidy.children child isChild, fun excludes => ?_⟩, tidy.void⟩
  have ends := impliesEnd_iff.mpr excludes
  rw [tidy.children child isChild] at ends
  contradiction

/-- A list ends the paragraph before it, one term ends the other, and the next cell ends the tree. -/
theorem Reader.subtree_isTidy_omittedEnds :
    let reader := Reader.start "<td><p>a<dl><dt>b<dt>c<br>d</dl>e<td>f".toList
    let tree := (reader.next.2.subtree ⟨"td", [], 0, false⟩).1
    tree.descendants.map Element.name = ["td", "p", "dl", "dt", "dt", "br"] ∧
      ∃ list ∈ tree.descendants, list.elements.map Element.name = ["dt", "dt"] ∧
        (∀ child ∈ list.elements,
          impliesEnd list.name child.name = false ∧ ¬Excludes list.name child.name) ∧
        (list.name ∈ voidElements → list.children = []) := by
  intro reader tree
  have names : tree.descendants.map Element.name = ["td", "p", "dl", "dt", "dt", "br"] := by
    decide +kernel
  have third : tree.descendants[2]?.map (·.elements.map Element.name) = some ["dt", "dt"] := by
    decide +kernel
  obtain ⟨list, found, terms⟩ := Option.map_eq_some_iff.mp third
  have mem := List.mem_of_getElem? found
  exact ⟨names, list, mem, terms, subtree_isTidy _ _ list mem⟩

end DocIndex.Markup
