import DocIndex.Page
import Mathlib.Data.List.Sort

/-!
# Document order

An element of a tree is known by its place, the way down to it from the root; equal elements may
stand at several places. The list of the elements of a tree has one entry for each place, in document
order (`exists_lists`), so what a search finds stands before everything else that satisfies the
condition, however deep (`find?_eq_some_iff`).
-/

namespace DocIndex.Markup

/-- The element at a place. Each number says which of the elements directly below to go on with. -/
def Element.at? (e : Element) : List Nat → Option Element
  | [] => some e
  | number :: place => e.elements[number]?.bind (·.at? place)

/-- Document order of places. -/
inductive Precedes : List Nat → List Nat → Prop where
  /-- An element comes before the elements below it. -/
  | below (place : List Nat) (number : Nat) (further : List Nat) :
      Precedes place (place ++ number :: further)
  /-- A sibling and all below it come before a later sibling and all below that. -/
  | beside (place further further' : List Nat) {number number' : Nat} (earlier : number < number') :
      Precedes (place ++ number :: further) (place ++ number' :: further')

namespace Precedes

variable {place place' : List Nat}

theorem cons (number : Nat) (first : Precedes place place') :
    Precedes (number :: place) (number :: place') := by
  cases first with
  | below place m further => exact below (number :: place) m further
  | beside place further further' earlier => exact beside (number :: place) further further' earlier

theorem lt (first : Precedes place place') : place < place' := by
  cases first with
  | below place number further =>
    induction place with
    | nil => exact List.nil_lt_cons number further
    | cons m place ih => exact List.cons_lt_cons_self.mpr ih
  | beside place further further' earlier =>
    induction place with
    | nil => exact List.Lex.rel earlier
    | cons m place ih => exact List.cons_lt_cons_self.mpr ih

theorem asymm (first : Precedes place place') : ¬Precedes place' place :=
  fun second => List.lt_asymm first.lt second.lt

theorem irrefl (place : List Nat) : ¬Precedes place place :=
  fun first => first.asymm first

end Precedes

/-! ### The elements with their places -/

/-- All places of a tree and the elements there, in document order. -/
structure Element.Lists (e : Element) (placed : List (List Nat × Element)) : Prop where
  ascending : placed.Pairwise fun first second => Precedes first.1 second.1
  mem_iff : ∀ place other, (place, other) ∈ placed ↔ e.at? place = some other
  elements : placed.map Prod.snd = e.descendants

/-- All places below siblings and the elements there, in document order. The first of the siblings
has this number. -/
structure ListsIn (number : Nat) (siblings : List Element) (placed : List (List Nat × Element)) :
    Prop where
  ascending : placed.Pairwise fun first second => Precedes first.1 second.1
  mem_iff : ∀ place other, (place, other) ∈ placed ↔ ∃ n further,
    place = (number + n) :: further ∧ siblings[n]?.bind (·.at? further) = some other
  elements : placed.map Prod.snd = siblings.flatMap Element.descendants

theorem listsIn_nil (number : Nat) : ListsIn number [] [] where
  ascending := .nil
  mem_iff := by simp
  elements := rfl

theorem Element.Lists.cons {number : Nat} {e : Element} {siblings : List Element}
    {placed others : List (List Nat × Element)} (lists : e.Lists placed)
    (listsIn : ListsIn (number + 1) siblings others) :
    ListsIn number (e :: siblings)
      (placed.map (fun entry => (number :: entry.1, entry.2)) ++ others) where
  ascending := by
    refine List.pairwise_append.mpr ⟨?_, listsIn.ascending, ?_⟩
    · exact List.pairwise_map.mpr (lists.ascending.imp (Precedes.cons number))
    · rintro _ mem ⟨place, other⟩ behind
      obtain ⟨entry, -, rfl⟩ := List.mem_map.mp mem
      obtain ⟨n, further, rfl, -⟩ := (listsIn.mem_iff place other).mp behind
      exact .beside [] entry.1 further (by omega)
  mem_iff place other := by
    rw [List.mem_append, listsIn.mem_iff]
    constructor
    · rintro (mem | ⟨n, further, rfl, found⟩)
      · obtain ⟨⟨further, inner⟩, isIn, same⟩ := List.mem_map.mp mem
        cases same
        exact ⟨0, further, rfl, (lists.mem_iff further inner).mp isIn⟩
      · exact ⟨n + 1, further, by rw [Nat.add_assoc, Nat.add_comm 1], found⟩
    · rintro ⟨n, further, rfl, found⟩
      cases n with
      | zero =>
        exact .inl (List.mem_map.mpr ⟨(further, other), (lists.mem_iff further other).mpr found, rfl⟩)
      | succ n => exact .inr ⟨n, further, by rw [Nat.add_assoc, Nat.add_comm 1], found⟩
  elements := by
    rw [List.map_append, List.map_map, listsIn.elements, List.flatMap_cons, ← lists.elements]
    rfl

theorem elementsOf_eq (nodes : List Node) :
    elementsOf nodes = (nodes.filterMap Node.element?).flatMap Element.descendants := by
  induction nodes with
  | nil => rfl
  | cons node rest ih =>
    rw [elementsOf, ih, List.filterMap_cons]
    cases node <;> rfl

theorem ListsIn.lists {e : Element} {placed : List (List Nat × Element)}
    (listsIn : ListsIn 0 e.elements placed) : e.Lists (([], e) :: placed) where
  ascending := by
    refine List.pairwise_cons.mpr ⟨?_, listsIn.ascending⟩
    rintro ⟨place, other⟩ mem
    obtain ⟨n, further, rfl, -⟩ := (listsIn.mem_iff place other).mp mem
    exact .below [] (0 + n) further
  mem_iff place other := by
    rw [List.mem_cons, listsIn.mem_iff]
    cases place with
    | nil => simp [Element.at?, eq_comm]
    | cons number place => simp [Element.at?]
  elements := by
    rw [List.map_cons, listsIn.elements, Element.elements, ← elementsOf_eq]
    rfl

mutual

theorem Node.exists_lists : (node : Node) → ∀ e ∈ node.element?, ∃ placed, e.Lists placed
  | .element name attributes children, e, isRoot => by
    obtain ⟨placed, listsIn⟩ := exists_listsIn 0 children
    obtain rfl : ⟨name, attributes, children⟩ = e := Option.some.inj isRoot
    exact ⟨_, listsIn.lists (e := ⟨name, attributes, children⟩)⟩
  | .text _, _, isRoot => nomatch isRoot
  | .comment _, _, isRoot => nomatch isRoot

theorem exists_listsIn (number : Nat) : (nodes : List Node) →
    ∃ placed, ListsIn number (nodes.filterMap Node.element?) placed
  | [] => ⟨[], listsIn_nil number⟩
  | node :: rest => by
    cases found : node.element? with
    | none =>
      rw [List.filterMap_cons_none found]
      exact exists_listsIn number rest
    | some e =>
      obtain ⟨placed, lists⟩ := node.exists_lists e found
      obtain ⟨others, listsIn⟩ := exists_listsIn (number + 1) rest
      rw [List.filterMap_cons_some found]
      exact ⟨_, lists.cons listsIn⟩

end

theorem Element.exists_lists (e : Element) : ∃ placed, e.Lists placed :=
  e.toNode.exists_lists e rfl

/-! ### Searching -/

mutual

theorem Node.find?_eq (satisfies : Element → Bool) : (node : Node) →
    node.find? satisfies = node.elements.find? satisfies
  | .element name attributes children => by
    rw [Node.find?, Node.elements, List.find?_cons, findIn?_eq satisfies children]
    cases satisfies ⟨name, attributes, children⟩ <;> rfl
  | .text _ => by rw [Node.find?, Node.elements, List.find?_nil]
  | .comment _ => by rw [Node.find?, Node.elements, List.find?_nil]

theorem findIn?_eq (satisfies : Element → Bool) : (nodes : List Node) →
    findIn? satisfies nodes = (elementsOf nodes).find? satisfies
  | [] => rfl
  | node :: rest => by
    rw [findIn?, elementsOf, List.find?_append, Node.find?_eq satisfies node,
      findIn?_eq satisfies rest]

end

namespace Element

/-- The place of the first element, in document order, that satisfies the condition. -/
structure IsFirst (e : Element) (satisfies : Element → Bool) (place : List Nat) (found : Element) :
    Prop where
  here : e.at? place = some found
  satisfied : satisfies found = true
  notBefore : ∀ earlier other, Precedes earlier place → e.at? earlier = some other →
    satisfies other = false

theorem find?_eq_find?_descendants (e : Element) (satisfies : Element → Bool) :
    e.find? satisfies = e.descendants.find? satisfies :=
  e.toNode.find?_eq satisfies

variable {e found : Element} {satisfies : Element → Bool} {place : List Nat}
  {placed : List (List Nat × Element)}

theorem find?_eq_none_iff :
    e.find? satisfies = none ↔ ∀ other ∈ e.descendants, satisfies other = false := by
  simp [find?_eq_find?_descendants]

theorem Lists.precedes_of_eq_append (lists : e.Lists placed)
    {before behind : List (List Nat × Element)} {entry : List Nat × Element}
    (split : placed = before ++ entry :: behind) :
    (∀ other ∈ before, Precedes other.1 entry.1) ∧ ∀ other ∈ behind, Precedes entry.1 other.1 := by
  obtain ⟨-, back, across⟩ := List.pairwise_append.mp (split ▸ lists.ascending)
  exact ⟨fun other mem => across other mem entry List.mem_cons_self, (List.pairwise_cons.mp back).1⟩

theorem Lists.find?_eq_some_iff (lists : e.Lists placed) :
    placed.find? (fun entry => satisfies entry.2) = some (place, found) ↔
      e.IsFirst satisfies place found := by
  rw [List.find?_eq_some_iff_append]
  constructor
  · rintro ⟨satisfied, before, behind, split, others⟩
    obtain ⟨-, later⟩ := lists.precedes_of_eq_append split
    have isIn : (place, found) ∈ placed := by simp [split]
    refine ⟨(lists.mem_iff place found).mp isIn, satisfied, ?_⟩
    intro earlier other first isAt
    -- the list is ascending, so what comes earlier can only be in front of the entry that is found
    have mem : (earlier, other) ∈ before ++ (place, found) :: behind :=
      split ▸ (lists.mem_iff earlier other).mpr isAt
    rcases List.mem_append.mp mem with mem | mem
    · simpa using others _ mem
    · rcases List.mem_cons.mp mem with same | mem
      · cases same
        exact absurd first (Precedes.irrefl place)
      · exact absurd first (later _ mem).asymm
  · rintro ⟨here, satisfied, notBefore⟩
    obtain ⟨before, behind, split⟩ := List.append_of_mem ((lists.mem_iff place found).mpr here)
    obtain ⟨earlier, -⟩ := lists.precedes_of_eq_append split
    refine ⟨satisfied, before, behind, split, ?_⟩
    rintro ⟨place', other⟩ mem
    have isIn : (place', other) ∈ placed := by
      rw [split]
      exact List.mem_append_left _ mem
    simpa using notBefore place' other (earlier _ mem) ((lists.mem_iff place' other).mp isIn)

/-- What is found is the first element, in document order, that satisfies the condition. -/
theorem find?_eq_some_iff :
    e.find? satisfies = some found ↔ ∃ place, e.IsFirst satisfies place found := by
  obtain ⟨placed, lists⟩ := e.exists_lists
  rw [find?_eq_find?_descendants, ← lists.elements, List.find?_map, Option.map_eq_some_iff]
  constructor
  · rintro ⟨⟨place, _⟩, first, rfl⟩
    exact ⟨place, lists.find?_eq_some_iff.mp first⟩
  · rintro ⟨place, first⟩
    exact ⟨(place, found), lists.find?_eq_some_iff.mpr first, rfl⟩

end Element

end DocIndex.Markup

namespace DocIndex

open Markup (Element)

/-- The object of a term is that of its first anchor in document order, and of no other one. -/
theorem termObject?_eq_some_iff {term : Element} {object : Object} :
    termObject? term = some object ↔ ∃ place anchor, term.IsFirst isAnchor place anchor ∧
      (anchorAttributes.filterMap anchor.attribute?).findSome?
        (fun text => (Object.ofIdentifier text).toOption) = some object := by
  rw [termObject?, Option.bind_eq_some_iff]
  constructor
  · rintro ⟨anchor, found, identified⟩
    obtain ⟨place, first⟩ := Element.find?_eq_some_iff.mp found
    exact ⟨place, anchor, first, identified⟩
  · rintro ⟨place, anchor, first, identified⟩
    exact ⟨anchor, Element.find?_eq_some_iff.mpr ⟨place, first⟩, identified⟩

/-- The elements of a tree are listed in document order, from the root on, each place once. The
search finds the first one in the list that satisfies the condition, so that none stands before it
that does, and nothing just if none does. So a term is identified by its first anchor. -/
theorem finds_first_inDocumentOrder :
    (∀ e : Element, e.descendants.head? = some e ∧ ∃ placed, e.Lists placed) ∧
      (∀ (e : Element) satisfies, e.find? satisfies = e.descendants.find? satisfies ∧
        (e.find? satisfies = none ↔ ∀ other ∈ e.descendants, satisfies other = false) ∧
        ∀ found, e.find? satisfies = some found ↔ ∃ place, e.IsFirst satisfies place found) ∧
      ∀ term object, termObject? term = some object ↔
        ∃ place anchor, term.IsFirst isAnchor place anchor ∧
          (anchorAttributes.filterMap anchor.attribute?).findSome?
            (fun text => (Object.ofIdentifier text).toOption) = some object := by
  refine ⟨?_, ?_, fun term object => termObject?_eq_some_iff⟩
  · intro e
    exact ⟨rfl, e.exists_lists⟩
  · intro e satisfies
    exact ⟨e.find?_eq_find?_descendants satisfies, Element.find?_eq_none_iff,
      fun found => Element.find?_eq_some_iff⟩

/-- A deep anchor comes before a later one that stands higher. -/
example :
    let deep : Element := ⟨"a", [⟨"id", "f/1"⟩], []⟩
    let term : Element := ⟨"dt", [], [.text "either ", .element "b" [] [deep.toNode], .comment "",
      .element "a" [⟨"id", "g/2"⟩] []]⟩
    term.find? isAnchor = some deep ∧ term.at? [0, 0] = some deep :=
  ⟨rfl, rfl⟩

end DocIndex
