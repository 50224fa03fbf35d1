import DocIndex.Markup.Attribute

/-!
# Elements

The tree of an element: its name, its attributes and its content. `Element.descendants` lists the
elements of a tree in document order, and `Element.find?` searches it in that order.
-/

namespace DocIndex.Markup

inductive Node where
  | element (name : String) (attributes : List Attribute) (children : List Node)
  | text (data : String)
  | comment (body : String)

structure Element where
  name : String
  attributes : List Attribute
  children : List Node

namespace Node

def element? : Node → Option Element
  | .element name attributes children => some ⟨name, attributes, children⟩
  | .text _ => none
  | .comment _ => none

end Node

mutual

/-- The text of a node and of all below it; comments have none. -/
def Node.rawText : Node → List Char
  | .element _ _ children => rawTextOf children
  | .text data => data.toList
  | .comment _ => []

def rawTextOf : List Node → List Char
  | [] => []
  | node :: rest => node.rawText ++ rawTextOf rest

end

mutual

def Node.elements : Node → List Element
  | .element name attributes children => ⟨name, attributes, children⟩ :: elementsOf children
  | .text _ => []
  | .comment _ => []

def elementsOf : List Node → List Element
  | [] => []
  | node :: rest => node.elements ++ elementsOf rest

end

mutual

/-- The first element of a node that satisfies the condition. -/
def Node.find? (satisfies : Element → Bool) : Node → Option Element
  | .element name attributes children =>
    if satisfies ⟨name, attributes, children⟩ then some ⟨name, attributes, children⟩
    else findIn? satisfies children
  | .text _ => none
  | .comment _ => none

def findIn? (satisfies : Element → Bool) : List Node → Option Element
  | [] => none
  | node :: rest => (node.find? satisfies).or (findIn? satisfies rest)

end

namespace Element

def toNode (e : Element) : Node :=
  .element e.name e.attributes e.children

def attribute? (e : Element) (name : String) : Option String :=
  Markup.attribute? e.attributes name

def hasClass (e : Element) (name : String) : Bool :=
  Markup.hasClass e.attributes name

def elements (e : Element) : List Element :=
  e.children.filterMap Node.element?

def descendants (e : Element) : List Element :=
  e.toNode.elements

def find? (e : Element) (satisfies : Element → Bool) : Option Element :=
  e.toNode.find? satisfies

/-- The text below the element, as it stands. -/
def rawText (e : Element) : List Char :=
  rawTextOf e.children

/-- The text below the element, with blanks normalized. -/
def flatten (e : Element) : String :=
  String.ofList (Text.normalize e.rawText)

end Element

end DocIndex.Markup
