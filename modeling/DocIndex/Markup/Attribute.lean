import DocIndex.Markup.Reference

/-!
# Attributes

What stands in a start tag between its name and its end: attributes with a quoted value, with a
bare value, or without a value, separated by blanks and slashes. Names are read in small letters
and values with their references decoded.
-/

namespace DocIndex.Markup

structure Attribute where
  name : String
  value : String
deriving DecidableEq, Repr

/-- ASCII letters in small form. -/
def lower (cs : List Char) : String :=
  String.ofList (cs.map Char.toLower)

def endsAttributeName (c : Char) : Bool :=
  Text.isTagBlank c || c == '=' || c == '/'

/-- Reads an attribute value, from where the blanks behind the equals sign end, and gives what
follows it. A quoted value lacks its closing quote only at the end of the tag. -/
def attributeValue : List Char → List Char × List Char
  | [] => ([], [])
  | c :: cs =>
    if c = '"' ∨ c = '\'' then (cs.takeWhile (· != c), (cs.dropWhile (· != c)).drop 1)
    else ((c :: cs).takeWhile (!Text.isTagBlank ·), (c :: cs).dropWhile (!Text.isTagBlank ·))

/-- Reads what follows an attribute name: the value, empty when there is no equals sign, and what
is left. -/
def attributeAssignment (cs : List Char) : List Char × List Char :=
  match cs.dropWhile Text.isTagBlank with
  | '=' :: rest => attributeValue (rest.dropWhile Text.isTagBlank)
  | _ => ([], cs)

theorem length_attributeValue_le (cs : List Char) :
    (attributeValue cs).2.length ≤ cs.length := by
  cases cs with
  | nil => simp [attributeValue]
  | cons c cs =>
    simp only [attributeValue]
    split
    · have := Text.length_dropWhile_le (· != c) cs
      simp only [List.length_drop, List.length_cons]
      omega
    · exact Text.length_dropWhile_le _ _

theorem length_attributeAssignment_le (cs : List Char) :
    (attributeAssignment cs).2.length ≤ cs.length := by
  unfold attributeAssignment
  split
  next rest dropped =>
    have whole := Text.length_dropWhile_le Text.isTagBlank cs
    have value := length_attributeValue_le (rest.dropWhile Text.isTagBlank)
    have blanks := Text.length_dropWhile_le Text.isTagBlank rest
    rw [dropped, List.length_cons] at whole
    omega
  next => exact Nat.le_refl _

/-- The attributes of a tag, in order. An equals sign that no name precedes is skipped. -/
def attributes (cs : List Char) : List Attribute :=
  match _h : cs.dropWhile (fun c => Text.isTagBlank c || c == '/') with
  | [] => []
  | c :: rest =>
    if c = '=' then attributes rest
    else
      let assignment := attributeAssignment (rest.dropWhile (!endsAttributeName ·))
      ⟨lower (c :: rest.takeWhile (!endsAttributeName ·)),
        String.ofList (decode assignment.1)⟩ :: attributes assignment.2
termination_by cs.length
decreasing_by
  all_goals
    have dropped := Text.length_dropWhile_le (fun c => Text.isTagBlank c || c == '/') cs
    rw [_h, List.length_cons] at dropped
  · omega
  · have name := Text.length_dropWhile_le (!endsAttributeName ·) rest
    have value := length_attributeAssignment_le (rest.dropWhile (!endsAttributeName ·))
    omega

def attribute? (attributes : List Attribute) (name : String) : Option String :=
  (attributes.find? (·.name = name)).map Attribute.value

/-- Whether the words of the `class` attribute include this one. -/
def hasClass (attributes : List Attribute) (name : String) : Bool :=
  match attribute? attributes "class" with
  | some value => (Text.words value.toList).contains name.toList
  | none => false

end DocIndex.Markup
