/-!
# Blank space and words

Two senses of blank: the `White_Space` property, for text, and the five ASCII blanks that separate
the parts of a tag. The words of a text are its maximal runs without blanks, and a text is
normalized when it is its words joined by single spaces.
-/

namespace DocIndex.Text

/-- The `White_Space` property. -/
def isBlank (c : Char) : Bool :=
  let n := c.toNat
  9 ≤ n && n ≤ 13 || n == 0x20 || n == 0x85 || n == 0xA0 || n == 0x1680 ||
    0x2000 ≤ n && n ≤ 0x200A || n == 0x2028 || n == 0x2029 || n == 0x202F || n == 0x205F ||
    n == 0x3000

/-- The blanks that separate the parts of a tag: space, tab, line feed, form feed, return. -/
def isTagBlank (c : Char) : Bool :=
  c == ' ' || c == '\t' || c == '\n' || c == '\x0c' || c == '\r'

def trimStart (cs : List Char) : List Char :=
  cs.dropWhile isBlank

def trimEnd (cs : List Char) : List Char :=
  (cs.reverse.dropWhile isBlank).reverse

def trim (cs : List Char) : List Char :=
  trimEnd (trimStart cs)

theorem length_dropWhile_le {α : Type} (p : α → Bool) (xs : List α) :
    (xs.dropWhile p).length ≤ xs.length :=
  (List.dropWhile_sublist p).length_le

/-- The maximal runs of characters that are not blank. -/
def words (cs : List Char) : List (List Char) :=
  match _h : cs.dropWhile isBlank with
  | [] => []
  | c :: rest =>
    (c :: rest.takeWhile (!isBlank ·)) :: words (rest.dropWhile (!isBlank ·))
termination_by cs.length
decreasing_by
  have dropped := length_dropWhile_le isBlank cs
  have further := length_dropWhile_le (!isBlank ·) rest
  simp_all only [List.length_cons]
  omega

/-- The words of a text with one space between them. -/
def normalize (cs : List Char) : List Char :=
  [' '].intercalate (words cs)

/-- A text begins and ends with this character and has room for both. -/
def isWrapped (first last : Char) (cs : List Char) : Bool :=
  2 ≤ cs.length && cs.head? == some first && cs.getLast? == some last

end DocIndex.Text
