import DocIndex.Markup.Element
import DocIndex.Text.Quoted
import DocIndex.Text.Uppercase

/-!
# Section headings

The number, the title and the identifier of a section, from the element of its heading. Number and
title stand in marked elements, or else the number is the first word of the text. A heading without
an identifier gets one made from its title.
-/

namespace DocIndex

structure Heading where
  level : UInt8
  /-- Such as `2.3`; empty when the section has none. -/
  number : String
  title : String
  id : String
deriving DecidableEq, Repr

/-- The notice that a section got an identifier made from its title. -/
structure MadeId where
  title : String
  id : String
deriving DecidableEq, Repr

def MadeId.message (made : MadeId) : String :=
  "section " ++ Text.quoted made.title ++ " has no id; using " ++ made.id

namespace Heading

def levelOf? (tag : String) : Option UInt8 :=
  match tag with
  | "h1" => some 1
  | "h2" => some 2
  | "h3" => some 3
  | "h4" => some 4
  | _ => none

def isNumber (e : Markup.Element) : Bool :=
  e.hasClass "section-number" || e.hasClass "sec-nr"

def isTitle (e : Markup.Element) : Bool :=
  e.hasClass "section-title" || e.hasClass "sec-title"

/-- The first title among siblings that has a number before it, with the last such number. -/
def pairIn? (number : Option Markup.Element) :
    List Markup.Element → Option (Markup.Element × Markup.Element)
  | [] => none
  | e :: rest =>
    if isNumber e then pairIn? (some e) rest
    else
      match number, isTitle e with
      | some n, true => some (n, e)
      | _, _ => pairIn? number rest

def marked? (heading : Markup.Element) : Option (Markup.Element × Markup.Element) :=
  heading.descendants.findSome? fun parent => pairIn? none parent.elements

/-- Whether a heading's text begins with a number: a digit, or a capital letter and a dot. -/
def isNumbered : List Char → Bool
  | first :: '.' :: _ => first.isDigit || Text.isUppercase first
  | first :: _ => first.isDigit
  | [] => false

/-- The number at the start of a heading's text, and the rest. The number is empty when there is
none or when no space follows it. -/
def splitNumber (text : List Char) : List Char × List Char :=
  match isNumbered text, text.dropWhile (· != ' ') with
  | true, _ :: title => (text.takeWhile (· != ' '), Text.trimStart title)
  | _, _ => ([], text)

/-- The identifier of the bibliography, which has none of its own. -/
def bibliographyId : String := "sec:bibliography"

def idOfTitle (title : List Char) : String :=
  "sec:" ++ String.ofList (['_'].intercalate (Text.words title))

def numberAndTitle (heading : Markup.Element) : String × String :=
  match marked? heading with
  | some (number, title) => (number.flatten, title.flatten)
  | none =>
    let parts := splitNumber heading.flatten.toList
    (String.ofList parts.1, String.ofList parts.2)

def idWithout (title : String) : String × Option MadeId :=
  if title = "Bibliography" then (bibliographyId, none)
  else
    let id := idOfTitle title.toList
    (id, some ⟨title, id⟩)

def identify (heading : Markup.Element) (title : String) : String × Option MadeId :=
  match heading.attribute? "id" with
  | some id => if id.isEmpty then idWithout title else (id, none)
  | none => idWithout title

def ofElement (heading : Markup.Element) (level : UInt8) : Heading × Option MadeId :=
  let parts := numberAndTitle heading
  let id := identify heading parts.2
  (⟨level, parts.1, parts.2, id.1⟩, id.2)

end Heading

end DocIndex
