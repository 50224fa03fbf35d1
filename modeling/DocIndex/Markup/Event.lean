import DocIndex.Markup.Piece

/-!
# Events

The stream of events of a document, one for each piece but declarations, in order. Start tags carry
the number of characters before them.
-/

namespace DocIndex.Markup

structure StartTag where
  /-- In small letters. -/
  name : String
  attributes : List Attribute
  /-- The number of characters before the tag. -/
  offset : Nat
  /-- Written with a slash at its end. -/
  selfClosing : Bool
deriving DecidableEq, Repr

inductive Event where
  | opening (tag : StartTag)
  | closing (name : String)
  | text (data : String)
  | comment (body : String)
deriving DecidableEq, Repr

/-- The event of a piece that stands at this offset. References are decoded in text and in
attribute values, but not in raw text. -/
def Piece.event? (offset : Nat) : Piece → Option Event
  | .comment body _ => some (.comment (String.ofList body))
  | .declaration _ _ => none
  | .startTag name body _ =>
    some (.opening ⟨lower name, attributes body, offset, isSelfClosing body⟩)
  | .endTag name _ _ => some (.closing (lower name))
  | .text run => some (.text (String.ofList (decode run)))
  | .rawText run => some (.text (String.ofList run))

def eventsFrom (offset : Nat) : List Piece → List Event
  | [] => []
  | piece :: rest =>
    (piece.event? offset).toList ++ eventsFrom (offset + piece.source.length) rest

def events (document : List Char) : List Event :=
  eventsFrom 0 (pieces document)

theorem eventsFrom_append (offset : Nat) (front back : List Piece) :
    eventsFrom offset (front ++ back) =
      eventsFrom offset front ++
        eventsFrom (offset + (front.flatMap Piece.source).length) back := by
  induction front generalizing offset with
  | nil => simp [eventsFrom]
  | cons piece rest ih =>
    simp only [List.cons_append, eventsFrom, ih, List.append_assoc, List.flatMap_cons,
      List.length_append, Nat.add_assoc]

end DocIndex.Markup
