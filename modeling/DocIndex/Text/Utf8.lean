/-!
# Text as bytes

Text is written as UTF-8. Bytes that are not UTF-8 are read all the same: the longest stretch that
begins a character but does not complete it, or else one byte, counts as one replacement character.
-/

namespace DocIndex.Text

def toBytes (text : List Char) : List UInt8 :=
  text.flatMap String.utf8EncodeChar

/-- What a byte above ASCII begins: its part of the code point, how many bytes follow, and between
what bounds the first of them lies. -/
structure Lead where
  value : Nat
  following : Nat
  least : UInt8
  greatest : UInt8

/-- The reading of a byte at the start of a character above ASCII, if it can stand there. -/
def lead? (b : UInt8) : Option Lead :=
  if b < 0xC2 then none
  else if b ≤ 0xDF then some ⟨b.toNat - 0xC0, 1, 0x80, 0xBF⟩
  else if b = 0xE0 then some ⟨0, 2, 0xA0, 0xBF⟩
  else if b = 0xED then some ⟨0xD, 2, 0x80, 0x9F⟩
  else if b ≤ 0xEF then some ⟨b.toNat - 0xE0, 2, 0x80, 0xBF⟩
  else if b = 0xF0 then some ⟨0, 3, 0x90, 0xBF⟩
  else if b ≤ 0xF3 then some ⟨b.toNat - 0xF0, 3, 0x80, 0xBF⟩
  else if b = 0xF4 then some ⟨4, 3, 0x80, 0x8F⟩
  else none

/-- Reads this many more bytes of a character, the first between the bounds: the code point if they
are all there, and the bytes left. -/
def continueCharacter (value : Nat) (least greatest : UInt8) :
    Nat → List UInt8 → Option Nat × List UInt8
  | 0, bytes => (some value, bytes)
  | _ + 1, [] => (none, [])
  | n + 1, b :: bytes =>
    if least ≤ b && b ≤ greatest then
      continueCharacter (64 * value + (b.toNat - 0x80)) 0x80 0xBF n bytes
    else (none, b :: bytes)

theorem length_continueCharacter_le (value : Nat) (least greatest : UInt8) (n : Nat)
    (bytes : List UInt8) :
    (continueCharacter value least greatest n bytes).2.length ≤ bytes.length := by
  induction n generalizing value least greatest bytes with
  | zero => exact Nat.le_refl _
  | succ n ih =>
    cases bytes with
    | nil => exact Nat.le_refl _
    | cons b bytes =>
      simp only [continueCharacter]
      split
      · exact Nat.le_succ_of_le (ih _ _ _ _)
      · exact Nat.le_refl _

/-- What stands for bytes that are no character. -/
def replacement : Char := '\ufffd'

/-- Reads the rest of a character above ASCII. -/
def characterFrom (b : UInt8) (bytes : List UInt8) : Char × List UInt8 :=
  match lead? b with
  | none => (replacement, bytes)
  | some lead =>
    let read := continueCharacter lead.value lead.least lead.greatest lead.following bytes
    ((read.1.map Char.ofNat).getD replacement, read.2)

theorem length_characterFrom_le (b : UInt8) (bytes : List UInt8) :
    (characterFrom b bytes).2.length ≤ bytes.length := by
  unfold characterFrom
  split
  · exact Nat.le_refl _
  · exact length_continueCharacter_le _ _ _ _ _

def ofBytes (bytes : List UInt8) : List Char :=
  match bytes with
  | [] => []
  | b :: bytes =>
    if b < 0x80 then Char.ofNat b.toNat :: ofBytes bytes
    else
      let read := characterFrom b bytes
      read.1 :: ofBytes read.2
termination_by bytes.length
decreasing_by
  · exact Nat.lt_succ_self _
  · exact Nat.lt_succ_of_le (length_characterFrom_le b bytes)

end DocIndex.Text
