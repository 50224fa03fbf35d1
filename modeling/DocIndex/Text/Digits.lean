/-!
# Numerals

Digits of a base up to sixteen, and the numerals they form.
-/

namespace DocIndex.Text

def digit? (base : Nat) (c : Char) : Option Nat :=
  let value? :=
    if c.isDigit then some (c.toNat - '0'.toNat)
    else if 'a' ≤ c ∧ c ≤ 'f' then some (c.toNat - 'a'.toNat + 10)
    else if 'A' ≤ c ∧ c ≤ 'F' then some (c.toNat - 'A'.toNat + 10)
    else none
  value?.filter (· < base)

/-- The number that a non-empty run of digits writes. -/
def numeral? (base : Nat) (cs : List Char) : Option Nat :=
  if cs.isEmpty then none
  else cs.foldlM (fun n c => (digit? base c).map (base * n + ·)) 0

/-- The number that a non-empty run of decimal digits writes. -/
def decimal? (cs : List Char) : Option Nat :=
  numeral? 10 cs

/-- The shortest decimal numeral of a number. -/
def decimal (n : Nat) : List Char :=
  Nat.toDigits 10 n

/-- The shortest hexadecimal numeral of a number, with small letters. -/
def hexadecimal (n : Nat) : List Char :=
  Nat.toDigits 16 n

end DocIndex.Text
