import DocIndex.Proofs.Markup.Reference
import Mathlib.Data.List.Forall2

/-!
# Spelled texts

A character may be written as it is, unless it is an ampersand, or as a reference that names it or
gives its code point. However the characters of a text are written, the text is decoded from them
(`decode_spelled`): each spelling is read up to its own end, whatever follows it, and what it stands
for is not decoded again.
-/

namespace DocIndex.Markup

/-- What may stand between the ends of a reference to the character. A code point may have zeros in
front, and letters of either case among its hexadecimal digits. -/
inductive RefersTo (c : Char) : List Char → Prop where
  | name {name : String} (listed : (name, c) ∈ referenceNames) : RefersTo c name.toList
  | decimal (zeros : Nat) :
      RefersTo c ('#' :: (List.replicate zeros '0' ++ Text.decimal c.toNat))
  | hexadecimal {sign : Char} {digits : List Char} {zeros : Nat} (isSign : sign = 'x' ∨ sign = 'X')
      (numeral : digits.map Char.toLower = List.replicate zeros '0' ++ Text.hexadecimal c.toNat) :
      RefersTo c ('#' :: sign :: digits)

/-- The ways to write a character. -/
inductive Spells (c : Char) : List Char → Prop where
  | self (plain : c ≠ '&') : Spells c [c]
  | reference {body : List Char} (refers : RefersTo c body)
      (small : byteSize body ≤ maxReferenceSize) : Spells c ('&' :: (body ++ [';']))

/-! ### Code points -/

theorem charAt?_toNat (c : Char) : charAt? c.toNat = some c := by
  have valid : c.toNat.isValidChar := c.valid
  rw [charAt?, if_pos valid, Char.ofNat_toNat]

theorem signedNumeral?_of_numeral? {base n : Nat} {digits : List Char}
    (noDigit : Text.digit? base '+' = none) (read : Text.numeral? base digits = some n) :
    signedNumeral? base digits = some n := by
  have unsigned := Text.not_mem_of_numeral? read noDigit
  unfold signedNumeral?
  split
  next => simp at unsigned
  next => exact read

theorem referenced?_decimal {n : Nat} {digits : List Char}
    (read : Text.numeral? 10 digits = some n) : referenced? ('#' :: digits) = charAt? n := by
  have noSmall := Text.not_mem_of_numeral? read (c := 'x') rfl
  have noCapital := Text.not_mem_of_numeral? read (c := 'X') rfl
  unfold referenced?
  split
  next eq => simp [(List.cons.inj eq).2] at noSmall
  next eq => simp [(List.cons.inj eq).2] at noCapital
  next eq =>
    rw [← (List.cons.inj eq).2, signedNumeral?_of_numeral? rfl read, Option.bind_some]
  next noSign => exact absurd rfl (noSign digits)

theorem referenced?_hexadecimal {sign : Char} (isSign : sign = 'x' ∨ sign = 'X') {n : Nat}
    {digits : List Char} (read : Text.numeral? 16 digits = some n) :
    referenced? ('#' :: sign :: digits) = charAt? n := by
  have signed := signedNumeral?_of_numeral? rfl read
  rcases isSign with rfl | rfl <;> simp only [referenced?, signed, Option.bind_some]

theorem numeral?_decimal (zeros n : Nat) :
    Text.numeral? 10 (List.replicate zeros '0' ++ Text.decimal n) = some n := by
  rw [Text.numeral?_zeros_append (by decide) (Text.decimal_ne_nil n)]
  exact Text.decimal?_decimal n

theorem numeral?_hexadecimal {digits : List Char} {zeros n : Nat}
    (numeral : digits.map Char.toLower = List.replicate zeros '0' ++ Text.hexadecimal n) :
    Text.numeral? 16 digits = some n := by
  have nonempty : Text.hexadecimal n ≠ [] := Nat.toDigits_ne_nil
  rw [← Text.numeral?_map_toLower (by decide), numeral,
    Text.numeral?_zeros_append (by decide) nonempty]
  exact Text.numeral?_toDigits (by decide) (by decide) n

/-! ### References -/

theorem referenced?_of_listed {name : String} {c : Char} (listed : (name, c) ∈ referenceNames) :
    referenced? name.toList = some c ∧ ';' ∉ name.toList := by
  have all : ∀ entry ∈ referenceNames,
      referenced? entry.1.toList = some entry.2 ∧ ';' ∉ entry.1.toList := by decide +kernel
  exact all _ listed

namespace RefersTo

variable {c : Char} {body : List Char}

theorem referenced? (refers : RefersTo c body) : Markup.referenced? body = some c := by
  cases refers with
  | name listed => exact (referenced?_of_listed listed).1
  | decimal zeros => rw [referenced?_decimal (numeral?_decimal zeros c.toNat), charAt?_toNat]
  | hexadecimal isSign numeral =>
    rw [referenced?_hexadecimal isSign (numeral?_hexadecimal numeral), charAt?_toNat]

theorem not_mem (refers : RefersTo c body) : ';' ∉ body := by
  cases refers with
  | name listed => exact (referenced?_of_listed listed).2
  | decimal zeros =>
    have inDigits := Text.not_mem_of_numeral? (numeral?_decimal zeros c.toNat) (c := ';') rfl
    exact List.not_mem_cons_of_ne_of_not_mem (by decide) inDigits
  | hexadecimal isSign numeral =>
    have inDigits := Text.not_mem_of_numeral? (numeral?_hexadecimal numeral) (c := ';') rfl
    rcases isSign with rfl | rfl <;> simp [inDigits]

end RefersTo

/-! ### Texts -/

theorem Spells.decode_append {c : Char} {written : List Char} (spells : Spells c written)
    (rest : List Char) : decode (written ++ rest) = c :: decode rest := by
  cases spells with
  | self plain => exact decode_cons_of_ne plain rest
  | reference refers small =>
    rw [List.cons_append, List.append_assoc, List.singleton_append]
    exact decode_reference refers.referenced? refers.not_mem small rest

theorem decode_flatten_append {text : List Char} {spellings : List (List Char)}
    (spelled : List.Forall₂ Spells text spellings) (rest : List Char) :
    decode (spellings.flatten ++ rest) = text ++ decode rest := by
  induction spelled with
  | nil => rfl
  | cons spells _ ih =>
    rw [List.flatten_cons, List.append_assoc, spells.decode_append, ih, List.cons_append]

/-- A text is decoded from any spellings of its characters. -/
theorem decode_spelled {text : List Char} {spellings : List (List Char)}
    (spelled : List.Forall₂ Spells text spellings) : decode spellings.flatten = text := by
  have whole := decode_flatten_append spelled []
  rwa [List.append_nil, decode_nil, List.append_nil] at whole

/-- A decoded ampersand begins no reference, and a reference of the full size is read. -/
theorem decode_spelled_ampersand :
    let text := ['é', '&', 'l', 't', ';', '<']
    let spellings :=
      ["&#X0E9;".toList, "&#0000000000000000000000000000038;".toList, ['l'], "&#x74;".toList, [';'],
        "&lt;".toList]
    List.Forall₂ Spells text spellings ∧ decode spellings.flatten = text := by
  intro text spellings
  have accent : Spells 'é' "&#X0E9;".toList :=
    .reference (@RefersTo.hexadecimal _ _ "0E9".toList 1 (.inr rfl) (by decide)) (by decide)
  have ampersand : Spells '&' "&#0000000000000000000000000000038;".toList :=
    .reference (@RefersTo.decimal '&' 29) (by decide)
  have letter : Spells 't' "&#x74;".toList :=
    .reference (@RefersTo.hexadecimal _ _ "74".toList 0 (.inl rfl) (by decide)) (by decide)
  have lessThan : Spells '<' "&lt;".toList :=
    .reference (@RefersTo.name _ "lt" (by decide)) (by decide)
  have spelled : List.Forall₂ Spells text spellings :=
    .cons accent <| .cons ampersand <| .cons (.self (by decide)) <| .cons letter <|
      .cons (.self (by decide)) <| .cons lessThan .nil
  exact ⟨spelled, decode_spelled spelled⟩

/-! ### Escaped texts -/

theorem spells_reference {c : Char} : Spells c (reference c) := by
  unfold reference
  split
  next => exact .reference (@RefersTo.name _ "amp" (by decide)) (by decide)
  next => exact .reference (@RefersTo.name _ "lt" (by decide)) (by decide)
  next => exact .reference (@RefersTo.name _ "quot" (by decide)) (by decide)
  next plain _ _ => exact .self plain

/-- An escaped text spells the text, if every ampersand is escaped. -/
theorem exists_spellings_escape {marks : List Char} (ampersand : '&' ∈ marks) (cs : List Char) :
    ∃ spellings, List.Forall₂ Spells cs spellings ∧ spellings.flatten = escape marks cs := by
  refine ⟨cs.map fun c => if c ∈ marks then reference c else [c], ?_, (List.flatMap_def ..).symm⟩
  rw [List.forall₂_map_right_iff, List.forall₂_same]
  intro c _
  split
  next => exact spells_reference
  next noMark => exact .self fun same => noMark (same ▸ ampersand)

theorem decode_escape {marks : List Char} (ampersand : '&' ∈ marks) (cs : List Char) :
    decode (escape marks cs) = cs := by
  obtain ⟨spellings, spelled, same⟩ := exists_spellings_escape ampersand cs
  have whole := decode_flatten_append spelled []
  rwa [List.append_nil, same, decode_nil, List.append_nil] at whole

end DocIndex.Markup
