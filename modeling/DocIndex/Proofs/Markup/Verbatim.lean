import DocIndex.Proofs.Markup.Spelling
import Mathlib.Data.List.Infix

/-!
# Texts that are decoded as they stand

Decoding makes a text shorter wherever it reads a reference, so that a text is kept just if none is
read in it (`decode_eq_self_iff`). The form of a reference is a name of the table, or digits behind a
number sign. Nothing else is read but digits with a plus sign in front of them: a text without a
reference in its form is kept just if it has no signed numeral of a character either
(`decode_eq_self_iff_of_unknown`).
-/

namespace DocIndex.Markup

/-! ### What decoding changes -/

theorem length_decode_le (cs : List Char) : (decode cs).length ≤ cs.length := by
  fun_induction decode cs with
  | case1 => exact Nat.le_refl _
  | case2 cs c rest read ih =>
    have shorter := length_of_reference? read
    simp only [List.length_cons]
    omega
  | case3 cs missing ih => exact Nat.succ_le_succ ih
  | case4 c cs other ih => exact Nat.succ_le_succ ih

theorem forall_behind_cons_iff {P : List Char → Prop} {c : Char} {cs : List Char} :
    (∀ front rest, c :: cs = front ++ '&' :: rest → P rest) ↔
      (c = '&' → P cs) ∧ ∀ front rest, cs = front ++ '&' :: rest → P rest := by
  constructor
  · intro all
    exact ⟨fun first => all [] cs (by rw [first]; rfl),
      fun front rest split => all (c :: front) rest (by rw [split]; rfl)⟩
  · rintro ⟨here, further⟩ front rest split
    rcases List.cons_eq_append_iff.mp split with ⟨-, first⟩ | ⟨more, -, behind⟩
    · obtain ⟨rfl, rfl⟩ := List.cons.inj first
      exact here rfl
    · exact further more rest behind

/-- A text is decoded as it stands just if no reference is read behind any of its ampersands. -/
theorem decode_eq_self_iff_reference? (cs : List Char) :
    decode cs = cs ↔ ∀ front rest, cs = front ++ '&' :: rest → reference? rest = none := by
  fun_induction decode cs with
  | case1 => simp
  | case2 cs c rest read ih =>
    have shorter := length_of_reference? read
    have bound := length_decode_le rest
    refine iff_of_false ?_ ?_
    · intro same
      have lengths := congrArg List.length same
      simp only [List.length_cons] at lengths
      omega
    · intro unread
      rw [unread [] cs rfl] at read
      contradiction
  | case3 cs missing ih =>
    rw [forall_behind_cons_iff, List.cons.injEq, ih]
    simp only [missing, true_and, implies_true]
  | case4 c cs other ih =>
    rw [forall_behind_cons_iff, List.cons.injEq, ih]
    simp only [other, true_and, false_implies]

/-! ### What references are read -/

def areDigits (base : Nat) (digits : List Char) : Bool :=
  !digits.isEmpty && digits.all fun c => (Text.digit? base c).isSome

/-- The form of a reference, given what stands between its ends: a name of the table, decimal digits
behind a number sign, or hexadecimal digits behind a number sign and an x. -/
def isReference : List Char → Bool
  | '#' :: 'x' :: digits => areDigits 16 digits
  | '#' :: 'X' :: digits => areDigits 16 digits
  | '#' :: digits => areDigits 10 digits
  | name => referenceNames.any fun entry => entry.1.toList = name

/-- The character whose code point is written in digits with a plus sign in front of them. -/
def signedReference? : List Char → Option Char
  | '#' :: 'x' :: '+' :: digits => (Text.numeral? 16 digits).bind charAt?
  | '#' :: 'X' :: '+' :: digits => (Text.numeral? 16 digits).bind charAt?
  | '#' :: '+' :: digits => (Text.numeral? 10 digits).bind charAt?
  | _ => none

theorem areDigits_of_numeral? {base n : Nat} {digits : List Char}
    (read : Text.numeral? base digits = some n) : areDigits base digits = true := by
  have nonempty : digits ≠ [] := by
    rintro rfl
    contradiction
  have all : ∀ c ∈ digits, (Text.digit? base c).isSome = true := by
    intro c mem
    rw [Option.isSome_iff_ne_none]
    intro noDigit
    exact Text.not_mem_of_numeral? read noDigit mem
  simp [areDigits, nonempty, List.all_eq_true.mpr all]

theorem areDigits_of_bind_numeral? {base : Nat} {digits : List Char} {c : Char}
    (read : (Text.numeral? base digits).bind charAt? = some c) : areDigits base digits = true := by
  obtain ⟨n, numeral, -⟩ := Option.bind_eq_some_iff.mp read
  exact areDigits_of_numeral? numeral

/-- A numeral that gives a character consists of digits, or of digits behind a plus sign. -/
theorem bind_signedNumeral?_cases {base : Nat} {cs : List Char} {c : Char}
    (read : (signedNumeral? base cs).bind charAt? = some c) :
    areDigits base cs = true ∨
      ∃ digits, cs = '+' :: digits ∧ (Text.numeral? base digits).bind charAt? = some c := by
  unfold signedNumeral? at read
  split at read
  next digits => exact .inr ⟨digits, rfl, read⟩
  next => exact .inl (areDigits_of_bind_numeral? read)

/-- Only what has the form of a reference is read as one, and digits behind a plus sign. -/
theorem referenced?_eq_some_cases {body : List Char} {c : Char} (named : referenced? body = some c) :
    isReference body = true ∨ signedReference? body = some c := by
  unfold referenced? at named
  split at named
  next hex =>
    rcases bind_signedNumeral?_cases named with digits | ⟨digits, rfl, read⟩
    · exact .inl digits
    · exact .inr read
  next hex =>
    rcases bind_signedNumeral?_cases named with digits | ⟨digits, rfl, read⟩
    · exact .inl digits
    · exact .inr read
  next decimal noSmall noCapital =>
    rcases bind_signedNumeral?_cases named with digits | ⟨digits, rfl, read⟩
    · left
      rw [isReference]
      · exact digits
      · exact noSmall
      · exact noCapital
    · exact .inr read
  next noSmall noCapital noSign =>
    left
    rw [isReference]
    · obtain ⟨before, behind, listed, -⟩ := List.lookup_eq_some_iff.mp named
      have mem : (String.ofList body, c) ∈ referenceNames := by simp [listed]
      exact List.any_eq_true.mpr ⟨_, mem, by simp⟩
    · exact noSmall
    · exact noCapital
    · exact noSign

theorem referenced?_of_signedReference? {body : List Char} {c : Char}
    (named : signedReference? body = some c) : referenced? body = some c := by
  unfold signedReference? at named
  split at named
  · exact named
  · exact named
  · exact named
  · contradiction

theorem not_mem_of_areDigits {base : Nat} {digits : List Char} (are : areDigits base digits = true)
    {c : Char} (noDigit : Text.digit? base c = none) : c ∉ digits := by
  intro mem
  have isDigit := List.all_eq_true.mp (Bool.and_eq_true_iff.mp are).2 c mem
  rw [noDigit] at isDigit
  contradiction

theorem not_mem_of_isReference {body : List Char} (known : isReference body = true) : ';' ∉ body := by
  unfold isReference at known
  split at known
  next => simpa using not_mem_of_areDigits known (c := ';') rfl
  next => simpa using not_mem_of_areDigits known (c := ';') rfl
  next => simpa using not_mem_of_areDigits known (c := ';') rfl
  next =>
    obtain ⟨entry, mem, same⟩ := List.any_eq_true.mp known
    rw [← of_decide_eq_true same]
    exact (referenced?_of_listed mem).2

theorem not_mem_of_signedReference? {body : List Char} {c : Char}
    (named : signedReference? body = some c) : ';' ∉ body := by
  unfold signedReference? at named
  split at named
  next => simpa using not_mem_of_areDigits (areDigits_of_bind_numeral? named) (c := ';') rfl
  next => simpa using not_mem_of_areDigits (areDigits_of_bind_numeral? named) (c := ';') rfl
  next => simpa using not_mem_of_areDigits (areDigits_of_bind_numeral? named) (c := ';') rfl
  next => contradiction

theorem not_mem_of_referenced? {body : List Char} {c : Char} (named : referenced? body = some c) :
    ';' ∉ body :=
  (referenced?_eq_some_cases named).elim not_mem_of_isReference not_mem_of_signedReference?

/-! ### Texts without references -/

def Encloses (text body : List Char) : Prop :=
  ∃ front back, text = front ++ '&' :: (body ++ ';' :: back)

def HasReference (inForm : List Char → Prop) (text : List Char) : Prop :=
  ∃ body, inForm body ∧ Encloses text body

theorem encloses_iff {text body : List Char} :
    Encloses text body ↔ '&' :: (body ++ [';']) <:+: text := by
  simp [Encloses, List.IsInfix, eq_comm]

instance (text body : List Char) : Decidable (Encloses text body) :=
  decidable_of_iff _ encloses_iff.symm

instance (inForm : List Char → Prop) [DecidablePred inForm] (text : List Char) :
    Decidable (HasReference inForm text) :=
  decidable_of_iff (∃ part ∈ text.tails, ∃ body ∈ part.inits, inForm body ∧ Encloses text body) <| by
    constructor
    · rintro ⟨-, -, body, -, found⟩
      exact ⟨body, found⟩
    · rintro ⟨body, isForm, front, back, rfl⟩
      have behind : body ++ ';' :: back ∈ (front ++ '&' :: (body ++ ';' :: back)).tails :=
        (List.mem_tails _ _).mpr ⟨front ++ ['&'], by simp⟩
      exact ⟨_, behind, body, (List.mem_inits _ _).mpr (List.prefix_append ..), isForm, front, back, rfl⟩

/-- A text is decoded as it stands just if it has no short enough reference to a character. -/
theorem decode_eq_self_iff (text : List Char) :
    decode text = text ↔
      ¬HasReference (fun body => byteSize body ≤ maxReferenceSize ∧ (referenced? body).isSome) text := by
  rw [decode_eq_self_iff_reference?]
  constructor
  · rintro unread ⟨body, ⟨small, named⟩, front, back, split⟩
    obtain ⟨c, named⟩ := Option.isSome_iff_exists.mp named
    have read : reference? (body ++ ';' :: back) = some (c, back) :=
      reference?_eq_some_iff.mpr ⟨body, rfl, not_mem_of_referenced? named, small, named⟩
    rw [unread front _ split] at read
    contradiction
  · rintro without front rest rfl
    cases read : reference? rest with
    | none => rfl
    | some found =>
      obtain ⟨body, rfl, -, small, named⟩ := reference?_eq_some_iff.mp read
      have isReference := Option.isSome_iff_exists.mpr ⟨_, named⟩
      exact absurd ⟨body, ⟨small, isReference⟩, front, found.2, rfl⟩ without

/-- A text in which nothing has the form of a reference is decoded as it stands, just if no digits
with a plus sign in front of them stand for a character in it. -/
theorem decode_eq_self_iff_of_unknown {text : List Char}
    (unknown : ¬HasReference (isReference · = true) text) :
    decode text = text ↔
      ¬HasReference (fun body => byteSize body ≤ maxReferenceSize ∧ (signedReference? body).isSome)
        text := by
  rw [decode_eq_self_iff, not_iff_not]
  constructor
  · rintro ⟨body, ⟨small, named⟩, encloses⟩
    obtain ⟨c, named⟩ := Option.isSome_iff_exists.mp named
    rcases referenced?_eq_some_cases named with known | signed
    · exact absurd ⟨body, known, encloses⟩ unknown
    · exact ⟨body, ⟨small, Option.isSome_iff_exists.mpr ⟨c, signed⟩⟩, encloses⟩
  · rintro ⟨body, ⟨small, named⟩, encloses⟩
    obtain ⟨c, signed⟩ := Option.isSome_iff_exists.mp named
    have named := referenced?_of_signedReference? signed
    exact ⟨body, ⟨small, Option.isSome_iff_exists.mpr ⟨c, named⟩⟩, encloses⟩

/-- An unknown name, a sign without digits, other digits than those of the base, and a reference
without its end. -/
theorem decode_eq_self_iff_of_unknown_malformed :
    let text := "&no; &#+; &&#xG; &amp".toList
    ¬HasReference (isReference · = true) text ∧ decode text = text := by
  intro text
  have unknown : ¬HasReference (isReference · = true) text := by decide +kernel
  exact ⟨unknown, (decode_eq_self_iff_of_unknown unknown).mpr (by decide +kernel)⟩

/-- A plus sign is read in front of the digits of a code point. -/
theorem decode_ne_self_plusSign :
    let text := "&#+65;".toList
    ¬HasReference (isReference · = true) text ∧ decode text = ['A'] ∧ decode text ≠ text := by
  decide +kernel

end DocIndex.Markup
