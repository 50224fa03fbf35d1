import DocIndex.Text.Alphabetic
import DocIndex.Text.Blank
import DocIndex.Text.Digits
import DocIndex.Text.Numeric

/-!
# Runs of characters

A maximal run of characters of a class is read back from what it was followed by, if that does not
begin with another character of the class. Numerals are such runs, and determine their number: zeros
in front of one do not count, nor does the case of its letters.
-/

namespace DocIndex.Text

/-- No character of the class begins the text, so that a run of the class ends before it. -/
def Ends (inClass : Char → Bool) (cs : List Char) : Prop :=
  ∀ c ∈ cs.head?, inClass c = false

@[simp] theorem ends_nil (inClass : Char → Bool) : Ends inClass [] := by
  simp [Ends]

@[simp] theorem ends_cons (inClass : Char → Bool) (c : Char) (cs : List Char) :
    Ends inClass (c :: cs) ↔ inClass c = false := by
  simp [Ends]

theorem Ends.mono {p q : Char → Bool} {cs : List Char} (h : Ends p cs)
    (sub : ∀ c, q c = true → p c = true) : Ends q cs := by
  intro c mem
  have notIn := h c mem
  grind

theorem Ends.of_isPrefix {inClass : Char → Bool} {cs front : List Char} (h : Ends inClass cs)
    (part : front <+: cs) : Ends inClass front := by
  obtain ⟨behind, rfl⟩ := part
  cases front with
  | nil => exact ends_nil inClass
  | cons c front => simpa using h

theorem ends_dropWhile (inClass : Char → Bool) (cs : List Char) :
    Ends inClass (cs.dropWhile inClass) := by
  induction cs with
  | nil => simp
  | cons c cs ih =>
    rw [List.dropWhile_cons]
    split
    · exact ih
    next notIn => simpa using notIn

theorem takeWhile_append_mark {mark c : Char} {cs rest : List Char}
    (dropped : cs.dropWhile (· != mark) = c :: rest) :
    cs.takeWhile (· != mark) ++ mark :: rest = cs := by
  have isMark : c = mark := by
    have stops := ends_dropWhile (· != mark) cs
    rw [dropped, ends_cons] at stops
    simpa using stops
  have whole := List.takeWhile_append_dropWhile (p := (· != mark)) (l := cs)
  rwa [dropped, isMark] at whole

section
variable {inClass : Char → Bool} {run rest : List Char}

theorem takeWhile_eq_nil_of_ends (h : Ends inClass rest) : rest.takeWhile inClass = [] := by
  cases rest with
  | nil => rfl
  | cons c rest => simp [(ends_cons inClass c rest).mp h]

theorem dropWhile_eq_self_of_ends (h : Ends inClass rest) : rest.dropWhile inClass = rest := by
  cases rest with
  | nil => rfl
  | cons c rest => simp [(ends_cons inClass c rest).mp h]

theorem takeWhile_append_of_ends (members : ∀ c ∈ run, inClass c = true)
    (ends : Ends inClass rest) : (run ++ rest).takeWhile inClass = run := by
  rw [List.takeWhile_append_of_pos members, takeWhile_eq_nil_of_ends ends, List.append_nil]

theorem dropWhile_append_of_ends (members : ∀ c ∈ run, inClass c = true)
    (ends : Ends inClass rest) : (run ++ rest).dropWhile inClass = rest := by
  rw [List.dropWhile_append_of_pos members, dropWhile_eq_self_of_ends ends]

end

/-- What holds of texts without a stop, and goes on through a stop, holds of every text. -/
theorem induction_on_runs (isStop : Char → Bool) {P : List Char → Prop}
    (last : ∀ run, (∀ c ∈ run, isStop c = false) → P run)
    (divided : ∀ run c rest, (∀ d ∈ run, isStop d = false) → isStop c = true → P rest →
      P (run ++ c :: rest))
    (cs : List Char) : P cs := by
  have inRun : ∀ d ∈ cs.takeWhile (!isStop ·), isStop d = false := by
    intro d mem
    simpa using List.all_eq_true.mp List.all_takeWhile d mem
  have whole := List.takeWhile_append_dropWhile (p := (!isStop ·)) (l := cs)
  match _h : cs.dropWhile (!isStop ·) with
  | [] =>
    rw [_h, List.append_nil] at whole
    exact last cs (whole ▸ inRun)
  | c :: rest =>
    rw [_h] at whole
    have stops : (!isStop c) = false := (ends_cons ..).mp (_h ▸ ends_dropWhile (!isStop ·) cs)
    rw [← whole]
    exact divided _ c rest inRun (by simpa using stops) (induction_on_runs isStop last divided rest)
termination_by cs.length
decreasing_by
  have shorter := length_dropWhile_le (!isStop ·) cs
  rw [_h, List.length_cons] at shorter
  omega

/-- What a text of two parts begins with ends within the first part, or not. -/
theorem isPrefix_append_cases {part front back : List Char} (h : part <+: front ++ back) :
    (part <+: front ∧ part ≠ front) ∨ ∃ more, part = front ++ more ∧ more <+: back := by
  rcases List.prefix_or_prefix_of_prefix h (List.prefix_append front back) with within | ⟨more, rfl⟩
  · by_cases whole : part = front
    · exact .inr ⟨[], by simp [whole], List.nil_prefix⟩
    · exact .inl ⟨within, whole⟩
  · exact .inr ⟨more, rfl, (List.prefix_append_right_inj front).mp h⟩

theorem append_cons_cases {front back front' back' : List Char} {mark mark' : Char}
    (differ : mark ≠ mark') (same : front ++ mark :: back = front' ++ mark' :: back') :
    (∃ between, front' = front ++ mark :: between ∧ back = between ++ mark' :: back') ∨
      ∃ between, front = front' ++ mark' :: between ∧ back' = between ++ mark :: back := by
  rcases List.append_eq_append_iff.mp same with ⟨more, eq, rest⟩ | ⟨more, eq, rest⟩
  · cases more with
    | nil => exact absurd (List.cons.inj rest).1 differ
    | cons c between =>
      obtain ⟨rfl, rfl⟩ := List.cons.inj rest
      exact .inl ⟨between, eq, rfl⟩
  · cases more with
    | nil => exact absurd (List.cons.inj rest).1.symm differ
    | cons c between =>
      obtain ⟨rfl, rfl⟩ := List.cons.inj rest
      exact .inr ⟨between, eq, rfl⟩

theorem forall_bne {mark : Char} {cs : List Char} (without : mark ∉ cs) :
    ∀ c ∈ cs, (c != mark) = true := by
  intro c mem
  rw [bne_iff_ne]
  rintro rfl
  exact without mem

theorem trim_cons {c : Char} (notBlank : isBlank c = false) (cs : List Char) :
    trim (c :: cs) = c :: trimEnd cs := by
  have first : Ends isBlank (c :: cs) := by simpa using notBlank
  rw [trim, trimStart, dropWhile_eq_self_of_ends first, trimEnd, trimEnd, List.reverse_cons,
    List.dropWhile_append]
  split
  next allBlank => simp [List.isEmpty_iff.mp allBlank, notBlank]
  next => simp

/-! ### ASCII letters and digits -/

/-- What holds of every ASCII character can be checked one by one. -/
theorem forall_ascii {P : Char → Prop} (all : ∀ n < 128, P (Char.ofNat n)) {c : Char}
    (ascii : c.toNat < 128) : P c :=
  Char.ofNat_toNat c ▸ all c.toNat ascii

theorem toLower_eq_self {c : Char} (small : c.isUpper = false) : c.toLower = c := by
  have notCapital : ¬('A'.val ≤ c.val ∧ c.val ≤ 'Z'.val) := of_decide_eq_false small
  exact dif_neg notCapital

theorem toNat_lt_of_isAlphanum {c : Char} (h : c.isAlphanum) : c.toNat < 128 := by
  have letter : c.isAlpha = (c.isUpper || c.isLower) := rfl
  have upper : c.isUpper = decide ('A'.val ≤ c.val ∧ c.val ≤ 'Z'.val) := rfl
  have lower : c.isLower = ('a'.val ≤ c.val && c.val ≤ 'z'.val) := rfl
  simp only [Char.isAlphanum, letter, upper, lower, Char.isDigit, Bool.or_eq_true,
    Bool.and_eq_true, decide_eq_true_eq, ge_iff_le, UInt32.le_iff_toNat_le] at h
  simp only [Char.toNat]
  grind

theorem isAlphabetic_of_isAlpha {c : Char} (h : c.isAlpha) : isAlphabetic c := by
  have ascii : c.toNat < 128 := toNat_lt_of_isAlphanum (by simp [Char.isAlphanum, h])
  simp [isAlphabetic, ascii, h]

theorem isNumeric_of_isDigit {c : Char} (h : c.isDigit) : isNumeric c := by
  have ascii : c.toNat < 128 := toNat_lt_of_isAlphanum (by simp [Char.isAlphanum, h])
  simp [isNumeric, ascii, h]

theorem isBlank_eq_false_of_isAlphanum {c : Char} (h : c.isAlphanum) : isBlank c = false :=
  forall_ascii (P := fun c => c.isAlphanum → isBlank c = false) (by decide)
    (toNat_lt_of_isAlphanum h) h

/-! ### Numerals -/

theorem digit?_eq_filter {base : Nat} (small : base ≤ 16) (c : Char) :
    digit? base c = (digit? 16 c).filter (· < base) := by
  simp only [digit?, Option.filter_filter]
  congr 1
  funext value
  grind

theorem digit?_digitChar {base value : Nat} (small : base ≤ 16) (isDigit : value < base) :
    digit? base value.digitChar = some value := by
  have wide : ∀ value < 16, digit? 16 value.digitChar = some value := by decide
  rw [digit?_eq_filter small, wide value (Nat.lt_of_lt_of_le isDigit small)]
  simp [isDigit]

/-- The digits of a number are read as that number. -/
theorem foldlM_digit?_toDigits {base : Nat} (wide : 1 < base) (small : base ≤ 16) (n : Nat) :
    (Nat.toDigits base n).foldlM (fun n c => (digit? base c).map (base * n + ·)) 0 = some n := by
  -- The last digit goes, until one is left.
  induction n using Nat.strongRecOn with
  | ind n ih =>
    by_cases single : n < base
    · rw [Nat.toDigits_of_lt_base single]
      simp [digit?_digitChar small single]
    · have positive : 0 < n / base := Nat.div_pos (Nat.le_of_not_lt single) (by omega)
      have last : n % base < base := Nat.mod_lt n (by omega)
      have whole : Nat.toDigits base n = Nat.toDigits base (n / base) ++ [(n % base).digitChar] := by
        rw [← Nat.toDigits_of_lt_base last, Nat.toDigits_append_toDigits wide positive last,
          Nat.div_add_mod]
      rw [whole, List.foldlM_append, ih (n / base) (Nat.div_lt_self (by omega) wide)]
      simp [digit?_digitChar small last, Nat.div_add_mod]

theorem numeral?_toDigits {base : Nat} (wide : 1 < base) (small : base ≤ 16) (n : Nat) :
    numeral? base (Nat.toDigits base n) = some n := by
  rw [numeral?, if_neg (by simp [Nat.toDigits_ne_nil]), foldlM_digit?_toDigits wide small]

theorem not_mem_of_numeral? {base n : Nat} {cs : List Char} (read : numeral? base cs = some n)
    {c : Char} (noDigit : digit? base c = none) : c ∉ cs := by
  rw [numeral?, Option.ite_none_left_eq_some] at read
  replace read := read.2
  generalize 0 = start at read
  intro mem
  induction cs generalizing start with
  | nil => contradiction
  | cons d cs ih =>
    rw [List.foldlM_cons, Option.bind_eq_bind, Option.bind_eq_some_iff] at read
    obtain ⟨next, first, read⟩ := read
    rcases List.mem_cons.mp mem with rfl | mem
    · rw [noDigit] at first
      contradiction
    · exact ih next read mem

/-- Zeros in front of a numeral do not count. -/
theorem numeral?_zeros_append {base : Nat} (wide : 1 < base) {cs : List Char} (nonempty : cs ≠ [])
    (zeros : Nat) : numeral? base (List.replicate zeros '0' ++ cs) = numeral? base cs := by
  have zero : digit? base '0' = some 0 := by
    have : 0 < base := by omega
    simp [digit?, this]
  have skipped : (List.replicate zeros '0').foldlM
      (fun n c => (digit? base c).map (base * n + ·)) 0 = some 0 := by
    induction zeros with
    | zero => rfl
    | succ zeros ih => simpa [List.replicate_succ, zero] using ih
  simp [numeral?, nonempty, skipped]

theorem digit?_toLower {base : Nat} (small : base ≤ 16) (c : Char) :
    digit? base c.toLower = digit? base c := by
  cases capital : c.isUpper with
  | false => rw [toLower_eq_self capital]
  | true =>
    have letter : c.isAlpha = true := Bool.or_eq_true_iff.mpr (.inl capital)
    have ascii : c.toNat < 128 := toNat_lt_of_isAlphanum (by simp [Char.isAlphanum, letter])
    have same : digit? 16 c.toLower = digit? 16 c :=
      forall_ascii (P := fun c => digit? 16 c.toLower = digit? 16 c) (by decide) ascii
    rw [digit?_eq_filter small, same, ← digit?_eq_filter small]

/-- The letters of a numeral may be small or capital. -/
theorem numeral?_map_toLower {base : Nat} (small : base ≤ 16) (cs : List Char) :
    numeral? base (cs.map Char.toLower) = numeral? base cs := by
  simp only [numeral?, List.isEmpty_map, List.foldlM_map, digit?_toLower small]

/-! ### Decimal numerals -/

theorem isDigit_of_mem_decimal {n : Nat} {c : Char} (h : c ∈ decimal n) : c.isDigit :=
  Nat.isDigit_of_mem_toDigits (by decide) (by decide) h

theorem decimal_ne_nil (n : Nat) : decimal n ≠ [] :=
  Nat.toDigits_ne_nil

theorem ends_decimal_append {p : Char → Bool} (noDigit : ∀ c, c.isDigit → p c = false) (n : Nat)
    (rest : List Char) : Ends p (decimal n ++ rest) := by
  obtain ⟨c, cs, eq⟩ := List.exists_cons_of_ne_nil (decimal_ne_nil n)
  rw [eq, List.cons_append, ends_cons]
  exact noDigit c (isDigit_of_mem_decimal (eq ▸ List.mem_cons_self))

theorem decimal?_decimal (n : Nat) : decimal? (decimal n) = some n :=
  numeral?_toDigits (by decide) (by decide) n

theorem digit?_lt {base : Nat} {c : Char} {value : Nat} (read : digit? base c = some value) :
    value < base := by
  simpa using (Option.filter_eq_some_iff.mp read).2

theorem length_decimal_of_lt_ten {value : Nat} (small : value < 10) :
    (decimal value).length = 1 := by
  rw [decimal, Nat.toDigits_of_lt_base small, List.length_singleton]

theorem length_decimal_push {value : Nat} (small : value < 10) (n : Nat) :
    (decimal (10 * n + value)).length ≤ (decimal n).length + 1 := by
  rcases Nat.eq_zero_or_pos n with rfl | positive
  · rw [Nat.mul_zero, Nat.zero_add, length_decimal_of_lt_ten small]
    omega
  · have pushed : decimal n ++ decimal value = decimal (10 * n + value) :=
      Nat.toDigits_append_toDigits (by decide) positive small
    exact Nat.le_of_eq (by rw [← pushed, List.length_append, length_decimal_of_lt_ten small])

theorem length_decimal_foldlM {cs : List Char} {start n : Nat}
    (read : cs.foldlM (fun n c => (digit? 10 c).map (10 * n + ·)) start = some n) :
    (decimal n).length ≤ (decimal start).length + cs.length := by
  induction cs generalizing start with
  | nil =>
    obtain rfl : start = n := by simpa using read
    simp
  | cons c cs ih =>
    simp only [List.foldlM_cons, Option.bind_eq_bind, Option.bind_eq_some_iff,
      Option.map_eq_some_iff] at read
    obtain ⟨_, ⟨value, isDigit, rfl⟩, read⟩ := read
    calc (decimal n).length ≤ (decimal (10 * start + value)).length + cs.length := ih read
      _ ≤ (decimal start).length + 1 + cs.length :=
        Nat.add_le_add_right (length_decimal_push (digit?_lt isDigit) start) _
      _ = (decimal start).length + (c :: cs).length := by
        rw [List.length_cons]
        omega

/-- The numeral of a number is the shortest that writes it. -/
theorem length_decimal_le {cs : List Char} {n : Nat} (read : decimal? cs = some n) :
    (decimal n).length ≤ cs.length := by
  cases cs with
  | nil => contradiction
  | cons c cs =>
    simp only [decimal?, numeral?, List.isEmpty_cons, Bool.false_eq_true, if_false,
      List.foldlM_cons, Option.bind_eq_bind, Option.bind_eq_some_iff, Option.map_eq_some_iff,
      Nat.mul_zero, Nat.zero_add] at read
    obtain ⟨_, ⟨value, isDigit, rfl⟩, read⟩ := read
    have others := length_decimal_foldlM read
    rw [length_decimal_of_lt_ten (digit?_lt isDigit)] at others
    rw [List.length_cons]
    omega

end DocIndex.Text
