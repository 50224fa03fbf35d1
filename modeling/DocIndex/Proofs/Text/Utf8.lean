import DocIndex.Text.Utf8

/-!
# Text as bytes and back

Text that is written as bytes is read again as it was (`ofBytes_toBytes`). Whatever bytes are read,
the ASCII characters in them are told by their bytes alone: none of the others is read as one
(`not_ascii_characterFrom`), because the bounds on the bytes behind the first one of a character
leave out what could be written shorter.
-/

namespace DocIndex.Text

/-! ### Characters above ASCII -/

theorem lead?_of_two {b : UInt8} (low : 0xC2 ≤ b.toNat) (high : b.toNat ≤ 0xDF) :
    lead? b = some ⟨b.toNat - 0xC0, 1, 0x80, 0xBF⟩ := by
  have notBelow : ¬b < 0xC2 := by simpa [UInt8.lt_iff_toNat_lt] using low
  rw [lead?, if_neg notBelow, if_pos (by simpa [UInt8.le_iff_toNat_le] using high)]

theorem lead?_of_three {b : UInt8} (low : 0xE0 ≤ b.toNat) (high : b.toNat ≤ 0xEF) :
    lead? b = some ⟨b.toNat - 0xE0, 2, if b.toNat = 0xE0 then 0xA0 else 0x80,
      if b.toNat = 0xED then 0x9F else 0xBF⟩ := by
  unfold lead?
  simp only [UInt8.lt_iff_toNat_lt, UInt8.le_iff_toNat_le, ← UInt8.toNat_inj, UInt8.reduceToNat]
  grind

theorem lead?_of_four {b : UInt8} (low : 0xF0 ≤ b.toNat) (high : b.toNat ≤ 0xF4) :
    lead? b = some ⟨b.toNat - 0xF0, 3, if b.toNat = 0xF0 then 0x90 else 0x80,
      if b.toNat = 0xF4 then 0x8F else 0xBF⟩ := by
  unfold lead?
  simp only [UInt8.lt_iff_toNat_lt, UInt8.le_iff_toNat_le, ← UInt8.toNat_inj, UInt8.reduceToNat]
  grind

theorem lead?_eq_some {b : UInt8} {lead : Lead} (reads : lead? b = some lead) :
    0xC2 ≤ b.toNat ∧ b.toNat ≤ 0xF4 := by
  unfold lead? at reads
  simp only [UInt8.lt_iff_toNat_lt, UInt8.le_iff_toNat_le, ← UInt8.toNat_inj, UInt8.reduceToNat]
    at reads
  grind

theorem continueCharacter_bounds {value n read : Nat} {least greatest : UInt8} {bytes : List UInt8}
    (reads : (continueCharacter value least greatest (n + 1) bytes).1 = some read) :
    Nat.pow 64 n * (64 * value + (least.toNat - 0x80)) ≤ read ∧
      read < Nat.pow 64 n * (64 * value + (greatest.toNat - 0x80) + 1) := by
  induction n generalizing value least greatest bytes with
  | zero =>
    cases bytes with
    | nil => cases reads
    | cons b bytes =>
      rw [continueCharacter] at reads
      split at reads
      next within =>
        simp only [Bool.and_eq_true, decide_eq_true_eq, UInt8.le_iff_toNat_le] at within
        simp only [continueCharacter, Option.some.injEq] at reads
        subst reads
        simp only [Nat.pow]
        omega
      next => cases reads
  | succ n ih =>
    cases bytes with
    | nil => cases reads
    | cons b bytes =>
      rw [continueCharacter] at reads
      split at reads
      next within =>
        simp only [Bool.and_eq_true, decide_eq_true_eq, UInt8.le_iff_toNat_le] at within
        obtain ⟨low, high⟩ := ih reads
        simp only [UInt8.reduceToNat] at low high
        rw [Nat.pow_eq, Nat.pow_succ, Nat.mul_assoc, Nat.mul_assoc, ← Nat.pow_eq]
        constructor
        · exact Nat.le_trans (Nat.mul_le_mul_left _ (by omega)) low
        · exact Nat.lt_of_lt_of_le high (Nat.mul_le_mul_left _ (by omega))
      next => cases reads

theorem toNat_ofNat_of_isValidChar {n : Nat} (valid : n.isValidChar) : (Char.ofNat n).toNat = n := by
  rw [Char.ofNat, dif_pos valid]
  rfl

theorem not_ascii_characterFrom (b : UInt8) (bytes : List UInt8) :
    0x80 ≤ (characterFrom b bytes).1.toNat := by
  unfold characterFrom
  split
  next => exact Nat.le_of_ble_eq_true rfl
  next lead reads =>
    dsimp only
    cases read : (continueCharacter lead.value lead.least lead.greatest lead.following bytes).1 with
    | none => decide
    | some value =>
      have above : 0x80 ≤ value ∧ value.isValidChar := by
        obtain ⟨low, high⟩ := lead?_eq_some reads
        simp only [Nat.isValidChar]
        rcases Nat.lt_or_ge 0xDF b.toNat with three | two
        · rcases Nat.lt_or_ge 0xEF b.toNat with four | three'
          · rw [lead?_of_four four high, Option.some.injEq] at reads
            subst reads
            obtain ⟨least, greatest⟩ := continueCharacter_bounds read
            simp only [apply_ite UInt8.toNat, UInt8.reduceToNat, Nat.pow_eq,
              Nat.reducePow] at least greatest
            split at least <;> split at greatest <;> omega
          · rw [lead?_of_three three three', Option.some.injEq] at reads
            subst reads
            obtain ⟨least, greatest⟩ := continueCharacter_bounds read
            simp only [apply_ite UInt8.toNat, UInt8.reduceToNat, Nat.pow_eq,
              Nat.reducePow] at least greatest
            split at least <;> split at greatest <;> omega
        · rw [lead?_of_two low two, Option.some.injEq] at reads
          subst reads
          obtain ⟨least, greatest⟩ := continueCharacter_bounds read
          simp only [UInt8.reduceToNat, Nat.pow_eq, Nat.reducePow] at least greatest
          omega
      rw [Option.map_some, Option.getD_some, toNat_ofNat_of_isValidChar above.2]
      exact above.1

/-! ### Characters as they are written -/

theorem continueCharacter_cons {value n : Nat} {least greatest b : UInt8}
    (above : least.toNat ≤ b.toNat) (below : b.toNat ≤ greatest.toNat) (bytes : List UInt8) :
    continueCharacter value least greatest (n + 1) (b :: bytes) =
      continueCharacter (64 * value + (b.toNat - 0x80)) 0x80 0xBF n bytes := by
  rw [continueCharacter, if_pos]
  simpa [UInt8.le_iff_toNat_le] using ⟨above, below⟩

theorem characterFrom_of_read {b : UInt8} {bytes rest : List UInt8} {lead : Lead} {c : Char}
    (leads : lead? b = some lead)
    (reads : continueCharacter lead.value lead.least lead.greatest lead.following bytes =
      (some c.toNat, rest)) : characterFrom b bytes = (c, rest) := by
  rw [characterFrom, leads]
  simp [reads]

theorem ofBytes_cons {b : UInt8} (above : 0x80 ≤ b.toNat) (bytes : List UInt8) :
    ofBytes (b :: bytes) = (characterFrom b bytes).1 :: ofBytes (characterFrom b bytes).2 := by
  rw [ofBytes, if_neg]
  simpa [UInt8.lt_iff_toNat_lt] using above

theorem ofBytes_utf8EncodeChar_append (c : Char) (rest : List UInt8) :
    ofBytes (String.utf8EncodeChar c ++ rest) = c :: ofBytes rest := by
  have valid : c.toNat.isValidChar := c.valid
  simp only [Nat.isValidChar] at valid
  have number : c.val.toNat = c.toNat := rfl
  simp only [String.utf8EncodeChar, number]
  split
  next one =>
    have byte : (UInt8.ofNat c.toNat).toNat = c.toNat := by simp; omega
    rw [List.singleton_append, ofBytes, if_pos, byte, Char.ofNat_toNat]
    simp [UInt8.lt_iff_toNat_lt]
    omega
  split
  next two =>
    have read : characterFrom (UInt8.ofNat (c.toNat / 64 % 0x20 + 0xC0))
        (UInt8.ofNat (c.toNat % 0x40 + 0x80) :: rest) = (c, rest) := by
      refine characterFrom_of_read (lead?_of_two (by simp; omega) (by simp; omega)) ?_
      rw [continueCharacter_cons (by simp; omega) (by simp; omega), continueCharacter]
      simp
      omega
    rw [List.cons_append, List.singleton_append, ofBytes_cons (by simp; omega), read]
  split
  next three =>
    have read : characterFrom (UInt8.ofNat (c.toNat / 4096 % 0x10 + 0xE0))
        (UInt8.ofNat (c.toNat / 64 % 0x40 + 0x80) :: UInt8.ofNat (c.toNat % 0x40 + 0x80) :: rest) =
          (c, rest) := by
      refine characterFrom_of_read (lead?_of_three (by simp; omega) (by simp; omega)) ?_
      rw [continueCharacter_cons, continueCharacter_cons (by simp; omega) (by simp; omega),
        continueCharacter]
      · simp
        omega
      · simp only [apply_ite UInt8.toNat, UInt8.reduceToNat]
        simp
        split <;> omega
      · simp only [apply_ite UInt8.toNat, UInt8.reduceToNat]
        simp
        split <;> omega
    rw [List.cons_append, List.cons_append, List.singleton_append, ofBytes_cons (by simp; omega),
      read]
  next four =>
    have read : characterFrom (UInt8.ofNat (c.toNat / 262144 % 0x08 + 0xF0))
        (UInt8.ofNat (c.toNat / 4096 % 0x40 + 0x80) :: UInt8.ofNat (c.toNat / 64 % 0x40 + 0x80) ::
          UInt8.ofNat (c.toNat % 0x40 + 0x80) :: rest) = (c, rest) := by
      refine characterFrom_of_read (lead?_of_four (by simp; omega) (by simp; omega)) ?_
      rw [continueCharacter_cons, continueCharacter_cons (by simp; omega) (by simp; omega),
        continueCharacter_cons (by simp; omega) (by simp; omega), continueCharacter]
      · simp
        omega
      · simp only [apply_ite UInt8.toNat, UInt8.reduceToNat]
        simp
        split <;> omega
      · simp only [apply_ite UInt8.toNat, UInt8.reduceToNat]
        simp
        split <;> omega
    rw [List.cons_append, List.cons_append, List.cons_append, List.singleton_append,
      ofBytes_cons (by simp; omega), read]

/-- Text that is written is read again. -/
theorem ofBytes_toBytes (text : List Char) : ofBytes (toBytes text) = text := by
  induction text with
  | nil => rw [toBytes, List.flatMap_nil, ofBytes]
  | cons c text ih =>
    rw [toBytes, List.flatMap_cons, ofBytes_utf8EncodeChar_append]
    exact congrArg (c :: ·) ih

/-! ### ASCII -/

theorem toBytes_cons_of_ascii {c : Char} (ascii : c.toNat < 0x80) (text : List Char) :
    toBytes (c :: text) = UInt8.ofNat c.toNat :: toBytes text := by
  have number : c.val.toNat = c.toNat := rfl
  rw [toBytes, List.flatMap_cons, String.utf8EncodeChar, number, if_pos (Nat.le_of_lt_succ ascii)]
  rfl

theorem toNat_ofNat_of_isAscii {b : UInt8} (isAscii : b < 0x80) :
    (Char.ofNat b.toNat).toNat = b.toNat := by
  rw [UInt8.lt_iff_toNat_lt] at isAscii
  exact toNat_ofNat_of_isValidChar (.inl (Nat.lt_trans isAscii (by decide)))

theorem continueCharacter_isSuffix (value : Nat) (least greatest : UInt8) (n : Nat)
    (bytes : List UInt8) : (continueCharacter value least greatest n bytes).2 <:+ bytes := by
  induction n generalizing value least greatest bytes with
  | zero => exact List.suffix_refl bytes
  | succ n ih =>
    cases bytes with
    | nil => exact List.suffix_refl []
    | cons b bytes =>
      rw [continueCharacter]
      split
      · exact (ih ..).trans (List.suffix_cons b bytes)
      · exact List.suffix_refl _

theorem characterFrom_isSuffix (b : UInt8) (bytes : List UInt8) :
    (characterFrom b bytes).2 <:+ bytes := by
  unfold characterFrom
  split
  · exact List.suffix_refl bytes
  · exact continueCharacter_isSuffix ..

theorem mem_of_mem_ofBytes {c : Char} (ascii : c.toNat < 0x80) {bytes : List UInt8}
    (mem : c ∈ ofBytes bytes) : UInt8.ofNat c.toNat ∈ bytes := by
  fun_induction ofBytes bytes with
  | case1 => cases mem
  | case2 b bytes isAscii ih =>
    rcases List.mem_cons.mp mem with rfl | mem
    · rw [toNat_ofNat_of_isAscii isAscii, UInt8.ofNat_toNat]
      exact List.mem_cons_self
    · exact List.mem_cons_of_mem b (ih mem)
  | case3 b bytes notAscii read ih =>
    rcases List.mem_cons.mp mem with rfl | mem
    · exact absurd ascii (Nat.not_lt.mpr (not_ascii_characterFrom b bytes))
    · exact List.mem_cons_of_mem b ((characterFrom_isSuffix b bytes).subset (ih mem))

/-- Bytes that are read as ASCII are just what is written for it. -/
theorem eq_toBytes_of_ascii {bytes : List UInt8} (ascii : ∀ c ∈ ofBytes bytes, c.toNat < 0x80) :
    bytes = toBytes (ofBytes bytes) := by
  fun_induction ofBytes bytes with
  | case1 => rfl
  | case2 b bytes isAscii ih =>
    obtain ⟨here, others⟩ := List.forall_mem_cons.mp ascii
    rw [toBytes_cons_of_ascii here, toNat_ofNat_of_isAscii isAscii, UInt8.ofNat_toNat, ← ih others]
  | case3 b bytes notAscii read ih =>
    have here := (List.forall_mem_cons.mp ascii).1
    exact absurd here (Nat.not_lt.mpr (not_ascii_characterFrom b bytes))

end DocIndex.Text
