import DocIndex.Proofs.Snapshot.RoundTrip

/-!
# Which lines are records

A line is read as a record just if the record can be stored and the line has the tokens of the
record's own line, so that only blanks, quotes and the spelling of numbers are left to choose
(`readRecord_eq_ok_iff`). What the tokens of a record are like therefore holds of every line that is
accepted.
-/

namespace DocIndex.Snapshot

/-! ### Offsets of more than 64 bits -/

theorem tokensFrom_decimal_error {n : Nat} (large : UInt64.size ≤ n) {rest : List Char}
    (ends : Text.Ends Char.isDigit rest) (before : Nat) :
    tokensFrom before (Text.decimal n ++ rest) = .error (before, .integerRange) := by
  have digits : ∀ c ∈ Text.decimal n, c.isDigit := fun _ => Text.isDigit_of_mem_decimal
  have value : integerToken? (Text.decimal n) = none := by
    rw [integerToken?, Text.decimal?_decimal]
    exact if_neg (Nat.not_lt_of_le large)
  obtain ⟨c, cs, eq⟩ := List.exists_cons_of_ne_nil (Text.decimal_ne_nil n)
  rw [eq] at digits value ⊢
  obtain ⟨first, others⟩ := List.forall_mem_cons.mp digits
  have notBlank : Text.isBlank c = false :=
    Text.isBlank_eq_false_of_isAlphanum (by simp [Char.isAlphanum, first])
  have failed : firstToken c (cs ++ rest) = .error .integerRange := by
    rw [firstToken_of_isDigit first, Text.takeWhile_append_of_ends others ends, value]
  exact tokensFrom_of_firstToken_error before notBlank failed

theorem offset_lt_of_tokens_writeRecord {r : Record} {written : List (Nat × Token)}
    (read : tokens (writeRecord r) = .ok written) : r.offset < UInt64.size := by
  apply Nat.lt_of_not_le
  intro large
  obtain ⟨front, split⟩ : ∃ front : List Lexeme, ∀ offset,
      lexemes { r with offset } =
        front ++ [.token (.int offset), .token .rparen, .token .stop] :=
    ⟨[.token (.atom "record"), .token .lparen] ++ r.object.tokens.map Lexeme.token ++
      [.token .comma, .space, .token (.string r.summary), .token .comma, .space,
        .quotedAtom r.file.text, .token .comma, .space, .token (.atom r.pageClass.name),
        .token .comma, .space], fun offset => by simp [lexemes]⟩
  have readable : ∀ lexeme ∈ front, lexeme.IsReadable := by
    intro lexeme mem
    have zero : 0 < UInt64.size := by decide
    have written : lexeme ∈ lexemes { r with offset := 0 } :=
      split 0 ▸ List.mem_append_left _ mem
    exact isReadable_of_mem_lexemes zero written
  have separated := (split r.offset ▸ separated_lexemes r).front
  have ends : Text.Ends Char.isDigit [')', '.'] := by simp
  have failed := tokensFrom_decimal_error large ends (0 + (spell front).length)
  have whole := tokensFrom_spell_append readable separated 0
  rw [List.append_nil, ← spell_append, ← split r.offset, ← writeRecord_eq_spell] at whole
  rw [tokens, whole] at read
  rw [show spell [.token (.int r.offset), .token .rparen, .token .stop] =
    Text.decimal r.offset ++ [')', '.'] from rfl, failed] at read
  cases read

/-! ### The shape of a record -/

/-- The number of commas in one pair of parentheses, not counting those in further pairs within,
behind as many opening parentheses as given. -/
def outerCommas (depth : Nat) : List Token → Nat
  | [] => 0
  | .lparen :: rest => outerCommas (depth + 1) rest
  | .rparen :: rest => outerCommas (depth - 1) rest
  | .comma :: rest => (if depth = 1 then 1 else 0) + outerCommas depth rest
  | _ :: rest => outerCommas depth rest

theorem outerCommas_append_tokens (object : Object) (rest : List Token) :
    outerCommas 1 (object.tokens ++ rest) = outerCommas 1 rest := by
  induction object with
  | qualified module inner ih => exact ih
  | _ => simp [Object.tokens, outerCommas]

theorem outerCommas_tokens (r : Record) : outerCommas 0 r.tokens = 4 := by
  rw [Record.tokens, List.append_assoc, List.cons_append, List.cons_append, List.nil_append]
  exact outerCommas_append_tokens r.object _

theorem var_not_mem_tokens (r : Record) (name : String) : Token.var name ∉ r.tokens := by
  intro mem
  simp only [Record.tokens, List.mem_append, List.mem_cons, reduceCtorEq, List.not_mem_nil,
    or_false, false_or] at mem
  exact isReadable_token_of_mem mem

theorem exists_tokens_eq (r : Record) :
    ∃ front, r.tokens = front ++ [Token.stop] ∧ Token.stop ∉ front :=
  ⟨[.atom "record", .lparen] ++ r.object.tokens ++ [.comma, .string r.summary, .comma,
    .atom r.file.text, .comma, .atom r.pageClass.name, .comma, .int r.offset, .rparen],
    by simp [Record.tokens], by simp [stop_not_mem_tokens]⟩

/-! ### Lines -/

theorem readRecord_eq_ok_iff_tokens {line : List Char} {r : Record} :
    readRecord line = .ok r ↔
      r.IsStorable ∧ ∃ found, tokens line = .ok found ∧ found.map Prod.snd = r.tokens := by
  unfold readRecord
  cases tokens line with
  | error cause => simp
  | ok found => simp [ofTokens_eq_ok_iff, Record.IsStorable, and_comm]

/-- A line is read as a record just if the record can be stored and the line has the same tokens as
the line that is written for it. So no line is accepted with a variable in it, with more or fewer
fields than five, or with anything behind its end. -/
theorem readRecord_eq_ok_iff (line : List Char) (r : Record) :
    (readRecord line = .ok r ↔
      r.IsStorable ∧ ∃ found written, tokens line = .ok found ∧
        tokens (writeRecord r) = .ok written ∧
        found.map Prod.snd = written.map Prod.snd) ∧
    (readRecord line = .ok r → ∃ found, tokens line = .ok found ∧
      (∀ name, .var name ∉ found.map Prod.snd) ∧
      outerCommas 0 (found.map Prod.snd) = 4 ∧
      ∃ front, found.map Prod.snd = front ++ [.stop] ∧ .stop ∉ front) := by
  have ofWritten : (place 0 (lexemes r)).map Prod.snd = r.tokens := by
    rw [map_snd_place, filterMap_token?_lexemes]
  refine ⟨⟨?_, ?_⟩, ?_⟩
  · intro read
    obtain ⟨storable, found, isLine, same⟩ := readRecord_eq_ok_iff_tokens.mp read
    have written := tokens_writeRecord (storable_of_readRecord read).2
    exact ⟨storable, found, _, isLine, written, same.trans ofWritten.symm⟩
  · rintro ⟨storable, found, written, isLine, isWritten, same⟩
    have small := offset_lt_of_tokens_writeRecord isWritten
    rw [tokens_writeRecord small] at isWritten
    cases isWritten
    exact readRecord_eq_ok_iff_tokens.mpr ⟨storable, found, isLine, same.trans ofWritten⟩
  · intro read
    obtain ⟨-, found, isLine, same⟩ := readRecord_eq_ok_iff_tokens.mp read
    refine ⟨found, isLine, ?_⟩
    rw [same]
    exact ⟨var_not_mem_tokens r, outerCommas_tokens r, exists_tokens_eq r⟩

end DocIndex.Snapshot
