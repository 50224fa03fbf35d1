import DocIndex.Proofs.Snapshot.Lexeme

/-!
# Quoted text in front of anything

A text has the same tokens wherever it stands in a line, and the same error if it has one, only at
other places (`tokensFrom_add`). So what stands behind a quoted atom or string is read as it is read
alone, if it does not go on with the quoted text.
-/

namespace DocIndex.Snapshot

/-- What is read of a text, tokens or an error, when so many more characters stand before it. -/
def shifted (distance : Nat) :
    Except (Nat × LexicalError) (List (Nat × Token)) →
      Except (Nat × LexicalError) (List (Nat × Token))
  | .ok found => .ok (found.map fun read => (read.1 + distance, read.2))
  | .error failed => .error (failed.1 + distance, failed.2)

theorem shifted_map_cons (distance before : Nat) (token : Token)
    (read : Except (Nat × LexicalError) (List (Nat × Token))) :
    shifted distance (read.map ((before, token) :: ·)) =
      (shifted distance read).map ((before + distance, token) :: ·) := by
  cases read <;> rfl

/-- A text is read in the same way behind more characters. -/
theorem tokensFrom_add (before distance : Nat) (cs : List Char) :
    tokensFrom (before + distance) cs = shifted distance (tokensFrom before cs) := by
  fun_induction tokensFrom before cs with
  | case1 before =>
    rw [tokensFrom_nil]
    rfl
  | case2 before c cs blank ih => rw [tokensFrom_of_isBlank _ blank, Nat.add_right_comm, ih]
  | case3 before c cs notBlank cause failed =>
    rw [tokensFrom_of_firstToken_error _ (Bool.eq_false_iff.mpr notBlank) failed]
    rfl
  | case4 before c cs notBlank read found ih =>
    rw [tokensFrom_of_firstToken _ (Bool.eq_false_iff.mpr notBlank) found, shifted_map_cons, ← ih,
      Nat.add_right_comm]

theorem tokens_spelling_append {lexeme : Lexeme} (readable : lexeme.IsReadable) {rest : List Char}
    (ends : Text.Ends lexeme.joins rest) :
    tokens (lexeme.spelling ++ rest) =
      (shifted lexeme.spelling.length (tokens rest)).map (lexeme.placed 0 ++ ·) := by
  rw [tokens, tokensFrom_spelling_append readable ends, tokensFrom_add, tokens]

/-- An atom or a string is read back from its quoted form, and what stands behind it is read as it
is read alone, or fails as it fails alone, further on by the length of the quoted form. An atom may
not be followed by a part of a word or a single quote, a string not by a double quote. A quoted form
is always on one line. -/
theorem tokens_quoted_append :
    (∀ (text : String) (rest : List Char),
        Text.Ends (fun c => isWordPart c || c == '\'') rest →
          tokens (quoteAtom text.toList ++ rest) =
            (shifted (quoteAtom text.toList).length (tokens rest)).map ((0, .atom text) :: ·)) ∧
      (∀ (text : String) (rest : List Char), Text.Ends (· == '"') rest →
        tokens (quoteString text.toList ++ rest) =
          (shifted (quoteString text.toList).length (tokens rest)).map ((0, .string text) :: ·)) ∧
      ∀ cs, IsOneLine (quoteAtom cs) ∧ IsOneLine (quoteString cs) := by
  refine ⟨?_, ?_, ?_⟩
  · intro text rest ends
    have readable : Lexeme.IsReadable (.token (.atom text)) := trivial
    exact tokens_spelling_append readable ends
  · intro text rest ends
    have readable : Lexeme.IsReadable (.token (.string text)) := trivial
    exact tokens_spelling_append readable ends
  · intro cs
    exact ⟨isOneLine_quoteAtom cs, isOneLine_quoteWith (.inr rfl) cs⟩

/-- A plain atom in front of a slash, and texts with a quote and a backslash at the end in front of
a quote that is never closed. -/
theorem tokens_quoted_append_backslash :
    (Text.Ends (fun c => isWordPart c || c == '\'') ['/'] ∧
        tokens ("append".toList ++ ['/']) = .ok [(0, .atom "append"), (6, .slash)]) ∧
      (Text.Ends (fun c => isWordPart c || c == '\'') ['"'] ∧
        tokens ("'it\\'s \\'\\\\'".toList ++ ['"']) = .error (12, .unterminatedQuote)) ∧
      Text.Ends (· == '"') ['\''] ∧
        tokens ("\"it's \\\"\\\\\"".toList ++ ['\'']) = .error (11, .unterminatedQuote) := by
  have ⟨atoms, strings, _⟩ := tokens_quoted_append
  have slash : tokens ['/'] = .ok [(0, .slash)] := by
    rw [tokens, tokensFrom_of_firstToken 0 (by decide) rfl, tokensFrom_nil]
    rfl
  have unclosed {quote : Char} (isQuote : IsQuote quote) :
      tokens [quote] = .error (0, .unterminatedQuote) := by
    apply tokensFrom_of_firstToken_error
    · rcases isQuote with rfl | rfl <;> decide
    · rw [firstToken_of_isQuote isQuote]
      rfl
  have noWord : Text.Ends (fun c => isWordPart c || c == '\'') ['/'] := by simp; decide
  have noQuote : Text.Ends (fun c => isWordPart c || c == '\'') ['"'] := by simp; decide
  have single : Text.Ends (· == '"') ['\''] := by simp
  have plain := atoms "append" ['/'] noWord
  have quoted := atoms "it's '\\" ['"'] noQuote
  have string := strings "it's \"\\" ['\''] single
  rw [slash] at plain
  rw [unclosed (.inr rfl)] at quoted
  rw [unclosed (.inl rfl)] at string
  exact ⟨⟨noWord, plain⟩, ⟨noQuote, quoted⟩, single, string⟩

end DocIndex.Snapshot
