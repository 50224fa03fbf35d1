import DocIndex.Object.Surface
import DocIndex.Proofs.Text.Run
import DocIndex.Record
import DocIndex.Snapshot.Token

/-!
# Lexemes

A lexeme is a token as a snapshot spells it, or the space between two tokens. What a lexeme spells
is read back as its token in front of every text that does not begin with a character that would
be read as a part of it (`tokensFrom_spelling_append`), so the tokens of spelled lexemes are theirs,
each at its place (`tokensFrom_spell_append`).
-/

namespace DocIndex.Snapshot

/-! ### Quoted text -/

def IsQuote (quote : Char) : Prop :=
  quote = '\'' ∨ quote = '"'

theorem readQuoted?_escape_append {quote : Char} (isQuote : IsQuote quote) (c : Char)
    (rest : List Char) :
    readQuoted? quote (escape quote c ++ rest) =
      (readQuoted? quote rest).map fun read => (c :: read.1, read.2) := by
  unfold escape
  split
  next eq => simp [readQuoted?, unescape, eq]
  split
  next eq => simp [readQuoted?, unescape, eq]
  split
  next eq => simp [readQuoted?, unescape, eq]
  split
  next eq => simp [readQuoted?, unescape, eq]
  split
  next eq =>
    -- a quote that is escaped stands for itself, since it is none of the letters `n`, `t` and `r`
    subst eq
    have same : unescape c = c := by rcases isQuote with rfl | rfl <;> rfl
    simp [readQuoted?, same]
  next backslash _ _ _ other => cases rest <;> simp [readQuoted?, backslash, other]

/-- Quoted text is read back, if no further quote follows. -/
theorem readQuoted?_quoted_append {quote : Char} (isQuote : IsQuote quote) (cs : List Char)
    {rest : List Char} (ends : Text.Ends (· == quote) rest) :
    readQuoted? quote (cs.flatMap (escape quote) ++ quote :: rest) = some (cs, rest) := by
  induction cs with
  | nil =>
    have notBackslash : quote ≠ '\\' := by rcases isQuote with rfl | rfl <;> decide
    cases rest with
    | nil => simp [readQuoted?, notBackslash]
    | cons d rest =>
      have other : d ≠ quote := by simpa using ends
      simp [readQuoted?, notBackslash, other]
  | cons c cs ih =>
    rw [List.flatMap_cons, List.append_assoc, readQuoted?_escape_append isQuote, ih]
    rfl

def IsOneLine (cs : List Char) : Prop :=
  '\n' ∉ cs ∧ '\r' ∉ cs

theorem isOneLine_quoteWith {quote : Char} (isQuote : IsQuote quote) (cs : List Char) :
    IsOneLine (quoteWith quote cs) := by
  have escaped (c : Char) : IsOneLine (escape quote c) := by
    unfold IsOneLine escape
    rcases isQuote with rfl | rfl <;> grind
  have isNone : '\n' ≠ quote ∧ '\r' ≠ quote := by rcases isQuote with rfl | rfl <;> decide
  simp only [IsOneLine] at escaped
  simp [IsOneLine, quoteWith, isNone, escaped]

theorem isOneLine_of_isAlphanum {cs : List Char} (h : ∀ c ∈ cs, c.isAlphanum || c == '_') :
    IsOneLine cs :=
  ⟨fun mem => absurd (h _ mem) (by decide), fun mem => absurd (h _ mem) (by decide)⟩

theorem isOneLine_quoteAtom (cs : List Char) : IsOneLine (quoteAtom cs) := by
  unfold quoteAtom
  split
  next plain =>
    cases cs with
    | nil => contradiction
    | cons c cs =>
      obtain ⟨small, others⟩ : c.isLower ∧ ∀ d ∈ cs, d.isAlphanum || d == '_' := by
        simpa [isPlainAtom] using plain
      apply isOneLine_of_isAlphanum
      simp only [List.mem_cons, forall_eq_or_imp]
      have letter : c.isAlpha := Bool.or_eq_true_iff.mpr (.inr small)
      exact ⟨by simp [Char.isAlphanum, letter], others⟩
  next => exact isOneLine_quoteWith (.inl rfl) cs

theorem isOneLine_decimal (n : Nat) : IsOneLine (Text.decimal n) := by
  apply isOneLine_of_isAlphanum
  intro c mem
  simp [Char.isAlphanum, Text.isDigit_of_mem_decimal mem]

/-! ### The first character of a token -/

theorem firstToken_of_isQuote {quote : Char} (isQuote : IsQuote quote) (cs : List Char) :
    firstToken quote cs =
      match readQuoted? quote cs with
      | some read => .ok (quotedToken quote read.1, read.2)
      | none => .error .unterminatedQuote := by
  rcases isQuote with rfl | rfl <;> rfl

theorem firstToken_of_isDigit {c : Char} (digit : c.isDigit) (cs : List Char) :
    firstToken c cs =
      match integerToken? (c :: cs.takeWhile Char.isDigit) with
      | some token => .ok (token, cs.dropWhile Char.isDigit)
      | none => .error .integerRange := by
  have noSign : punctuation? c = none := by
    unfold punctuation?
    split <;> simp_all +decide
  have noOther : c ≠ '/' ∧ c ≠ '.' ∧ c ≠ '\'' ∧ c ≠ '"' := by
    refine ⟨?_, ?_, ?_, ?_⟩ <;> rintro rfl <;> exact absurd digit (by decide)
  simp only [firstToken, noSign, noOther, false_and, or_self, if_false]
  exact if_pos digit

theorem firstToken_of_isAlpha {c : Char} (letter : c.isAlpha) (cs : List Char) :
    firstToken c cs =
      .ok (wordToken (c :: cs.takeWhile isWordPart), cs.dropWhile isWordPart) := by
  have noSign : punctuation? c = none := by
    unfold punctuation?
    split <;> simp_all +decide
  have noOther : c ≠ '/' ∧ c ≠ '.' ∧ c ≠ '\'' ∧ c ≠ '"' := by
    refine ⟨?_, ?_, ?_, ?_⟩ <;> rintro rfl <;> exact absurd letter (by decide)
  have noDigit : c.isDigit = false :=
    Text.forall_ascii (P := fun c => c.isAlpha → c.isDigit = false) (by decide)
      (Text.toNat_lt_of_isAlphanum (by simp [Char.isAlphanum, letter])) letter
  simp [firstToken, noSign, noOther, noDigit, isWordStart, Text.isAlphabetic_of_isAlpha letter]

theorem isWordPart_of_isPlain {c : Char} (plain : c.isAlphanum || c == '_') : isWordPart c := by
  simp only [Char.isAlphanum, Bool.or_eq_true] at plain
  rcases plain with (letter | digit) | underscore
  · simp [isWordPart, Text.isAlphabetic_of_isAlpha letter]
  · simp [isWordPart, Text.isNumeric_of_isDigit digit]
  · simp [isWordPart, underscore]

-- The equations of `tokensFrom` are slow to make, so that it is only unfolded in these four lemmas.
theorem tokensFrom_nil (before : Nat) : tokensFrom before [] = .ok [] := by
  unfold tokensFrom
  rfl

theorem tokensFrom_of_firstToken {c : Char} {cs rest : List Char} {token : Token} (before : Nat)
    (notBlank : Text.isBlank c = false) (read : firstToken c cs = .ok (token, rest)) :
    tokensFrom before (c :: cs) =
      (tokensFrom (before + (cs.length + 1 - rest.length)) rest).map ((before, token) :: ·) := by
  conv => lhs; unfold tokensFrom
  simp only [notBlank, Bool.false_eq_true, if_false]
  split
  next e failed => simp [read] at failed
  next found found' =>
    obtain rfl : (token, rest) = found := Except.ok.inj (read.symm.trans found')
    rfl

theorem tokensFrom_of_firstToken_error {c : Char} {cs : List Char} {cause : LexicalError}
    (before : Nat) (notBlank : Text.isBlank c = false) (failed : firstToken c cs = .error cause) :
    tokensFrom before (c :: cs) = .error (before, cause) := by
  unfold tokensFrom
  simp only [notBlank, Bool.false_eq_true, if_false]
  split
  next e failed' =>
    obtain rfl : cause = e := Except.error.inj (failed.symm.trans failed')
    rfl
  next found read => simp [failed] at read

theorem tokensFrom_of_isBlank {c : Char} (before : Nat) (blank : Text.isBlank c) (cs : List Char) :
    tokensFrom before (c :: cs) = tokensFrom (before + 1) cs := by
  conv => lhs; unfold tokensFrom
  simp only [blank, if_true]

/-! ### Spelling -/

/-- A token as a snapshot spells it. -/
def Token.spelling : Token → List Char
  | atom text => quoteAtom text.toList
  | var name => name.toList
  | int value => Text.decimal value
  | string text => quoteString text.toList
  | lparen => ['(']
  | rparen => [')']
  | comma => [',']
  | colon => [':']
  | slash => ['/']
  | doubleSlash => ['/', '/']
  | stop => ['.']

/-- What a snapshot line is made of. -/
inductive Lexeme where
  | space
  | token (token : Token)
  /-- An atom in quotes, plain or not. -/
  | quotedAtom (text : String)

namespace Lexeme

def spelling : Lexeme → List Char
  | space => [' ']
  | token t => t.spelling
  | quotedAtom text => quoteWith '\'' text.toList

def token? : Lexeme → Option Token
  | space => none
  | token t => some t
  | quotedAtom text => some (.atom text)

/-- Whether the lexeme is one that the reader can give back: no variable, and no number beyond
64 bits. -/
def IsReadable : Lexeme → Prop
  | token (.var _) => False
  | token (.int value) => value < UInt64.size
  | _ => True

/-- The characters that would be read as a part of the lexeme if they followed it. -/
def joins : Lexeme → Char → Bool
  | token (.atom _), c => isWordPart c || c == '\''
  | quotedAtom _, c => c == '\''
  | token (.string _), c => c == '"'
  | token (.int _), c => c.isDigit
  | token .slash, c => c == '/'
  | token .stop, c => !Text.isBlank c
  | _, _ => false

/-- The lexemes that join with nothing. -/
def isSign : Lexeme → Bool
  | space => true
  | token .lparen => true
  | token .rparen => true
  | token .comma => true
  | token .colon => true
  | token .doubleSlash => true
  | _ => false

theorem ends_joins_of_isSign {lexeme : Lexeme} (sign : lexeme.isSign) (cs : List Char) :
    Text.Ends lexeme.joins cs := by
  intro c _
  unfold isSign at sign
  split at sign <;> first | rfl | contradiction

theorem ends_joins_slash (n : Nat) (rest : List Char) :
    Text.Ends (token .slash).joins (Text.decimal n ++ rest) := by
  refine Text.ends_decimal_append ?_ n rest
  intro c digit
  by_cases slash : c = '/'
  · subst slash
    exact absurd digit (by decide)
  · simpa [joins] using slash

/-- The token of a lexeme, behind this many characters of the line. -/
def placed (before : Nat) (lexeme : Lexeme) : List (Nat × Token) :=
  (lexeme.token?.map (before, ·)).toList

end Lexeme

/-- A spelling is read as a token in front of a text. -/
def IsRead (spelling : List Char) (token : Token) (rest : List Char) : Prop :=
  ∃ c cs, spelling = c :: cs ∧ Text.isBlank c = false ∧ firstToken c (cs ++ rest) = .ok (token, rest)

theorem IsRead.tokensFrom_append {spelling rest : List Char} {token : Token}
    (read : IsRead spelling token rest) (before : Nat) :
    tokensFrom before (spelling ++ rest) =
      (tokensFrom (before + spelling.length) rest).map ((before, token) :: ·) := by
  obtain ⟨c, cs, rfl, notBlank, first⟩ := read
  rw [List.cons_append, tokensFrom_of_firstToken before notBlank first]
  congr 3
  simp only [List.length_append, List.length_cons]
  omega

theorem isRead_quoted {quote : Char} (isQuote : IsQuote quote) (cs : List Char) {rest : List Char}
    (ends : Text.Ends (· == quote) rest) :
    IsRead (quoteWith quote cs) (quotedToken quote cs) rest := by
  refine ⟨quote, cs.flatMap (escape quote) ++ [quote], rfl, ?_, ?_⟩
  · rcases isQuote with rfl | rfl <;> decide
  · rw [firstToken_of_isQuote isQuote, List.append_assoc, List.singleton_append,
      readQuoted?_quoted_append isQuote cs ends]

theorem isRead_decimal {n : Nat} (small : n < UInt64.size) {rest : List Char}
    (ends : Text.Ends Char.isDigit rest) : IsRead (Text.decimal n) (.int n) rest := by
  have digits : ∀ c ∈ Text.decimal n, c.isDigit := fun _ => Text.isDigit_of_mem_decimal
  have value : integerToken? (Text.decimal n) = some (.int n) := by
    rw [integerToken?, Text.decimal?_decimal]
    exact if_pos small
  obtain ⟨c, cs, eq⟩ := List.exists_cons_of_ne_nil (Text.decimal_ne_nil n)
  rw [eq] at digits value ⊢
  have first : c.isDigit := digits c (by simp)
  have others : ∀ d ∈ cs, d.isDigit := fun d mem => digits d (by simp [mem])
  refine ⟨c, cs, rfl, Text.isBlank_eq_false_of_isAlphanum (by simp [Char.isAlphanum, first]), ?_⟩
  rw [firstToken_of_isDigit first, Text.takeWhile_append_of_ends others ends,
    Text.dropWhile_append_of_ends others ends, value]

theorem isRead_plainAtom {cs : List Char} (plain : isPlainAtom cs) {rest : List Char}
    (ends : Text.Ends isWordPart rest) : IsRead cs (.atom (String.ofList cs)) rest := by
  cases cs with
  | nil => simp [isPlainAtom] at plain
  | cons c cs =>
    obtain ⟨small, others⟩ : c.isLower ∧ ∀ d ∈ cs, d.isAlphanum || d == '_' := by
      simpa [isPlainAtom] using plain
    have letter : c.isAlpha := Bool.or_eq_true_iff.mpr (.inr small)
    have alphanum : c.isAlphanum := by simp [Char.isAlphanum, letter]
    have parts : ∀ d ∈ cs, isWordPart d := fun d mem => isWordPart_of_isPlain (others d mem)
    refine ⟨c, cs, rfl, Text.isBlank_eq_false_of_isAlphanum alphanum, ?_⟩
    have lowercase : Text.isLowercase c := by
      simp [Text.isLowercase, Text.toNat_lt_of_isAlphanum alphanum, small]
    rw [firstToken_of_isAlpha letter, Text.takeWhile_append_of_ends parts ends,
      Text.dropWhile_append_of_ends parts ends]
    simp [wordToken, lowercase]

theorem isRead_quoteAtom (text : String) {rest : List Char}
    (ends : Text.Ends (fun c => isWordPart c || c == '\'') rest) :
    IsRead (quoteAtom text.toList) (.atom text) rest := by
  unfold quoteAtom
  split
  next plain =>
    simpa using isRead_plainAtom plain (ends.mono (by simp_all))
  next =>
    simpa [quotedToken] using
      isRead_quoted (.inl rfl) text.toList (ends.mono (q := (· == '\'')) (by simp_all))

theorem Token.isRead_spelling {token : Token} (readable : (Lexeme.token token).IsReadable)
    {rest : List Char} (ends : Text.Ends (Lexeme.token token).joins rest) :
    IsRead token.spelling token rest := by
  cases token with
  | atom text => exact isRead_quoteAtom text ends
  | var name => exact readable.elim
  | int value => exact isRead_decimal readable ends
  | string text =>
    simpa [quotedToken, Token.spelling, quoteString] using
      isRead_quoted (.inr rfl) text.toList ends
  | lparen | rparen | comma | colon | doubleSlash => exact ⟨_, _, rfl, by decide, rfl⟩
  | slash =>
    refine ⟨'/', [], rfl, by decide, ?_⟩
    cases rest with
    | nil => rfl
    | cons c rest =>
      have other : c ≠ '/' := by simpa [Lexeme.joins] using ends
      simp [firstToken, punctuation?, slashToken, other]
  | stop =>
    refine ⟨'.', [], rfl, by decide, ?_⟩
    cases rest with
    | nil => rfl
    | cons c rest =>
      have blank : Text.isBlank c := by simpa [Lexeme.joins] using ends
      simp [firstToken, punctuation?, blank]

theorem tokensFrom_spelling_append {lexeme : Lexeme} (readable : lexeme.IsReadable)
    {rest : List Char} (ends : Text.Ends lexeme.joins rest) (before : Nat) :
    tokensFrom before (lexeme.spelling ++ rest) =
      (tokensFrom (before + lexeme.spelling.length) rest).map (lexeme.placed before ++ ·) := by
  cases lexeme with
  | space =>
    rw [Lexeme.spelling, List.singleton_append, tokensFrom_of_isBlank before (by decide)]
    cases tokensFrom (before + 1) rest <;> rfl
  | token token => exact (token.isRead_spelling readable ends).tokensFrom_append before
  | quotedAtom text =>
    have read := isRead_quoted (.inl rfl) text.toList ends
    rw [quotedToken, if_neg (by decide), String.ofList_toList] at read
    exact read.tokensFrom_append before

theorem Lexeme.isOneLine_spelling {lexeme : Lexeme} (readable : lexeme.IsReadable) :
    IsOneLine lexeme.spelling := by
  cases lexeme with
  | space => simp [IsOneLine, spelling]
  | quotedAtom text => exact isOneLine_quoteWith (.inl rfl) text.toList
  | token token =>
    cases token with
    | atom text => exact isOneLine_quoteAtom text.toList
    | var name => exact readable.elim
    | int value => exact isOneLine_decimal value
    | string text => exact isOneLine_quoteWith (.inr rfl) text.toList
    | _ => simp [IsOneLine, spelling, Token.spelling]

/-! ### Sequences of lexemes -/

def spell (lexemes : List Lexeme) : List Char :=
  lexemes.flatMap Lexeme.spelling

@[simp] theorem spell_nil : spell [] = [] := rfl

@[simp] theorem spell_cons (lexeme : Lexeme) (lexemes : List Lexeme) :
    spell (lexeme :: lexemes) = lexeme.spelling ++ spell lexemes := rfl

@[simp] theorem spell_append (front back : List Lexeme) :
    spell (front ++ back) = spell front ++ spell back :=
  List.flatMap_append

theorem isOneLine_spell {lexemes : List Lexeme} (readable : ∀ lexeme ∈ lexemes, lexeme.IsReadable) :
    IsOneLine (spell lexemes) := by
  have each := fun lexeme mem => Lexeme.isOneLine_spelling (readable lexeme mem)
  constructor
  · intro mem
    obtain ⟨lexeme, isOne, inside⟩ := List.mem_flatMap.mp mem
    exact (each lexeme isOne).1 inside
  · intro mem
    obtain ⟨lexeme, isOne, inside⟩ := List.mem_flatMap.mp mem
    exact (each lexeme isOne).2 inside

def place (before : Nat) : List Lexeme → List (Nat × Token)
  | [] => []
  | lexeme :: rest => lexeme.placed before ++ place (before + lexeme.spelling.length) rest

theorem map_snd_place (before : Nat) (lexemes : List Lexeme) :
    (place before lexemes).map Prod.snd = lexemes.filterMap Lexeme.token? := by
  induction lexemes generalizing before with
  | nil => rfl
  | cons lexeme rest ih =>
    rw [place, List.map_append, ih, Lexeme.placed]
    cases read : lexeme.token? <;> simp [read]

/-- No lexeme joins with what follows it. -/
def Separated (rest : List Char) : List Lexeme → Prop
  | [] => True
  | lexeme :: lexemes =>
    Text.Ends lexeme.joins (spell lexemes ++ rest) ∧ Separated rest lexemes

theorem separated_append {rest : List Char} {front back : List Lexeme}
    (inFront : Separated (spell back ++ rest) front) (behind : Separated rest back) :
    Separated rest (front ++ back) := by
  induction front with
  | nil => exact behind
  | cons lexeme front ih =>
    refine ⟨?_, ih inFront.2⟩
    simpa using inFront.1

theorem Separated.front {rest : List Char} {front back : List Lexeme}
    (separated : Separated rest (front ++ back)) : Separated (spell back ++ rest) front := by
  induction front with
  | nil => trivial
  | cons lexeme front ih =>
    refine ⟨?_, ih separated.2⟩
    simpa using separated.1

/-- The tokens of spelled lexemes are theirs, each at its place. -/
theorem tokensFrom_spell_append {lexemes : List Lexeme} {rest : List Char}
    (readable : ∀ lexeme ∈ lexemes, lexeme.IsReadable) (separated : Separated rest lexemes)
    (before : Nat) :
    tokensFrom before (spell lexemes ++ rest) =
      (tokensFrom (before + (spell lexemes).length) rest).map (place before lexemes ++ ·) := by
  induction lexemes generalizing before with
  | nil =>
    simp only [spell_nil, List.nil_append, List.length_nil, Nat.add_zero, place]
    cases tokensFrom before rest <;> rfl
  | cons lexeme lexemes ih =>
    have others := ih (fun l mem => readable l (by simp [mem])) separated.2
      (before + lexeme.spelling.length)
    rw [spell_cons, List.append_assoc,
      tokensFrom_spelling_append (readable lexeme (by simp)) separated.1, others,
      List.length_append, ← Nat.add_assoc]
    cases tokensFrom (before + lexeme.spelling.length + (spell lexemes).length) rest with
    | error e => rfl
    | ok tokens => simp [Except.map, place]

theorem tokens_spell {lexemes : List Lexeme} (readable : ∀ lexeme ∈ lexemes, lexeme.IsReadable)
    (separated : Separated [] lexemes) : tokens (spell lexemes) = .ok (place 0 lexemes) := by
  have read := tokensFrom_spell_append readable separated 0
  rw [List.append_nil] at read
  rw [tokens, read, tokensFrom_nil]
  simp [Except.map]

end DocIndex.Snapshot
