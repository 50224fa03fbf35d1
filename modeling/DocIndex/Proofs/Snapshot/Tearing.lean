import DocIndex.Proofs.Snapshot.RoundTrip

/-!
# Torn snapshots

A snapshot of which only the beginning is left. The dot that ends a record is the last character of
its line and comes from no shorter part of it (`unfinished_of_isPrefix_spell`), so that a line with
the cut in it is no record. Hence a torn snapshot has a bad line, or gives back the records of the
lines before the cut as they were.
-/

namespace DocIndex

namespace Snapshot

/-! ### Unfinished lines -/

/-- The dot that ends a record is not read from the text. -/
def Unfinished (cs : List Char) : Prop :=
  ∀ before found, tokensFrom before cs = .ok found → Token.stop ∉ found.map Prod.snd

theorem unfinished_nil : Unfinished [] := by
  intro before found read
  rw [tokensFrom_nil] at read
  cases read
  simp

theorem unfinished_of_error {c : Char} {cs : List Char} {cause : LexicalError}
    (notBlank : Text.isBlank c = false) (failed : firstToken c cs = .error cause) :
    Unfinished (c :: cs) := by
  intro before found read
  rw [tokensFrom_of_firstToken_error before notBlank failed] at read
  cases read

theorem IsRead.unfinished {spelling : List Char} {token : Token} (read : IsRead spelling token [])
    (notStop : token ≠ .stop) : Unfinished spelling := by
  intro before found given
  have alone := read.tokensFrom_append before
  rw [List.append_nil, given, tokensFrom_nil] at alone
  cases alone
  simpa using notStop.symm

theorem Unfinished.spelling_append {lexeme : Lexeme} {rest : List Char}
    (unfinished : Unfinished rest) (readable : lexeme.IsReadable) (ends : Text.Ends lexeme.joins rest)
    (notStop : lexeme ≠ .token .stop) : Unfinished (lexeme.spelling ++ rest) := by
  intro before found read
  rw [tokensFrom_spelling_append readable ends] at read
  cases others : tokensFrom (before + lexeme.spelling.length) rest with
  | error cause =>
    rw [others] at read
    cases read
  | ok tokens =>
    rw [others] at read
    cases read
    have notHere : Token.stop ∉ (lexeme.placed before).map Prod.snd := by
      cases lexeme with
      | token t => simpa [Lexeme.placed, Lexeme.token?, eq_comm] using notStop
      | space | quotedAtom => simp [Lexeme.placed, Lexeme.token?]
    rw [List.map_append, List.mem_append]
    rintro (here | behind)
    · exact notHere here
    · exact unfinished _ _ others behind

theorem readQuoted?_of_isPrefix {quote : Char} (isQuote : IsQuote quote) {cs part : List Char}
    (isPart : part <+: cs.flatMap (escape quote)) : readQuoted? quote part = none := by
  induction cs generalizing part with
  | nil => rw [List.prefix_nil.mp isPart, readQuoted?]
  | cons c cs ih =>
    rw [List.flatMap_cons] at isPart
    rcases Text.isPrefix_append_cases isPart with ⟨within, proper⟩ | ⟨more, rfl, isMore⟩
    · -- nothing is left of the character, or the backslash that escapes it
      obtain rfl | rfl : part = [] ∨ part = ['\\'] := by
        have short : part.length < (escape quote c).length :=
          Nat.lt_of_le_of_ne within.length_le fun same => proper (within.eq_of_length same)
        unfold escape at within short
        grind [List.prefix_cons_iff]
      · rw [readQuoted?]
      · simp [readQuoted?]
    · rw [readQuoted?_escape_append isQuote, ih isMore, Option.map_none]

theorem unfinished_of_isPrefix_quoteWith {quote : Char} (isQuote : IsQuote quote)
    {cs part : List Char} (isPart : part <+: quoteWith quote cs)
    (proper : part ≠ quoteWith quote cs) : Unfinished part := by
  rcases List.prefix_cons_iff.mp isPart with rfl | ⟨inner, rfl, isInner⟩
  · exact unfinished_nil
  · have unclosed : inner <+: cs.flatMap (escape quote) := by
      refine (List.prefix_concat_iff.mp isInner).resolve_left ?_
      rintro rfl
      exact proper rfl
    have failed : firstToken quote inner = .error .unterminatedQuote := by
      rw [firstToken_of_isQuote isQuote, readQuoted?_of_isPrefix isQuote unclosed]
    have notBlank : Text.isBlank quote = false := by rcases isQuote with rfl | rfl <;> decide
    exact unfinished_of_error notBlank failed

theorem unfinished_of_isDigit {digits : List Char} (areDigits : ∀ c ∈ digits, c.isDigit) :
    Unfinished digits := by
  cases digits with
  | nil => exact unfinished_nil
  | cons c cs =>
    have digit : c.isDigit := areDigits c (by simp)
    have notBlank : Text.isBlank c = false :=
      Text.isBlank_eq_false_of_isAlphanum (by simp [Char.isAlphanum, digit])
    have others : ∀ d ∈ cs, d.isDigit := fun d mem => areDigits d (by simp [mem])
    have first := firstToken_of_isDigit digit cs
    have noRest := Text.dropWhile_append_of_ends others (Text.ends_nil _)
    rw [List.append_nil] at noRest
    cases value : integerToken? (c :: cs.takeWhile Char.isDigit) with
    | none => exact unfinished_of_error notBlank (by rw [first, value])
    | some token =>
      have notStop : token ≠ .stop := by
        rintro rfl
        simp [integerToken?, Option.bind_eq_some_iff] at value
      refine IsRead.unfinished ⟨c, cs, rfl, notBlank, ?_⟩ notStop
      rw [List.append_nil, first, value, noRest]

theorem isPlainAtom_of_isPrefix {cs part : List Char} (plain : isPlainAtom cs)
    (isPart : part <+: cs) (notEmpty : part ≠ []) : isPlainAtom part := by
  obtain ⟨more, rfl⟩ := isPart
  cases part with
  | nil => contradiction
  | cons c part =>
    simp only [isPlainAtom, List.cons_append, List.all_append, Bool.and_eq_true] at plain ⊢
    exact ⟨plain.1, plain.2.1⟩

theorem unfinished_of_isPrefix_quoteAtom {cs part : List Char} (isPart : part <+: quoteAtom cs)
    (proper : part ≠ quoteAtom cs) : Unfinished part := by
  unfold quoteAtom at isPart proper
  split at isPart
  next plain =>
    by_cases nothing : part = []
    · exact nothing ▸ unfinished_nil
    · exact (isRead_plainAtom (isPlainAtom_of_isPrefix plain isPart nothing)
        (Text.ends_nil _)).unfinished (by simp)
  next notPlain =>
    rw [if_neg notPlain] at proper
    exact unfinished_of_isPrefix_quoteWith (.inl rfl) isPart proper

theorem unfinished_of_isPrefix_spelling {lexeme : Lexeme} (readable : lexeme.IsReadable)
    {part : List Char} (isPart : part <+: lexeme.spelling) (proper : part ≠ lexeme.spelling) :
    Unfinished part := by
  have single {c : Char} (isPart : part <+: [c]) (proper : part ≠ [c]) : Unfinished part := by
    rcases List.prefix_cons_iff.mp isPart with rfl | ⟨more, rfl, isMore⟩
    · exact unfinished_nil
    · exact absurd (by rw [List.prefix_nil.mp isMore]) proper
  cases lexeme with
  | space => exact single isPart proper
  | quotedAtom text => exact unfinished_of_isPrefix_quoteWith (.inl rfl) isPart proper
  | token token =>
    cases token with
    | atom text => exact unfinished_of_isPrefix_quoteAtom isPart proper
    | var name => exact readable.elim
    | int value =>
      exact unfinished_of_isDigit fun c mem => Text.isDigit_of_mem_decimal (isPart.subset mem)
    | string text => exact unfinished_of_isPrefix_quoteWith (.inr rfl) isPart proper
    | lparen | rparen | comma | colon | slash | stop => exact single isPart proper
    | doubleSlash =>
      have isSlash : part <+: ['/'] := (List.prefix_concat_iff.mp isPart).resolve_left proper
      by_cases slash : part = ['/']
      · have readable : (Lexeme.token .slash).IsReadable := trivial
        have read := Token.isRead_spelling readable (Text.ends_nil _)
        exact slash ▸ read.unfinished (by simp)
      · exact single isSlash slash

theorem unfinished_of_isPrefix_spell {lexemes : List Lexeme} {rest part : List Char}
    (readable : ∀ lexeme ∈ lexemes, lexeme.IsReadable) (separated : Separated rest lexemes)
    (noStop : .token .stop ∉ lexemes) (isPart : part <+: spell lexemes) : Unfinished part := by
  induction lexemes generalizing part with
  | nil => exact List.prefix_nil.mp isPart ▸ unfinished_nil
  | cons lexeme lexemes ih =>
    simp only [List.mem_cons, not_or] at noStop
    rcases Text.isPrefix_append_cases isPart with ⟨within, proper⟩ | ⟨more, rfl, isMore⟩
    · exact unfinished_of_isPrefix_spelling (readable lexeme (by simp)) within proper
    · have ends : Text.Ends lexeme.joins more :=
        separated.1.of_isPrefix (isMore.trans (List.prefix_append _ _))
      have others := ih (fun l mem => readable l (by simp [mem])) separated.2 noStop.2 isMore
      exact others.spelling_append (readable lexeme (by simp)) ends (Ne.symm noStop.1)

/-! ### Lines of records -/

/-- Only the last lexeme ends a record. -/
theorem exists_lexemes_eq (record : Record) :
    ∃ front, lexemes record = front ++ [.token .stop] ∧ .token .stop ∉ front := by
  refine ⟨[.token (.atom "record"), .token .lparen] ++ record.object.tokens.map Lexeme.token ++
    [.token .comma, .space, .token (.string record.summary), .token .comma, .space,
      .quotedAtom record.file.text, .token .comma, .space, .token (.atom record.pageClass.name),
      .token .comma, .space, .token (.int record.offset), .token .rparen], ?_, ?_⟩
  · simp [lexemes]
  · simp [stop_not_mem_tokens]

theorem readRecord_of_unfinished {line : List Char} (unfinished : Unfinished line) :
    ∃ cause, readRecord line = .error cause := by
  cases read : readRecord line with
  | error cause => exact ⟨cause, rfl⟩
  | ok record =>
    unfold readRecord at read
    split at read
    next => cases read
    next found tokensRead =>
      have isRecord := (ofTokens_eq_ok_iff.mp read).1
      have hasStop : Token.stop ∈ found.map Prod.snd := by simp [isRecord, Record.tokens]
      exact absurd hasStop (unfinished 0 found tokensRead)

/-- A line that is not whole is no record. -/
theorem readRecord_of_isPrefix {record : Record} (small : record.offset < UInt64.size)
    {part : List Char} (isPart : part <+: writeRecord record) (proper : part ≠ writeRecord record) :
    ∃ cause, readRecord part = .error cause := by
  obtain ⟨front, split, noStop⟩ := exists_lexemes_eq record
  have readable : ∀ lexeme ∈ front, lexeme.IsReadable := by
    intro lexeme mem
    exact isReadable_of_mem_lexemes small (split ▸ List.mem_append_left _ mem)
  have separated := (split ▸ separated_lexemes record).front
  have isLine : writeRecord record = spell front ++ ['.'] := by
    rw [writeRecord_eq_spell, split, spell_append]
    rfl
  rw [isLine] at isPart proper
  have unended := (List.prefix_concat_iff.mp isPart).resolve_left proper
  exact readRecord_of_unfinished (unfinished_of_isPrefix_spell readable separated noStop unended)

/-! ### The place of a line -/

/-- The number of characters before the line of a record, by the number of records before it. -/
def lineStart (records : List Record) (i : Nat) : Nat :=
  (write (records.take i)).length

/-- Only the beginning of the line of a record is left when so many characters are kept. -/
def Tears (records : List Record) (cut i : Nat) : Prop :=
  ∃ record ∈ records[i]?, lineStart records i < cut ∧
    cut < lineStart records i + (writeRecord record).length

/-- The whole line of a record is left, with its end or without. -/
def Keeps (records : List Record) (cut i : Nat) : Prop :=
  ∃ record ∈ records[i]?, lineStart records i + (writeRecord record).length ≤ cut

instance (records : List Record) (cut i : Nat) : Decidable (Tears records cut i) :=
  inferInstanceAs (Decidable (∃ record ∈ records[i]?, _ ∧ _))

instance (records : List Record) (cut i : Nat) : Decidable (Keeps records cut i) :=
  inferInstanceAs (Decidable (∃ record ∈ records[i]?, _))

theorem length_write_cons (record : Record) (records : List Record) :
    (write (record :: records)).length =
      (write records).length + ((writeRecord record).length + 1) := by
  simp only [write, List.map_cons, List.flatMap_append, List.flatMap_cons, List.length_append,
    List.length_singleton]
  omega

theorem lineStart_zero (records : List Record) : lineStart records 0 = (write []).length := by
  rw [lineStart, List.take_zero]

theorem lineStart_succ (record : Record) (records : List Record) (i : Nat) :
    lineStart (record :: records) (i + 1) =
      lineStart records i + ((writeRecord record).length + 1) := by
  rw [lineStart, List.take_succ_cons, length_write_cons, lineStart]

theorem length_write_nil_le (records : List Record) (i : Nat) :
    (write []).length ≤ lineStart records i := by
  rw [lineStart]
  induction records.take i with
  | nil => exact Nat.le_refl _
  | cons record records ih =>
    rw [length_write_cons]
    exact Nat.le_trans ih (Nat.le_add_right _ _)

theorem length_writeRecord_pos (record : Record) : 0 < (writeRecord record).length := by
  obtain ⟨rest, line⟩ := exists_writeRecord_eq record
  simp [line]

section
variable {record : Record} {records : List Record} {cut i : Nat}

theorem tears_zero : Tears (record :: records) cut 0 ↔
    (write []).length < cut ∧ cut < (write []).length + (writeRecord record).length := by
  simp [Tears, lineStart_zero]

theorem tears_succ : Tears (record :: records) cut (i + 1) ↔
    Tears records (cut - ((writeRecord record).length + 1)) i := by
  simp only [Tears, lineStart_succ, List.getElem?_cons_succ]
  refine exists_congr fun r => and_congr_right fun _ => ?_
  omega

theorem keeps_zero : Keeps (record :: records) cut 0 ↔
    (write []).length + (writeRecord record).length ≤ cut := by
  simp [Keeps, lineStart_zero]

theorem keeps_succ : Keeps (record :: records) cut (i + 1) ↔
    Keeps records (cut - ((writeRecord record).length + 1)) i := by
  simp only [Keeps, lineStart_succ, List.getElem?_cons_succ]
  refine exists_congr fun r => and_congr_right fun _ => ?_
  have := length_writeRecord_pos r
  omega

end

/-! ### Reading what is left -/

theorem readLines_comment (number cut : Nat) (cs : List Char) (ls : List (List Char)) :
    readLines number (Text.torn cut (('%' :: cs) :: ls)) =
      readLines (number + 1) (Text.torn (cut - (cs.length + 2)) ls) := by
  cases cut with
  | zero => simp [readLines]
  | succ cut =>
    rw [Text.torn, if_neg (Nat.succ_ne_zero cut), List.take_succ_cons, readLines,
      isIgnorable_cons (by decide)]
    rfl

theorem readLines_torn_writeRecord {record : Record} (small : record.offset < UInt64.size)
    (storable : record.IsStorable) {cut : Nat} (whole : (writeRecord record).length ≤ cut)
    (number : Nat) (ls : List (List Char)) :
    readLines number (Text.torn cut (writeRecord record :: ls)) =
      (readLines (number + 1) (Text.torn (cut - ((writeRecord record).length + 1)) ls)).map
        (record :: ·) := by
  have kept : cut ≠ 0 := by have := length_writeRecord_pos record; omega
  rw [Text.torn, if_neg kept, List.take_of_length_le whole]
  exact readLines_map_writeRecord_append (List.forall_mem_singleton.mpr small)
    (List.forall_mem_singleton.mpr storable) number _

theorem readLines_torn_error {record : Record} (small : record.offset < UInt64.size) {cut : Nat}
    (kept : 0 < cut) (notAll : cut < (writeRecord record).length) (number : Nat)
    (ls : List (List Char)) :
    ∃ cause,
      readLines number (Text.torn cut (writeRecord record :: ls)) = .error ⟨number, cause⟩ := by
  have proper : (writeRecord record).take cut ≠ writeRecord record := by
    intro same
    have length := congrArg List.length same
    rw [List.length_take] at length
    omega
  obtain ⟨cause, failed⟩ := readRecord_of_isPrefix small (List.take_prefix cut _) proper
  obtain ⟨rest, line⟩ := exists_writeRecord_eq record
  obtain ⟨cut, rfl⟩ := Nat.exists_eq_add_one.mpr kept
  refine ⟨cause, ?_⟩
  rw [Text.torn, if_neg (Nat.succ_ne_zero cut), readLines, failed, line, List.take_succ_cons,
    isIgnorable_cons (by decide)]
  rfl

section
variable {records : List Record}

theorem readLines_of_tears (small : ∀ record ∈ records, record.offset < UInt64.size)
    (storable : ∀ record ∈ records, record.IsStorable) {cut i : Nat} (tears : Tears records cut i)
    (number : Nat) :
    ∃ cause, readLines number (Text.torn (cut - (write []).length) (records.map writeRecord)) =
      .error ⟨number + i, cause⟩ := by
  induction records generalizing cut i number with
  | nil => simp [Tears] at tears
  | cons record records ih =>
    obtain ⟨small, smallRest⟩ := List.forall_mem_cons.mp small
    obtain ⟨storable, storableRest⟩ := List.forall_mem_cons.mp storable
    rw [List.map_cons]
    cases i with
    | zero =>
      have inside := tears_zero.mp tears
      exact readLines_torn_error small (by omega) (by omega) number _
    | succ i =>
      have behind := tears_succ.mp tears
      obtain ⟨cause, failed⟩ := ih smallRest storableRest behind (number + 1)
      have whole : (writeRecord record).length ≤ cut - (write []).length := by
        obtain ⟨-, -, after, -⟩ := behind
        have := length_write_nil_le records i
        omega
      refine ⟨cause, ?_⟩
      rw [readLines_torn_writeRecord small storable whole, Nat.sub_right_comm, failed,
        Nat.add_right_comm]
      rfl

theorem readLines_of_not_tears (small : ∀ record ∈ records, record.offset < UInt64.size)
    (storable : ∀ record ∈ records, record.IsStorable) {cut : Nat}
    (noTear : ∀ i, ¬Tears records cut i) (number : Nat) :
    ∃ n, (∀ i, Keeps records cut i ↔ i < n) ∧
      readLines number (Text.torn (cut - (write []).length) (records.map writeRecord)) =
        .ok (records.take n) := by
  induction records generalizing cut number with
  | nil => exact ⟨0, by simp [Keeps], by simp [Text.torn, readLines]⟩
  | cons record records ih =>
    obtain ⟨small, smallRest⟩ := List.forall_mem_cons.mp small
    obtain ⟨storable, storableRest⟩ := List.forall_mem_cons.mp storable
    by_cases whole : (write []).length + (writeRecord record).length ≤ cut
    · have noFurther (i : Nat) : ¬Tears records (cut - ((writeRecord record).length + 1)) i :=
        fun tears => noTear (i + 1) (tears_succ.mpr tears)
      obtain ⟨n, keeps, read⟩ := ih smallRest storableRest noFurther (number + 1)
      refine ⟨n + 1, ?_, ?_⟩
      · intro i
        cases i with
        | zero => simp [keeps_zero, whole]
        | succ i => rw [keeps_succ, keeps, Nat.succ_lt_succ_iff]
      · rw [List.map_cons, readLines_torn_writeRecord small storable (by omega),
          Nat.sub_right_comm, read]
        rfl
    · -- the cut is within the comment
      have before : cut ≤ (write []).length := by
        have notFirst := mt tears_zero.mpr (noTear 0)
        omega
      refine ⟨0, ?_, ?_⟩
      · intro i
        simp only [Nat.not_lt_zero, iff_false]
        rintro ⟨r, -, kept⟩
        have := length_write_nil_le (record :: records) i
        have := length_writeRecord_pos r
        omega
      · rw [Nat.sub_eq_zero_of_le before, Text.torn_zero, readLines, List.take_zero]

theorem read_take_write (small : ∀ record ∈ records, record.offset < UInt64.size) (cut : Nat) :
    read ((write records).take cut) =
      readLines 3 (Text.torn (cut - (write []).length) (records.map writeRecord)) := by
  obtain ⟨first, second, comment⟩ :
      ∃ first second, header.map String.toList = ['%' :: first, '%' :: second] := ⟨_, _, rfl⟩
  have length : (write []).length = first.length + 2 + (second.length + 2) := by
    simp [write, comment]
    omega
  rw [read, write, Text.lines_take_flatMap (forall_isLine small), comment, List.cons_append,
    List.cons_append, List.nil_append, readLines_comment, readLines_comment, length, Nat.sub_sub]

end

end Snapshot

namespace Store

def torn (store : Store) (cut : Nat) : String :=
  String.ofList (store.snapshot.toList.take cut)

theorem ofSnapshot_torn_eq {store : Store} (words : store.HasWordOffsets) (cut : Nat) :
    ofSnapshot (store.torn cut) =
      (Snapshot.readLines 3 (Text.torn (cut - (Snapshot.write []).length)
        (store.records.map Snapshot.writeRecord))).map Store.mk := by
  rw [ofSnapshot, torn, String.toList_ofList, snapshot, String.toList_ofList,
    Snapshot.read_take_write words]

/-- A line of a record that is cut apart is no record. If no line is, the torn snapshot holds the
records of the lines that are left. Either way it holds no others. -/
theorem ofSnapshot_torn (store : Store) (words : store.HasWordOffsets)
    (storable : ∀ record ∈ store.records, record.IsStorable) (cut : Nat) :
    (∀ i, Snapshot.Tears store.records cut i →
        ∃ cause, ofSnapshot (store.torn cut) = .error ⟨3 + i, cause⟩) ∧
      ((∀ i, ¬Snapshot.Tears store.records cut i) →
        ∃ n, (∀ i, Snapshot.Keeps store.records cut i ↔ i < n) ∧
          ofSnapshot (store.torn cut) = .ok ⟨store.records.take n⟩) ∧
      ∀ found, ofSnapshot (store.torn cut) = .ok found → found.records <+: store.records := by
  have torn (i : Nat) (tears : Snapshot.Tears store.records cut i) :
      ∃ cause, ofSnapshot (store.torn cut) = .error ⟨3 + i, cause⟩ := by
    obtain ⟨cause, failed⟩ := Snapshot.readLines_of_tears words storable tears 3
    exact ⟨cause, by rw [ofSnapshot_torn_eq words, failed]; rfl⟩
  have whole (noTear : ∀ i, ¬Snapshot.Tears store.records cut i) :
      ∃ n, (∀ i, Snapshot.Keeps store.records cut i ↔ i < n) ∧
        ofSnapshot (store.torn cut) = .ok ⟨store.records.take n⟩ := by
    obtain ⟨n, keeps, read⟩ := Snapshot.readLines_of_not_tears words storable noTear 3
    exact ⟨n, keeps, by rw [ofSnapshot_torn_eq words, read]; rfl⟩
  refine ⟨torn, whole, ?_⟩
  intro found read
  by_cases noTear : ∀ i, ¬Snapshot.Tears store.records cut i
  · obtain ⟨n, -, given⟩ := whole noTear
    cases read.symm.trans given
    exact List.take_prefix n _
  · obtain ⟨i, tears⟩ := Classical.not_forall.mp noTear
    obtain ⟨cause, failed⟩ := torn i (Classical.not_not.mp tears)
    cases read.symm.trans failed

def quotedNames : Store :=
  ⟨[⟨.callable "it's" 2, "Says \"it\".", ⟨"a.html"⟩, .manual, 12⟩,
    ⟨.symbol "", "", ⟨""⟩, .misc, 0⟩]⟩

/-- A cut behind the first backslash, and one between the dot and the end of the first line. -/
theorem ofSnapshot_torn_quotedNames :
    (∃ cause, ofSnapshot (quotedNames.torn 97) = .error ⟨3, cause⟩) ∧
      ofSnapshot (quotedNames.torn 142) = .ok ⟨quotedNames.records.take 1⟩ := by
  have words : quotedNames.HasWordOffsets := by decide
  have storable : ∀ record ∈ quotedNames.records, record.IsStorable := by decide
  have ends : Snapshot.Keeps quotedNames.records 142 0 ∧ ¬Snapshot.Keeps quotedNames.records 142 1 ∧
      ¬Snapshot.Tears quotedNames.records 142 0 ∧ ¬Snapshot.Tears quotedNames.records 142 1 := by
    decide +kernel
  have noTear : ∀ i, ¬Snapshot.Tears quotedNames.records 142 i
    | 0 => ends.2.2.1
    | 1 => ends.2.2.2
    | i + 2 => by simp [Snapshot.Tears, quotedNames]
  refine ⟨(ofSnapshot_torn quotedNames words storable 97).1 0 (by decide +kernel), ?_⟩
  obtain ⟨n, keeps, read⟩ := (ofSnapshot_torn quotedNames words storable 142).2.1 noTear
  obtain rfl : n = 1 := by
    have first := (keeps 0).mp ends.1
    have second := mt (keeps 1).mpr ends.2.1
    omega
  exact read

end Store

end DocIndex
