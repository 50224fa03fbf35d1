import DocIndex.Proofs.Snapshot.Acceptance
import DocIndex.Proofs.Snapshot.Joining
import DocIndex.Proofs.Snapshot.Lexeme

/-!
# Writing and reading a store

The line of a record spells its tokens, so it is read back if its object is well formed, and has the
wrong shape otherwise (`readRecord_writeRecord`). Lines have no line ends in them, so a snapshot
is read line by line as it was written. What is read from any text can be written and read again.
-/

namespace DocIndex

/-- A record that a snapshot can hold. -/
def Record.IsStorable (record : Record) : Prop :=
  record.object.IsWellFormed

instance (record : Record) : Decidable record.IsStorable :=
  inferInstanceAs (Decidable record.object.IsWellFormed)

def Store.HasWordOffsets (store : Store) : Prop :=
  ∀ record ∈ store.records, record.offset < UInt64.size

instance (store : Store) : Decidable store.HasWordOffsets :=
  inferInstanceAs (Decidable (∀ record ∈ store.records, record.offset < UInt64.size))

namespace Snapshot

/-! ### Lines of records -/

def lexemes (record : Record) : List Lexeme :=
  [.token (.atom "record"), .token .lparen] ++ record.object.tokens.map Lexeme.token ++
    [.token .comma, .space, .token (.string record.summary), .token .comma, .space,
      .quotedAtom record.file.text, .token .comma, .space, .token (.atom record.pageClass.name),
      .token .comma, .space, .token (.int record.offset), .token .rparen, .token .stop]

theorem filterMap_token?_lexemes (record : Record) :
    (lexemes record).filterMap Lexeme.token? = record.tokens := by
  have same : Lexeme.token? ∘ Lexeme.token = some := rfl
  simp [lexemes, Record.tokens, List.filterMap_map, same, List.filterMap_cons,
    Lexeme.token?]

theorem quoteAtom_of_isPlainAtom {cs : List Char} (plain : isPlainAtom cs) : quoteAtom cs = cs :=
  if_pos plain

theorem write_eq_spell (object : Object) :
    object.write = spell (object.tokens.map Lexeme.token) := by
  induction object with
  | qualified module inner ih => simp [Object.tokens, Lexeme.spelling, Token.spelling, ih]
  | heading | function | symbol =>
    -- the words `section`, `f` and `c` are plain atoms
    simp [Object.tokens, Lexeme.spelling, Token.spelling, quoteAtom_of_isPlainAtom, isPlainAtom]
  | callable | grammar => simp [Object.tokens, Lexeme.spelling, Token.spelling]

theorem writeRecord_eq_spell (record : Record) : writeRecord record = spell (lexemes record) := by
  have className : quoteAtom record.pageClass.name.toList = record.pageClass.name.toList := by
    cases record.pageClass <;> exact quoteAtom_of_isPlainAtom (by decide)
  unfold writeRecord
  simp [lexemes, write_eq_spell, Lexeme.spelling, Token.spelling, className,
    quoteAtom_of_isPlainAtom, isPlainAtom]

theorem isReadable_token_of_mem {object : Object} {token : Token} (mem : token ∈ object.tokens) :
    (Lexeme.token token).IsReadable := by
  have arity (value : UInt32) : value.toNat < UInt64.size := Nat.lt_trans value.toNat_lt (by decide)
  induction object with
  | qualified module inner ih =>
    simp only [Object.tokens, List.mem_cons] at mem
    rcases mem with rfl | rfl | mem
    · trivial
    · trivial
    · exact ih mem
  | heading level number label file =>
    have small : level.toNat < UInt64.size := Nat.lt_trans level.toNat_lt (by decide)
    simp only [Object.tokens, List.mem_cons, List.not_mem_nil, or_false] at mem
    rcases mem with rfl | rfl | rfl | rfl | rfl | rfl | rfl | rfl | rfl | rfl <;>
      first | exact small | trivial
  | callable name value | grammar name value =>
    simp only [Object.tokens, List.mem_cons, List.not_mem_nil, or_false] at mem
    rcases mem with rfl | rfl | rfl <;> first | exact arity value | trivial
  | function name value =>
    simp only [Object.tokens, List.mem_cons, List.not_mem_nil, or_false] at mem
    rcases mem with rfl | rfl | rfl | rfl | rfl | rfl <;> first | exact arity value | trivial
  | symbol name =>
    simp only [Object.tokens, List.mem_cons, List.not_mem_nil, or_false] at mem
    rcases mem with rfl | rfl | rfl | rfl <;> trivial

theorem stop_not_mem_tokens (object : Object) : Token.stop ∉ object.tokens := by
  induction object with
  | qualified module inner ih => simpa [Object.tokens] using ih
  | _ => simp [Object.tokens]

theorem separated_tokens (object : Object) {rest : List Char} (ends : Text.Ends Char.isDigit rest) :
    Separated rest (object.tokens.map Lexeme.token) := by
  have arity (value : Nat) : Text.Ends (Lexeme.token (.int value)).joins rest := ends
  induction object with
  | qualified module inner ih =>
    simp +decide [Object.tokens, Separated, Lexeme.spelling, Token.spelling, Lexeme.joins, ih,
      Lexeme.ends_joins_of_isSign]
  | _ =>
    simp +decide [Object.tokens, Separated, Lexeme.spelling, Token.spelling, Lexeme.joins, arity,
      Lexeme.ends_joins_of_isSign, Lexeme.ends_joins_slash]

theorem separated_lexemes (record : Record) : Separated [] (lexemes record) := by
  unfold lexemes
  refine separated_append (separated_append ?_ (separated_tokens _ ?_)) ?_
  all_goals
    simp +decide [Separated, Lexeme.spelling, Token.spelling, quoteWith, Lexeme.joins,
      Lexeme.ends_joins_of_isSign]

theorem isReadable_of_mem_lexemes {record : Record} (small : record.offset < UInt64.size)
    {lexeme : Lexeme} (mem : lexeme ∈ lexemes record) : lexeme.IsReadable := by
  simp only [lexemes, List.mem_append, List.mem_cons, List.mem_map, List.not_mem_nil, or_false]
    at mem
  rcases mem with ((rfl | rfl) | ⟨token, ofObject, rfl⟩) |
    (rfl | rfl | rfl | rfl | rfl | rfl | rfl | rfl | rfl | rfl | rfl | rfl | rfl | rfl)
  case inl.inr => exact isReadable_token_of_mem ofObject
  all_goals first | exact small | trivial

theorem tokens_writeRecord {record : Record} (small : record.offset < UInt64.size) :
    tokens (writeRecord record) = .ok (place 0 (lexemes record)) := by
  rw [writeRecord_eq_spell]
  exact tokens_spell (fun _ => isReadable_of_mem_lexemes small) (separated_lexemes record)

theorem readRecord_writeRecord {record : Record} (small : record.offset < UInt64.size) :
    readRecord (writeRecord record) = record.admitted := by
  rw [readRecord, tokens_writeRecord small]
  exact ofTokens_tokens record (by rw [map_snd_place, filterMap_token?_lexemes])

theorem readRecord_writeRecord_of_isStorable {record : Record} (small : record.offset < UInt64.size)
    (storable : record.IsStorable) : readRecord (writeRecord record) = .ok record := by
  have noFlaw : record.object.flaw? = none := record.object.flaw?_eq_none_iff.mpr storable
  rw [readRecord_writeRecord small, Record.admitted, noFlaw]

/-! ### Lines of a snapshot -/

theorem isLine_writeRecord {record : Record} (small : record.offset < UInt64.size) :
    Text.IsLine (writeRecord record) := by
  have oneLine : IsOneLine (writeRecord record) :=
    writeRecord_eq_spell record ▸ isOneLine_spell fun _ => isReadable_of_mem_lexemes small
  exact ⟨oneLine.1, fun last => oneLine.2 (List.mem_of_getLast? last)⟩

/-- A line that begins with no blank is a comment, or it counts. -/
theorem isIgnorable_cons {c : Char} (notBlank : Text.isBlank c = false) (cs : List Char) :
    isIgnorable (c :: cs) = (c == '%') := by
  rw [isIgnorable, Text.trim_cons notBlank]

theorem exists_writeRecord_eq (record : Record) : ∃ rest, writeRecord record = 'r' :: rest :=
  ⟨_, rfl⟩

theorem isIgnorable_writeRecord (record : Record) : isIgnorable (writeRecord record) = false := by
  obtain ⟨rest, line⟩ := exists_writeRecord_eq record
  rw [line, isIgnorable_cons (by decide)]
  rfl

section
variable {front : List Record} (small : ∀ record ∈ front, record.offset < UInt64.size)
  (storable : ∀ record ∈ front, record.IsStorable) (number : Nat)
include small storable

/-- The lines of well-formed records are read. -/
theorem readLines_map_writeRecord : readLines number (front.map writeRecord) = .ok front := by
  induction front generalizing number with
  | nil => rfl
  | cons record front ih =>
    obtain ⟨small, smallRest⟩ := List.forall_mem_cons.mp small
    obtain ⟨storable, storableRest⟩ := List.forall_mem_cons.mp storable
    have read := readRecord_writeRecord_of_isStorable small storable
    rw [List.map_cons, readLines, isIgnorable_writeRecord, read,
      ih smallRest storableRest (number + 1)]
    rfl

theorem readLines_map_writeRecord_append (rest : List (List Char)) :
    readLines number (front.map writeRecord ++ rest) =
      (readLines (number + front.length) rest).map (front ++ ·) := by
  rw [readLines_append, readLines_map_writeRecord small storable, List.length_map]
  rfl

end

theorem forall_isLine {records : List Record}
    (small : ∀ record ∈ records, record.offset < UInt64.size) :
    ∀ line ∈ header.map String.toList ++ records.map writeRecord, Text.IsLine line := by
  have headerLines : ∀ line ∈ header.map String.toList, Text.IsLine line := by
    simp +decide [header, Text.IsLine]
  intro line mem
  rcases List.mem_append.mp mem with isHeader | isRecord
  · exact headerLines line isHeader
  · obtain ⟨record, isIn, rfl⟩ := List.mem_map.mp isRecord
    exact isLine_writeRecord (small record isIn)

theorem read_write_eq {records : List Record}
    (small : ∀ record ∈ records, record.offset < UInt64.size) :
    read (write records) = readLines 3 (records.map writeRecord) := by
  rw [read, write, Text.lines_flatMap (forall_isLine small)]
  rfl

theorem storable_of_readLines {number : Nat} {ls : List (List Char)} {found : List Record}
    (read : readLines number ls = .ok found) :
    ∀ record ∈ found, record.IsStorable ∧ record.offset < UInt64.size := by
  induction ls generalizing number found with
  | nil =>
    cases read
    simp
  | cons line ls ih =>
    unfold readLines at read
    split at read
    · exact ih read
    split at read
    next => cases read
    next record isRecord =>
      cases rest : readLines (number + 1) ls with
      | error bad =>
        rw [rest] at read
        cases read
      | ok others =>
        rw [rest] at read
        cases read
        intro r mem
        rcases List.mem_cons.mp mem with rfl | mem
        · exact storable_of_readRecord isRecord
        · exact ih rest r mem

end Snapshot

namespace Store

theorem ofSnapshot_snapshot_eq {store : Store} (words : store.HasWordOffsets) :
    ofSnapshot store.snapshot =
      (Snapshot.readLines 3 (store.records.map Snapshot.writeRecord)).map Store.mk := by
  rw [ofSnapshot, snapshot, String.toList_ofList, Snapshot.read_write_eq words]

theorem ofSnapshot_snapshot {store : Store} (words : store.HasWordOffsets)
    (storable : ∀ record ∈ store.records, record.IsStorable) :
    ofSnapshot store.snapshot = .ok store := by
  rw [ofSnapshot_snapshot_eq words, Snapshot.readLines_map_writeRecord words storable 3]
  rfl

theorem ofSnapshot_snapshot_error {store : Store} (words : store.HasWordOffsets)
    {front back : List Record} {bad : Record} (split : store.records = front ++ bad :: back)
    (storable : ∀ record ∈ front, record.IsStorable) (notStorable : ¬ bad.IsStorable) :
    ∃ cause, ofSnapshot store.snapshot = .error ⟨3 + front.length, .shape cause⟩ := by
  have small : ∀ record ∈ store.records, record.offset < UInt64.size := words
  rw [split] at small
  obtain ⟨cause, flaw⟩ : ∃ cause, bad.object.flaw? = some cause :=
    Option.ne_none_iff_exists'.mp fun none => notStorable (bad.object.flaw?_eq_none_iff.mp none)
  have read : Snapshot.readRecord (Snapshot.writeRecord bad) = .error (.shape cause) := by
    rw [Snapshot.readRecord_writeRecord (small bad (by simp)), Record.admitted, flaw]
  refine ⟨cause, ?_⟩
  rw [ofSnapshot_snapshot_eq words, split, List.map_append, List.map_cons,
    Snapshot.readLines_map_writeRecord_append (fun r mem => small r (by simp [mem])) storable,
    Snapshot.readLines, Snapshot.isIgnorable_writeRecord, read]
  rfl

/-- A store is read back from its snapshot as it was, unless an object in it is not well formed:
then the line of the first such record has the wrong shape. And every store that is read from any
text has only well-formed objects, so that it is read back from its own snapshot. -/
theorem snapshot_roundTrip :
    (∀ store : Store, store.HasWordOffsets →
      ((∀ record ∈ store.records, record.IsStorable) →
        ofSnapshot store.snapshot = .ok store) ∧
      ∀ i (inside : i < store.records.length), ¬ store.records[i].IsStorable →
        (∀ j (before : j < i), store.records[j].IsStorable) →
        ∃ cause, ofSnapshot store.snapshot = .error ⟨3 + i, .shape cause⟩) ∧
    ∀ (text : String) (store : Store), ofSnapshot text = .ok store →
      (∀ record ∈ store.records, record.IsStorable) ∧
        ofSnapshot store.snapshot = .ok store := by
  refine ⟨fun store words => ⟨ofSnapshot_snapshot words, ?_⟩, ?_⟩
  · intro i inside notStorable first
    have split : store.records =
        store.records.take i ++ store.records[i] :: store.records.drop (i + 1) := by simp
    have length : (store.records.take i).length = i := List.length_take_of_le (Nat.le_of_lt inside)
    have storable : ∀ record ∈ store.records.take i, record.IsStorable := by
      intro record mem
      obtain ⟨j, before, rfl⟩ := List.mem_take_iff_getElem.mp mem
      exact first j (by omega)
    have failed := ofSnapshot_snapshot_error words split storable notStorable
    rwa [length] at failed
  · intro text store read
    unfold ofSnapshot Snapshot.read at read
    cases lines : Snapshot.readLines 1 (Text.lines text.toList) with
    | error bad =>
      rw [lines] at read
      cases read
    | ok records =>
      rw [lines] at read
      cases read
      have found := Snapshot.storable_of_readLines lines
      have storable : ∀ record ∈ records, record.IsStorable := fun r mem => (found r mem).1
      have words : HasWordOffsets ⟨records⟩ := fun r mem => (found r mem).2
      exact ⟨storable, ofSnapshot_snapshot words storable⟩

/-- Two records, of which the first has quotes, a backslash and line ends in its texts, and the
second is a section five levels deep. -/
def deepSection : Store :=
  ⟨[⟨.qualified "a\\'" (.grammar "\r\n" 4294967295), "\"\t", ⟨"'\\"⟩, .misc, UInt64.size - 1⟩,
    ⟨.heading 5 "" "" "", "", ⟨""⟩, .manual, 0⟩]⟩

theorem snapshot_roundTrip_deepSection :
    (∃ cause, ofSnapshot deepSection.snapshot = .error ⟨4, .shape cause⟩) ∧
      ofSnapshot (Store.snapshot ⟨deepSection.records.take 1⟩) =
        .ok ⟨deepSection.records.take 1⟩ ∧
      ∀ record ∈ deepSection.records.take 1, record.IsStorable := by
  have shallow : (deepSection.records.get ⟨0, by decide⟩).IsStorable := by decide
  have first := (snapshot_roundTrip.1 ⟨deepSection.records.take 1⟩ (by decide)).1 (by decide)
  refine ⟨?_, first, (snapshot_roundTrip.2 _ _ first).1⟩
  refine (snapshot_roundTrip.1 deepSection (by decide)).2 1 (by decide) (by decide) ?_
  intro j before
  obtain rfl : j = 0 := by omega
  exact shallow

end Store

end DocIndex
