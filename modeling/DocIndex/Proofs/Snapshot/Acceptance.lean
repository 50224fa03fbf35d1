import DocIndex.Proofs.Snapshot.Reading

/-!
# What the reader accepts

A reading that succeeds took the tokens of what it gave, and what it gave is well formed. So the
reader of a line accepts the tokens of well-formed records and nothing else (`ofTokens_eq_ok_iff`).
-/

namespace DocIndex.Snapshot

variable {α β : Type}

/-- When the reading succeeds, the tokens it took and its result are related so. -/
def Takes (reading : Reading α) (accepts : List Token → α → Prop) : Prop :=
  ∀ cursor a left, reading.run cursor = .ok (a, left) →
    ∃ taken, cursor.rest = taken ++ left.rest ∧ accepts (taken.map Prod.snd) a

namespace Takes

variable {first : Reading α} {further : α → Reading β}

theorem pure {accepts : List Token → α → Prop} {a : α} (accepted : accepts [] a) :
    Takes (Pure.pure a) accepts := by
  intro cursor a' left read
  cases read
  exact ⟨[], rfl, accepted⟩

theorem throw {accepts : List Token → α → Prop} (cause : InvalidLine) :
    Takes (α := α) (MonadExcept.throw cause) accepts := by
  intro cursor a left read
  cases read

theorem malformed {accepts : List Token → α → Prop} (cause : SyntaxError) :
    Takes (α := α) (malformed cause) accepts := by
  intro cursor a left read
  cases read

theorem bind {middle : List Token → α → Prop} {accepts : List Token → β → Prop}
    (one : Takes first middle)
    (two : ∀ front a, middle front a → Takes (further a) fun back b => accepts (front ++ back) b) :
    Takes (first >>= further) accepts := by
  intro cursor b left read
  rw [StateT.run_bind] at read
  cases here : first.run cursor with
  | error cause =>
    rw [here] at read
    cases read
  | ok result =>
    obtain ⟨a, between⟩ := result
    rw [here] at read
    obtain ⟨front, isFront, good⟩ := one cursor a between here
    obtain ⟨back, isBack, accepted⟩ := two _ a good between b left read
    refine ⟨front ++ back, ?_, ?_⟩
    · rw [isFront, isBack, List.append_assoc]
    · rw [List.map_append]
      exact accepted

theorem bind_eq {tokensOf : α → List Token} {accepts : List Token → β → Prop}
    (one : Takes first fun tokens a => tokens = tokensOf a)
    (two : ∀ a, Takes (further a) fun back b => accepts (tokensOf a ++ back) b) :
    Takes (first >>= further) accepts :=
  one.bind fun _ a same => same ▸ two a

end Takes

/-! ### Single tokens -/

theorem takes_next : Takes next fun tokens token => tokens = [token] := by
  intro cursor token left read
  obtain ⟨column, rest⟩ := cursor
  cases rest with
  | nil => cases read
  | cons one rest =>
    obtain ⟨before, found⟩ := one
    refine ⟨[(before, found)], ?_⟩
    cases found <;> cases read <;> exact ⟨rfl, rfl⟩

theorem takes_expect (token : Token) : Takes (expect token) fun tokens _ => tokens = [token] := by
  apply takes_next.bind_eq
  intro found
  split
  next same => exact Takes.pure (by simp [same])
  next => exact Takes.malformed _

theorem takes_atom : Takes atom fun tokens text => tokens = [.atom text] := by
  apply takes_next.bind_eq
  intro found
  split
  · exact Takes.pure rfl
  · exact Takes.throw _

theorem takes_string : Takes string fun tokens text => tokens = [.string text] := by
  apply takes_next.bind_eq
  intro found
  split
  · exact Takes.pure rfl
  · exact Takes.throw _

theorem takes_integer : Takes integer fun tokens value => tokens = [.int value] := by
  apply takes_next.bind_eq
  intro found
  split
  · exact Takes.pure rfl
  · exact Takes.throw _

theorem takes_arity : Takes arity fun tokens value => tokens = [.int value.toNat] := by
  apply takes_integer.bind_eq
  intro value
  split
  next small => exact Takes.pure (by simp [UInt32.toNat_ofNat_of_lt' small])
  next => exact Takes.throw _

theorem takes_level : Takes level fun tokens value => tokens = [.int value.toNat] ∧ value ≤ 4 := by
  apply takes_integer.bind_eq
  intro value
  split
  next shallow =>
    have small : value < UInt8.size := Nat.lt_of_le_of_lt shallow (by decide)
    have same : (UInt8.ofNat value).toNat = value := UInt8.toNat_ofNat_of_lt' small
    refine Takes.pure ⟨by simp [same], ?_⟩
    rw [UInt8.le_iff_toNat_le, same]
    exact shallow
  next => exact Takes.throw _

theorem takes_pageClass : Takes pageClass fun tokens c => tokens = [.atom c.name] := by
  apply takes_atom.bind_eq
  intro name
  split
  next c found => exact Takes.pure (by simp [PageClass.name_of_ofName? found])
  next => exact Takes.throw _

/-! ### Objects -/

/-- The tokens between the parentheses behind a name are those of a well-formed object. -/
def IsArgument (name : String) (tokens : List Token) (object : Object) : Prop :=
  object.tokens = .atom name :: .lparen :: (tokens ++ [.rparen]) ∧ object.IsWellFormed

theorem takes_heading : Takes heading (IsArgument "section") := by
  apply takes_level.bind
  intro _ value isLevel
  obtain ⟨rfl, shallow⟩ := isLevel
  apply (takes_expect .comma).bind_eq
  intro _
  apply takes_atom.bind_eq
  intro number
  apply (takes_expect .comma).bind_eq
  intro _
  apply takes_atom.bind_eq
  intro label
  apply (takes_expect .comma).bind_eq
  intro _
  apply takes_atom.bind_eq
  intro file
  exact Takes.pure ⟨rfl, shallow⟩

theorem takes_function : Takes function (IsArgument "f") := by
  apply takes_atom.bind_eq
  intro name
  apply (takes_expect .slash).bind_eq
  intro _
  apply takes_arity.bind_eq
  intro value
  exact Takes.pure ⟨rfl, trivial⟩

theorem takes_symbol : Takes symbol (IsArgument "c") := by
  apply takes_atom.bind_eq
  intro name
  exact Takes.pure ⟨rfl, trivial⟩

theorem takes_parenthesized? {name : String} {within : Reading Object}
    (isForm : parenthesized? name = some within) : Takes within (IsArgument name) := by
  unfold parenthesized? at isForm
  split at isForm
  next isSection =>
    cases isForm
    exact isSection ▸ takes_heading
  split at isForm
  next isFunction =>
    cases isForm
    exact isFunction ▸ takes_function
  split at isForm
  next isSymbol =>
    cases isForm
    exact isSymbol ▸ takes_symbol
  next => cases isForm

theorem takes_behindName (name : String) (token? : Option Token) :
    Takes (behindName name token?) fun tokens object =>
      object.tokens = .atom name :: tokens ∧ object.IsWellFormed := by
  unfold behindName
  split
  next within _ isForm =>
    apply (takes_expect .lparen).bind_eq
    intro _
    apply (takes_parenthesized? isForm).bind
    intro inner object argument
    apply (takes_expect .rparen).bind_eq
    intro _
    exact Takes.pure (by simpa [IsArgument] using argument)
  next =>
    apply (takes_expect .slash).bind_eq
    intro _
    apply takes_arity.bind_eq
    intro value
    exact Takes.pure ⟨rfl, trivial⟩
  next =>
    apply (takes_expect .doubleSlash).bind_eq
    intro _
    apply takes_arity.bind_eq
    intro value
    exact Takes.pure ⟨rfl, trivial⟩
  next => exact Takes.throw _

theorem Takes.get {further : Cursor → Reading β} {accepts : List Token → β → Prop}
    (each : ∀ cursor, Takes (further cursor) accepts) : Takes (get >>= further) accepts :=
  fun cursor => each cursor cursor

theorem takes_plainObject :
    Takes plainObject fun tokens object => object.tokens = tokens ∧ object.IsWellFormed := by
  apply takes_atom.bind_eq
  intro name
  exact Takes.get fun _ => takes_behindName name _

theorem takeModules_spec (column : Nat) (rest : List (Nat × Token)) :
    ∃ taken, rest = taken ++ (takeModules column rest).2.rest ∧
      taken.map Prod.snd = moduleTokens (takeModules column rest).1 := by
  fun_induction takeModules column rest with
  | case1 column before name behind rest further ih =>
    obtain ⟨taken, isTaken, areModules⟩ := ih
    refine ⟨(before, .atom name) :: (behind, .colon) :: taken, ?_, ?_⟩
    · simpa using isTaken
    · simpa [moduleTokens] using areModules
  | case2 column rest => exact ⟨[], rfl, rfl⟩

theorem takes_modules : Takes modules fun tokens names => tokens = moduleTokens names := by
  intro cursor names left read
  obtain ⟨taken, isTaken, areModules⟩ := takeModules_spec cursor.column cursor.rest
  cases read
  exact ⟨taken, isTaken, areModules⟩

theorem takes_qualify (module : String) (inner : Object) :
    Takes (liftM (qualify module inner)) fun tokens object =>
      tokens = [] ∧ inner.isCallable ∧ object = .qualified module inner := by
  intro cursor object left read
  by_cases callable : inner.isCallable
  · simp only [qualify, callable, if_true] at read
    cases read
    exact ⟨[], rfl, rfl, callable, rfl⟩
  · simp only [qualify, callable] at read
    cases read

theorem takes_foldrM_qualify (names : List String) {inner : Object} (good : inner.IsWellFormed) :
    Takes (names.foldrM (fun module inner => liftM (qualify module inner)) inner)
      fun tokens object =>
        tokens = [] ∧ object.tokens = moduleTokens names ++ inner.tokens ∧
          object.IsWellFormed := by
  induction names with
  | nil => exact Takes.pure ⟨rfl, rfl, good⟩
  | cons module names ih =>
    rw [List.foldrM_cons]
    apply ih.bind
    intro _ object found
    obtain ⟨rfl, tokens, -⟩ := found
    intro cursor qualified left read
    obtain ⟨taken, isTaken, none, callable, rfl⟩ := takes_qualify module object cursor _ left read
    refine ⟨taken, isTaken, none, ?_, callable⟩
    rw [Object.tokens, tokens]
    rfl

theorem takes_object :
    Takes object fun tokens object => object.tokens = tokens ∧ object.IsWellFormed := by
  apply takes_modules.bind_eq
  intro names
  apply takes_plainObject.bind
  intro inner object found
  obtain ⟨rfl, good⟩ := found
  intro cursor qualified left read
  obtain ⟨taken, isTaken, none, tokens, wellFormed⟩ :=
    takes_foldrM_qualify names good cursor qualified left read
  refine ⟨taken, isTaken, ?_, wellFormed⟩
  rw [tokens, none, List.append_nil]

/-! ### Records -/

theorem takes_record :
    Takes record fun tokens r => r.tokens = tokens ∧ r.object.IsWellFormed := by
  apply takes_next.bind_eq
  intro functor
  by_cases isRecord : functor = .atom "record"
  · subst isRecord
    apply (takes_expect .lparen).bind_eq
    intro _
    apply takes_object.bind
    intro _ object found
    obtain ⟨rfl, good⟩ := found
    apply (takes_expect .comma).bind_eq
    intro _
    apply takes_string.bind_eq
    intro summary
    apply (takes_expect .comma).bind_eq
    intro _
    apply takes_atom.bind_eq
    intro file
    apply (takes_expect .comma).bind_eq
    intro _
    apply takes_pageClass.bind_eq
    intro pageClass
    apply (takes_expect .comma).bind_eq
    intro _
    apply takes_integer.bind_eq
    intro offset
    apply (takes_expect .rparen).bind_eq
    intro _
    apply (takes_expect .stop).bind_eq
    intro _
    exact Takes.pure ⟨by simp [Record.tokens], good⟩
  · rw [if_pos isRecord]
    intro cursor r left read
    cases read

/-- The tokens of well-formed records are accepted, and no others. -/
theorem ofTokens_eq_ok_iff {placed : List (Nat × Token)} {r : Record} :
    ofTokens placed = .ok r ↔ placed.map Prod.snd = r.tokens ∧ r.object.IsWellFormed := by
  constructor
  · intro read
    unfold ofTokens at read
    cases taken : record.run ⟨1, placed⟩ with
    | error cause =>
      rw [taken] at read
      cases read
    | ok result =>
      obtain ⟨found, left⟩ := result
      obtain ⟨front, isFront, tokens, good⟩ := takes_record _ _ _ taken
      rw [taken] at read
      by_cases done : left.rest.isEmpty
      · have nothingLeft : left.rest = [] := List.isEmpty_iff.mp done
        have same : found = r := by
          simpa [bind, Except.bind, pure, Except.pure, done] using read
        subst same
        rw [nothingLeft, List.append_nil] at isFront
        subst isFront
        exact ⟨tokens.symm, good⟩
      · simp [bind, Except.bind, done] at read
  · rintro ⟨same, good⟩
    rw [ofTokens_tokens r same, Record.admitted, r.object.flaw?_eq_none_iff.mpr good]

/-! ### Numbers -/

theorem int_lt_of_integerToken? {digits : List Char} {value : Nat}
    (read : integerToken? digits = some (.int value)) : value < UInt64.size := by
  obtain ⟨n, -, isToken⟩ := Option.bind_eq_some_iff.mp read
  split at isToken
  next small =>
    cases isToken
    exact small
  next => cases isToken

theorem int_lt_of_firstToken {c : Char} {cs rest : List Char} {value : Nat}
    (read : firstToken c cs = .ok (.int value, rest)) : value < UInt64.size := by
  unfold firstToken at read
  split at read
  next token sign =>
    cases read
    unfold punctuation? at sign
    split at sign <;> cases sign
  split at read
  · unfold slashToken at read
    split at read <;> cases read
  split at read
  · cases read
  split at read
  · split at read
    · unfold quotedToken at read
      split at read <;> cases read
    · cases read
  split at read
  · split at read
    next token number =>
      cases read
      exact int_lt_of_integerToken? number
    next => cases read
  split at read
  · unfold wordToken at read
    split at read <;> cases read
  · cases read

/-- Every number on a line fits in 64 bits. -/
theorem int_lt_of_mem_tokensFrom {before : Nat} {cs : List Char} {found : List (Nat × Token)}
    (read : tokensFrom before cs = .ok found) {place value : Nat}
    (mem : (place, .int value) ∈ found) : value < UInt64.size := by
  fun_induction tokensFrom before cs generalizing found with
  | case1 =>
    cases read
    cases mem
  | case2 before c cs blank ih => exact ih read mem
  | case3 => cases read
  | case4 before c cs notBlank first isFirst ih =>
    cases rest : tokensFrom (before + (cs.length + 1 - first.2.length)) first.2 with
    | error cause =>
      rw [rest] at read
      cases read
    | ok others =>
      rw [rest] at read
      cases read
      rcases List.mem_cons.mp mem with same | mem
      · obtain ⟨-, isInt⟩ := Prod.mk.inj same
        obtain ⟨token, after⟩ := first
        subst isInt
        exact int_lt_of_firstToken isFirst
      · exact ih rest mem

theorem storable_of_readRecord {line : List Char} {r : Record} (read : readRecord line = .ok r) :
    r.object.IsWellFormed ∧ r.offset < UInt64.size := by
  unfold readRecord at read
  split at read
  next => cases read
  next found tokensRead =>
    obtain ⟨tokens, good⟩ := ofTokens_eq_ok_iff.mp read
    refine ⟨good, ?_⟩
    have offset : Token.int r.offset ∈ found.map Prod.snd := by
      rw [tokens]
      simp [Record.tokens]
    obtain ⟨⟨place, token⟩, mem, rfl⟩ := List.mem_map.mp offset
    exact int_lt_of_mem_tokensFrom tokensRead mem

end DocIndex.Snapshot
