import DocIndex.Snapshot.Line

/-!
# Parts of a record and their tokens

Each part of a record has its tokens. Two relations say what a reading of a part does. `Yields`
tells from the tokens that come next how the reading ends, and `Takes` tells from a reading that
succeeds which tokens it took. Both are closed under sequencing, so that the reader of a whole
record (`yields_record`, `takes_record`) follows from its parts.
-/

namespace DocIndex

def Object.tokens : Object → List Snapshot.Token
  | heading level number label file =>
    [.atom "section", .lparen, .int level.toNat, .comma, .atom number, .comma, .atom label, .comma,
      .atom file, .rparen]
  | callable name arity => [.atom name, .slash, .int arity.toNat]
  | grammar name arity => [.atom name, .doubleSlash, .int arity.toNat]
  | qualified module inner => .atom module :: .colon :: inner.tokens
  | function name arity => [.atom "f", .lparen, .atom name, .slash, .int arity.toNat, .rparen]
  | symbol name => [.atom "c", .lparen, .atom name, .rparen]

def Record.tokens (record : Record) : List Snapshot.Token :=
  [.atom "record", .lparen] ++ record.object.tokens ++
    [.comma, .string record.summary, .comma, .atom record.file.text, .comma,
      .atom record.pageClass.name, .comma, .int record.offset, .rparen, .stop]

/-- Sections are at most four levels deep, and a module qualifies only what can be called. -/
def Object.IsWellFormed : Object → Prop
  | heading level _ _ _ => level ≤ 4
  | qualified _ inner => inner.isCallable
  | _ => True

instance (object : Object) : Decidable object.IsWellFormed := by
  cases object <;> unfold Object.IsWellFormed <;> infer_instance

/-- What is wrong with an object that is not well formed. -/
def Object.flaw? : Object → Option Snapshot.ShapeError
  | heading level _ _ _ => if level ≤ 4 then none else some (.level level.toNat)
  | qualified _ inner =>
    inner.flaw?.or (if inner.isCallable then none else some (.notQualifiable inner))
  | _ => none

theorem Object.flaw?_of_isCallable {object : Object} (h : object.isCallable) :
    object.flaw? = none := by
  cases object <;> first | rfl | contradiction

theorem Object.flaw?_eq_none_iff (object : Object) :
    object.flaw? = none ↔ object.IsWellFormed := by
  cases object with
  | heading level number label file => simp [flaw?, IsWellFormed]
  | qualified module inner =>
    by_cases callable : inner.isCallable
    · simp [flaw?, IsWellFormed, callable, flaw?_of_isCallable callable]
    · simp [flaw?, IsWellFormed, callable]
  | callable | grammar | function | symbol => simp [flaw?, IsWellFormed]

/-- The object, if it is well formed. -/
def Object.admitted (object : Object) : Except Snapshot.InvalidLine Object :=
  match object.flaw? with
  | none => .ok object
  | some cause => .error (.shape cause)

namespace Snapshot

variable {α β : Type}

/-- The result of a reading that fails so, or that gives so much and leaves these tokens. -/
def Leaves (left : List (Nat × Token)) (result : Except InvalidLine (α × Cursor)) :
    Except InvalidLine α → Prop
  | .error cause => result = .error cause
  | .ok a => ∃ column, result = .ok (a, ⟨column, left⟩)

/-- In front of these tokens the reading ends so: it fails, or it takes them all. -/
def Yields (reading : Reading α) (tokens : List Token) (outcome : Except InvalidLine α) : Prop :=
  ∀ column placed more, placed.map Prod.snd = tokens →
    Leaves more (reading.run ⟨column, placed ++ more⟩) outcome

namespace Yields

variable {first : Reading α} {further : α → Reading β} {front back : List Token}

theorem pure (a : α) : Yields (Pure.pure a) [] (.ok a) := by
  intro column placed more same
  obtain rfl := List.map_eq_nil_iff.mp same
  exact ⟨column, rfl⟩

theorem throw (cause : InvalidLine) (tokens : List Token) :
    Yields (α := α) (MonadExcept.throw cause) tokens (.error cause) :=
  fun _ _ _ _ => rfl

theorem bind {a : α} {outcome : Except InvalidLine β} (one : Yields first front (.ok a))
    (two : Yields (further a) back outcome) : Yields (first >>= further) (front ++ back) outcome := by
  intro column placed more same
  obtain ⟨here, there, rfl, isFront, isBack⟩ := List.map_eq_append_iff.mp same
  obtain ⟨column', read⟩ := one column here (there ++ more) isFront
  rw [List.append_assoc, StateT.run_bind, read]
  exact two column' there more isBack

theorem bind_error {cause : InvalidLine} (one : Yields first front (.error cause)) :
    Yields (first >>= further) (front ++ back) (.error cause) := by
  intro column placed more same
  obtain ⟨here, there, rfl, isFront, -⟩ := List.map_eq_append_iff.mp same
  have failed : first.run ⟨column, here ++ (there ++ more)⟩ = .error cause :=
    one column here (there ++ more) isFront
  rw [List.append_assoc, StateT.run_bind, failed]
  rfl

theorem bind_cons {a : α} {token : Token} {outcome : Except InvalidLine β}
    (one : Yields first [token] (.ok a)) (two : Yields (further a) back outcome) :
    Yields (first >>= further) (token :: back) outcome :=
  bind one two

end Yields

/-! ### Single tokens -/

theorem yields_next {token : Token} (bound : ∀ name, token ≠ .var name) :
    Yields next [token] (.ok token) := by
  intro column placed more same
  obtain ⟨⟨before, found⟩, placed, rfl, rfl, isNil⟩ := List.map_eq_cons_iff.mp same
  obtain rfl := List.map_eq_nil_iff.mp isNil
  refine ⟨before + 1, ?_⟩
  cases found with
  | var name => exact absurd rfl (bound name)
  | _ => rfl

theorem yields_expect {token : Token} (bound : ∀ name, token ≠ .var name) :
    Yields (expect token) [token] (.ok ()) := by
  apply Yields.bind_cons (yields_next bound)
  rw [if_pos rfl]
  exact Yields.pure ()

theorem yields_atom (text : String) : Yields atom [.atom text] (.ok text) :=
  Yields.bind_cons (yields_next (by simp)) (Yields.pure text)

theorem yields_string (text : String) : Yields string [.string text] (.ok text) :=
  Yields.bind_cons (yields_next (by simp)) (Yields.pure text)

theorem yields_integer (value : Nat) : Yields integer [.int value] (.ok value) :=
  Yields.bind_cons (yields_next (by simp)) (Yields.pure value)

theorem yields_arity (value : UInt32) : Yields arity [.int value.toNat] (.ok value) := by
  apply Yields.bind_cons (yields_integer value.toNat)
  rw [if_pos value.toNat_lt, UInt32.ofNat_toNat]
  exact Yields.pure value

theorem yields_pageClass (c : PageClass) : Yields pageClass [.atom c.name] (.ok c) := by
  apply Yields.bind_cons (yields_atom c.name)
  rw [PageClass.ofName?_name]
  exact Yields.pure c

/-! ### Objects -/

theorem yields_level (value : UInt8) :
    Yields level [.int value.toNat]
      (if value ≤ 4 then .ok value else .error (.shape (.level value.toNat))) := by
  apply Yields.bind_cons (yields_integer value.toNat)
  by_cases shallow : value ≤ 4
  · have le : value.toNat ≤ maxLevel := UInt8.le_iff_toNat_le.mp shallow
    rw [if_pos le, if_pos shallow, UInt8.ofNat_toNat]
    exact Yields.pure value
  · have notLe : ¬ value.toNat ≤ maxLevel := fun le => shallow (UInt8.le_iff_toNat_le.mpr le)
    rw [if_neg notLe, if_neg shallow]
    exact Yields.throw _ []

theorem yields_heading (value : UInt8) (number label file : String) :
    Yields heading
      [.int value.toNat, .comma, .atom number, .comma, .atom label, .comma, .atom file]
      (Object.heading value number label file).admitted := by
  have levelRead := yields_level value
  unfold Object.admitted Object.flaw?
  split at levelRead
  next shallow =>
    rw [if_pos shallow]
    apply levelRead.bind_cons
    refine (yields_expect (by simp)).bind_cons ?_
    refine (yields_atom number).bind_cons ?_
    refine (yields_expect (by simp)).bind_cons ?_
    refine (yields_atom label).bind_cons ?_
    refine (yields_expect (by simp)).bind_cons ?_
    exact (yields_atom file).bind_cons (Yields.pure _)
  next deep =>
    rw [if_neg deep]
    exact levelRead.bind_error

theorem yields_function (name : String) (value : UInt32) :
    Yields function [.atom name, .slash, .int value.toNat] (.ok (.function name value)) := by
  refine (yields_atom name).bind_cons ?_
  refine (yields_expect (by simp)).bind_cons ?_
  exact (yields_arity value).bind_cons (Yields.pure _)

theorem yields_symbol (name : String) : Yields symbol [.atom name] (.ok (.symbol name)) :=
  (yields_atom name).bind_cons (Yields.pure _)

/-- A reading that first looks at the token that comes next. -/
theorem Yields.peek {f : Option Token → Reading α} {token : Token} {back : List Token}
    {outcome : Except InvalidLine α} (seen : Yields (f (some token)) (token :: back) outcome) :
    Yields (do let cursor ← get; f (cursor.rest.head?.map Prod.snd)) (token :: back) outcome := by
  intro column placed more same
  obtain ⟨one, others, rfl, rfl, isBack⟩ := List.map_eq_cons_iff.mp same
  exact seen column (one :: others) more same

theorem yields_plainObject {name : String} {token : Token} {back : List Token}
    {outcome : Except InvalidLine Object}
    (behind : Yields (behindName name (some token)) (token :: back) outcome) :
    Yields plainObject (.atom name :: token :: back) outcome :=
  (yields_atom name).bind_cons (Yields.peek behind)

theorem yields_behindName {name : String} {within : Reading Object} {inner : List Token}
    {outcome : Except InvalidLine Object} (isForm : parenthesized? name = some within)
    (read : Yields within inner outcome) :
    Yields (behindName name (some .lparen)) (.lparen :: (inner ++ [.rparen])) outcome := by
  simp only [behindName, isForm]
  refine (yields_expect (by simp)).bind_cons ?_
  cases outcome with
  | error cause => exact read.bind_error
  | ok object =>
    apply read.bind
    exact (yields_expect (by simp)).bind_cons (Yields.pure object)

theorem yields_plainObject_tokens {object : Object} (plain : ∀ m o, object ≠ .qualified m o) :
    Yields plainObject object.tokens object.admitted := by
  cases object with
  | heading value number label file =>
    exact yields_plainObject (yields_behindName rfl (yields_heading value number label file))
  | function name value =>
    exact yields_plainObject (yields_behindName rfl (yields_function name value))
  | symbol name => exact yields_plainObject (yields_behindName rfl (yields_symbol name))
  | callable name value =>
    apply yields_plainObject
    refine (yields_expect (by simp)).bind_cons ?_
    exact (yields_arity value).bind_cons (Yields.pure _)
  | grammar name value =>
    apply yields_plainObject
    refine (yields_expect (by simp)).bind_cons ?_
    exact (yields_arity value).bind_cons (Yields.pure _)
  | qualified module inner => exact absurd rfl (plain module inner)

/-! ### Modules -/

def moduleTokens (names : List String) : List Token :=
  names.flatMap fun name => [.atom name, .colon]

end Snapshot

/-- The modules before an object, from the outside in. -/
def Object.modules : Object → List String
  | qualified module inner => module :: inner.modules
  | _ => []

def Object.core : Object → Object
  | qualified _ inner => inner.core
  | object => object

theorem Object.tokens_eq (object : Object) :
    object.tokens = Snapshot.moduleTokens object.modules ++ object.core.tokens := by
  induction object with
  | qualified module inner ih => rw [tokens, ih]; rfl
  | _ => rfl

theorem Object.core_ne_qualified (object : Object) (m : String) (o : Object) :
    object.core ≠ .qualified m o := by
  induction object with
  | qualified module inner ih => exact ih
  | _ => simp [core]

/-- An object without modules begins with an atom and no colon. -/
theorem Object.tokens_of_plain {object : Object} (plain : ∀ m o, object ≠ .qualified m o) :
    ∃ name token back, token ≠ Snapshot.Token.colon ∧
      object.tokens = .atom name :: token :: back := by
  cases object with
  | qualified module inner => exact absurd rfl (plain module inner)
  | _ => exact ⟨_, _, _, by simp, rfl⟩

/-- To admit an object is to admit what stands behind its modules and to qualify it by them. -/
theorem Object.admitted_eq (object : Object) :
    object.admitted = object.core.admitted >>= object.modules.foldrM Snapshot.qualify := by
  induction object with
  | qualified module inner ih =>
    have unfolded : (Object.qualified module inner).admitted =
        inner.admitted >>= Snapshot.qualify module := by
      simp only [admitted, flaw?]
      cases inner.flaw? with
      | some cause => rfl
      | none =>
        show _ = Snapshot.qualify module inner
        by_cases callable : inner.isCallable <;> simp [Snapshot.qualify, callable]
    rw [unfolded, ih, bind_assoc]
    simp only [core, modules, List.foldrM_cons]
  | _ => simp [core, modules]

namespace Snapshot

theorem takeModules_append {names : List String} {name : String} {token : Token}
    (notColon : token ≠ .colon) {placed : List (Nat × Token)}
    (same : placed.map Prod.snd = moduleTokens names) (column before behind : Nat)
    (more : List (Nat × Token)) :
    ∃ column', takeModules column (placed ++ (before, .atom name) :: (behind, token) :: more) =
      (names, ⟨column', (before, .atom name) :: (behind, token) :: more⟩) := by
  induction names generalizing placed column with
  | nil =>
    obtain rfl := List.map_eq_nil_iff.mp same
    refine ⟨column, ?_⟩
    cases token with
    | colon => exact absurd rfl notColon
    | _ => rfl
  | cons module names ih =>
    obtain ⟨⟨b, t⟩, behindAtom, rfl, rfl, colonNext⟩ := List.map_eq_cons_iff.mp same
    obtain ⟨⟨b', t'⟩, behindColon, rfl, rfl, others⟩ := List.map_eq_cons_iff.mp colonNext
    obtain ⟨column', taken⟩ := ih others (b' + 1)
    refine ⟨column', ?_⟩
    rw [List.cons_append, List.cons_append, takeModules, taken]

theorem Yields.modules {f : List String → Reading α} {names : List String} {name : String}
    {token : Token} {back : List Token} {outcome : Except InvalidLine α} (notColon : token ≠ .colon)
    (read : Yields (f names) (.atom name :: token :: back) outcome) :
    Yields (modules >>= f) (moduleTokens names ++ .atom name :: token :: back) outcome := by
  intro column placed more same
  obtain ⟨here, there, rfl, isModules, isRest⟩ := List.map_eq_append_iff.mp same
  obtain ⟨⟨before, t⟩, behindAtom, rfl, rfl, others⟩ := List.map_eq_cons_iff.mp isRest
  obtain ⟨⟨behind, t'⟩, behindToken, rfl, rfl, -⟩ := List.map_eq_cons_iff.mp others
  obtain ⟨column', taken⟩ :=
    takeModules_append notColon isModules column before behind (behindToken ++ more)
  have rest := read column' ((before, .atom name) :: (behind, t') :: behindToken) more isRest
  rw [List.append_assoc]
  show Leaves more ((f (takeModules column _).1).run (takeModules column _).2) outcome
  rw [List.cons_append, List.cons_append, taken]
  exact rest

theorem yields_foldrM_qualify (names : List String) (inner : Object) :
    Yields (names.foldrM (fun module inner => liftM (qualify module inner)) inner) []
      (names.foldrM qualify inner) := by
  induction names with
  | nil => exact Yields.pure inner
  | cons module names ih =>
    rw [List.foldrM_cons, List.foldrM_cons]
    cases read : names.foldrM qualify inner with
    | error cause =>
      rw [read] at ih
      rw [← List.append_nil []]
      exact ih.bind_error
    | ok object =>
      rw [read] at ih
      rw [← List.append_nil []]
      apply ih.bind
      intro column placed more same
      obtain rfl := List.map_eq_nil_iff.mp same
      show Leaves more _ (qualify module object)
      cases qualify module object with
      | error cause => rfl
      | ok qualified => exact ⟨column, rfl⟩

theorem yields_object (o : Object) : Yields object o.tokens o.admitted := by
  have read := yields_plainObject_tokens o.core_ne_qualified
  obtain ⟨name, token, back, notColon, tokens⟩ := Object.tokens_of_plain o.core_ne_qualified
  rw [o.tokens_eq, o.admitted_eq, tokens]
  refine Yields.modules notColon ?_
  rw [tokens] at read
  rw [← List.append_nil (_ :: _)]
  cases admitted : o.core.admitted with
  | error cause =>
    rw [admitted] at read
    exact read.bind_error
  | ok inner =>
    rw [admitted] at read
    exact read.bind (yields_foldrM_qualify o.modules inner)

end Snapshot

def Record.admitted (record : Record) : Except Snapshot.InvalidLine Record :=
  match record.object.flaw? with
  | none => .ok record
  | some cause => .error (.shape cause)

namespace Snapshot

/-- A record is read from its tokens, if its object is well formed. -/
theorem yields_record (r : Record) : Yields record r.tokens r.admitted := by
  have object := yields_object r.object
  unfold Record.admitted
  refine (yields_next (by simp)).bind_cons ?_
  refine (yields_expect (by simp)).bind_cons ?_
  unfold Object.admitted at object
  cases flaw : r.object.flaw? with
  | some cause =>
    rw [flaw] at object
    exact object.bind_error
  | none =>
    rw [flaw] at object
    apply object.bind
    refine (yields_expect (by simp)).bind_cons ?_
    refine (yields_string r.summary).bind_cons ?_
    refine (yields_expect (by simp)).bind_cons ?_
    refine (yields_atom r.file.text).bind_cons ?_
    refine (yields_expect (by simp)).bind_cons ?_
    refine (yields_pageClass r.pageClass).bind_cons ?_
    refine (yields_expect (by simp)).bind_cons ?_
    refine (yields_integer r.offset).bind_cons ?_
    refine (yields_expect (by simp)).bind_cons ?_
    exact (yields_expect (by simp)).bind_cons (Yields.pure _)

theorem ofTokens_tokens (r : Record) {placed : List (Nat × Token)}
    (same : placed.map Prod.snd = r.tokens) : ofTokens placed = r.admitted := by
  have read := yields_record r 1 placed [] same
  rw [List.append_nil] at read
  unfold ofTokens
  cases admitted : r.admitted with
  | error cause =>
    rw [admitted] at read
    rw [show record.run ⟨1, placed⟩ = .error cause from read]
    rfl
  | ok found =>
    rw [admitted] at read
    obtain ⟨column, result⟩ := read
    rw [result]
    rfl

end Snapshot

end DocIndex
