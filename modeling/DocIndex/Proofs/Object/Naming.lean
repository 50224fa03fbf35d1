import DocIndex.Proofs.Object.Form

/-!
# What a text names

A text names an object if it is the spelling of a shape whose parts the object has, or a module and
a text that names what can be called (`Names`). This is how identifiers are read
(`ofToken?_eq_some_iff`). Such a text has no blanks.
-/

namespace DocIndex.Object

/-! ### Names in quotes or parentheses -/

theorem isWrapped_self (first last : Char) (inner : List Char) :
    Text.isWrapped first last (first :: (inner ++ [last])) = true := by
  have isLast : (first :: (inner ++ [last])).getLast? = some last := by
    rw [← List.cons_append, List.getLast?_concat]
  simp [Text.isWrapped, isLast]

theorem exists_of_isWrapped {first last : Char} {cs : List Char}
    (wrapped : Text.isWrapped first last cs = true) : ∃ inner, cs = first :: (inner ++ [last]) := by
  simp only [Text.isWrapped, Bool.and_eq_true, decide_eq_true_eq, beq_iff_eq] at wrapped
  obtain ⟨⟨room, isFirst⟩, isLast⟩ := wrapped
  obtain ⟨rest, rfl⟩ := List.head?_eq_some_iff.mp isFirst
  have nonempty : rest ≠ [] := by
    rintro rfl
    contradiction
  rw [List.getLast?_cons_of_ne_nil nonempty] at isLast
  obtain ⟨inner, rfl⟩ := List.getLast?_eq_some_iff.mp isLast
  exact ⟨inner, rfl⟩

/-- A name that is read as it is. -/
structure IsUsable (name : List Char) : Prop extends Text.IsWord name where
  unquoted : ∀ inner, name ≠ '\'' :: (inner ++ ['\''])
  bare : ∀ inner, inner ≠ [] → name ≠ '(' :: (inner ++ [')'])

theorem mergeQuotes_sublist (cs : List Char) : (mergeQuotes cs).Sublist cs := by
  fun_induction mergeQuotes cs with
  | case1 rest ih => exact (ih.cons _).cons_cons _
  | case2 c rest _ ih => exact ih.cons_cons c
  | case3 => exact .slnil

theorem unescapeQuotes_sublist (cs : List Char) : (unescapeQuotes cs).Sublist cs := by
  fun_induction unescapeQuotes cs with
  | case1 rest ih => exact (ih.cons_cons _).cons _
  | case2 c rest _ ih => exact ih.cons_cons c
  | case3 => exact .slnil

theorem length_unwrapName?_quoted {inner : List Char} {name : String}
    (read : unwrapName? ('\'' :: (inner ++ ['\''])) = some name) :
    name.toList.length ≤ inner.length := by
  simp only [unwrapName?, isWrapped_self, if_true, List.tail_cons, List.dropLast_concat,
    Option.ite_none_left_eq_some, Option.some.injEq] at read
  obtain ⟨-, rfl⟩ := read
  rw [String.toList_ofList]
  exact ((unescapeQuotes_sublist _).trans (mergeQuotes_sublist inner)).length_le

theorem length_unwrapName?_parens {inner : List Char} {name : String} (nonempty : inner ≠ [])
    (read : unwrapName? ('(' :: (inner ++ [')'])) = some name) :
    name.toList.length ≤ inner.length := by
  have unquoted : Text.isWrapped '\'' '\'' ('(' :: (inner ++ [')'])) = false := by
    simp [Text.isWrapped]
  have long : ('(' :: (inner ++ [')'])).length ≠ 2 := by simpa using nonempty
  simp only [unwrapName?, unquoted, isWrapped_self, long, ne_eq, not_false_eq_true, decide_true,
    Bool.and_self, Bool.false_eq_true, if_false, if_true, List.tail_cons, List.dropLast_concat,
    Option.ite_none_left_eq_some, Option.some.injEq] at read
  obtain ⟨-, rfl⟩ := read
  exact Nat.le_of_eq (congrArg List.length String.toList_ofList)

theorem unwrapName?_unwrapped {cs : List Char} (unquoted : ∀ inner, cs ≠ '\'' :: (inner ++ ['\'']))
    (bare : ∀ inner, inner ≠ [] → cs ≠ '(' :: (inner ++ [')'])) :
    unwrapName? cs = if cs.isEmpty then none else some (String.ofList cs) := by
  have noQuotes : ¬Text.isWrapped '\'' '\'' cs = true := by
    intro wrapped
    obtain ⟨inner, eq⟩ := exists_of_isWrapped wrapped
    exact unquoted inner eq
  have noParens : ¬(Text.isWrapped '(' ')' cs && cs.length ≠ 2) = true := by
    intro holds
    obtain ⟨wrapped, long⟩ := Bool.and_eq_true_iff.mp holds
    obtain ⟨inner, rfl⟩ := exists_of_isWrapped wrapped
    exact bare inner (by simpa using long) rfl
  simp only [unwrapName?, if_neg noQuotes, if_neg noParens]

theorem sublist_of_unwrapName? {cs : List Char} {name : String}
    (read : unwrapName? cs = some name) : name.toList ≠ [] ∧ name.toList.Sublist cs := by
  have inside : (cs.tail.dropLast).Sublist cs :=
    (List.dropLast_sublist _).trans (List.tail_sublist cs)
  simp only [unwrapName?, Option.ite_none_left_eq_some, Option.some.injEq] at read
  obtain ⟨some, rfl⟩ := read
  rw [String.toList_ofList]
  refine ⟨by simpa using some, ?_⟩
  split
  · exact ((unescapeQuotes_sublist _).trans (mergeQuotes_sublist _)).trans inside
  · split
    · exact inside
    · exact List.Sublist.refl cs

theorem length_unwrapName?_le {cs : List Char} {name : String} (read : unwrapName? cs = some name) :
    name.toList.length ≤ cs.length :=
  (sublist_of_unwrapName? read).2.length_le

/-- The names that are read as they are are those with nothing around them. -/
theorem unwrapName?_eq_some_self_iff {name : String} (word : Text.IsWord name.toList) :
    unwrapName? name.toList = some name ↔ IsUsable name.toList := by
  constructor
  · intro read
    -- A name with something around it would be longer than what is read of it.
    refine ⟨word, ?_, ?_⟩
    · intro inner eq
      have shorter := length_unwrapName?_quoted (eq ▸ read)
      rw [eq] at shorter
      simp only [List.length_cons, List.length_append] at shorter
      omega
    · intro inner nonempty eq
      have shorter := length_unwrapName?_parens nonempty (eq ▸ read)
      rw [eq] at shorter
      simp only [List.length_cons, List.length_append] at shorter
      omega
  · intro usable
    rw [unwrapName?_unwrapped usable.unquoted usable.bare, if_neg (by simp [word.some]),
      String.ofList_toList]

/-! ### What a text names -/

/-- The object of a shape, part by part. -/
inductive Form.Gives : Form → Object → Prop where
  | grammar {raw digits : List Char} {name : String} {arity : UInt32}
      (unwrapped : unwrapName? raw = some name) (read : arity? digits = some arity) :
      Gives (.grammar raw digits) (.grammar name arity)
  | callable {raw digits : List Char} {name : String} {arity : UInt32}
      (unwrapped : unwrapName? raw = some name) (read : arity? digits = some arity) :
      Gives (.callable raw digits) (.callable name arity)
  | function {raw digits : List Char} {name : String} {arity : UInt32}
      (unwrapped : unwrapName? raw = some name) (read : arity? digits = some arity) :
      Gives (.function raw digits) (.function name arity)
  | symbol {raw : List Char} {name : String} (unwrapped : unwrapName? raw = some name) :
      Gives (.symbol raw) (.symbol name)

theorem Form.object?_eq_some_iff {form : Form} {object : Object} :
    form.object? = some object ↔ form.Gives object := by
  constructor
  · intro named
    cases form with
    | grammar | callable | function =>
      simp only [object?, Option.bind_eq_bind, Option.pure_def, Option.bind_eq_some_iff,
        Option.some.injEq] at named
      obtain ⟨name, unwrapped, arity, read, rfl⟩ := named
      constructor <;> assumption
    | symbol =>
      simp only [object?, Option.bind_eq_bind, Option.pure_def, Option.bind_eq_some_iff,
        Option.some.injEq] at named
      obtain ⟨name, unwrapped, rfl⟩ := named
      exact .symbol unwrapped
  · rintro (⟨unwrapped, read⟩ | ⟨unwrapped, read⟩ | ⟨unwrapped, read⟩ | unwrapped) <;>
      simp [object?, *]

/-- The text names the object: a module qualifies what can be called, and any other text is the
spelling of a shape. -/
inductive Names : List Char → Object → Prop where
  | form {form : Form} {object : Object} (spelled : form.IsSpelled isNumeral)
      (free : splitModule? form.spelling = none) (gives : form.Gives object) :
      Names form.spelling object
  | qualified {module rest : List Char} {inner : Object} (isModule : IsModuleName module)
      (follows : followsColon rest = true) (named : Names rest inner)
      (callable : inner.isCallable = true) :
      Names (module ++ ':' :: rest) (.qualified (String.ofList module) inner)

theorem ofToken?_of_qualified {token module rest : List Char}
    (split : splitModule? token = some (module, rest)) :
    ofToken? token = (ofToken? rest).bind fun inner =>
      if inner.isCallable then some (.qualified (String.ofList module) inner) else none := by
  rw [ofToken?]
  split
  next found =>
    rw [split] at found
    cases found
    cases ofToken? rest <;> rfl
  next found =>
    rw [split] at found
    contradiction

theorem ofToken?_of_unqualified {token : List Char} (split : splitModule? token = none) :
    ofToken? token = (form? isNumeral token).bind Form.object? := by
  rw [ofToken?]
  split
  next found =>
    rw [split] at found
    contradiction
  next => rfl

theorem names_of_ofToken? {token : List Char} {object : Object}
    (read : ofToken? token = some object) : Names token object := by
  cases split : splitModule? token with
  | none =>
    rw [ofToken?_of_unqualified split] at read
    obtain ⟨form, found, named⟩ := Option.bind_eq_some_iff.mp read
    obtain ⟨spelled, rfl⟩ := (form?_eq_some_iff isNumbering_isNumeral).mp found
    exact .form spelled split (Form.object?_eq_some_iff.mp named)
  | some parts =>
    have shorter := length_splitModule? split
    obtain ⟨isModule, follows, whole⟩ := splitModule?_eq_some_iff.mp split
    rw [ofToken?_of_qualified split] at read
    obtain ⟨inner, readInner, isQualified⟩ := Option.bind_eq_some_iff.mp read
    split at isQualified
    next callable =>
      cases isQualified
      rw [whole]
      exact .qualified isModule follows (names_of_ofToken? readInner) callable
    next => contradiction
termination_by token.length

theorem ofToken?_eq_some_iff {token : List Char} {object : Object} :
    ofToken? token = some object ↔ Names token object := by
  constructor
  · exact names_of_ofToken?
  · intro names
    induction names with
    | form spelled free gives =>
      rw [ofToken?_of_unqualified free, form?_spelling isNumbering_isNumeral spelled,
        Option.bind_some, Form.object?_eq_some_iff.mpr gives]
    | qualified isModule follows _ callable ih =>
      rw [ofToken?_of_qualified (splitModule?_eq_some_iff.mpr ⟨isModule, follows, rfl⟩), ih,
        Option.bind_some, if_pos callable]

/-! ### Numbers of arguments -/

theorem isNumeral_decimal (n : Nat) : isNumeral (Text.decimal n) = true :=
  isNumeral_eq_true_iff.mpr ⟨Text.decimal_ne_nil n, fun _ => Text.isDigit_of_mem_decimal⟩

theorem not_mem_decimal {c : Char} (noDigit : c.isDigit = false) (n : Nat) :
    c ∉ Text.decimal n :=
  not_mem_of_isNumeral noDigit (isNumeral_decimal n)

theorem arity?_decimal (arity : UInt32) : arity? (Text.decimal arity.toNat) = some arity := by
  rw [arity?, Text.decimal?_decimal, Option.bind_some, if_pos arity.toNat_lt, UInt32.ofNat_toNat]

theorem length_decimal_arity_le {digits : List Char} {arity : UInt32}
    (read : arity? digits = some arity) :
    (Text.decimal arity.toNat).length ≤ digits.length := by
  obtain ⟨n, isNumber, small⟩ := Option.bind_eq_some_iff.mp read
  split at small
  next inRange =>
    cases small
    rw [UInt32.toNat_ofNat_of_lt' inRange]
    exact Text.length_decimal_le isNumber
  next => contradiction

theorem isWord_of_isNumeral {digits : List Char} (numeral : isNumeral digits = true) :
    Text.IsWord digits := by
  obtain ⟨nonempty, areDigits⟩ := isNumeral_eq_true_iff.mp numeral
  refine ⟨nonempty, fun c mem => Text.isBlank_eq_false_of_isAlphanum ?_⟩
  simp [Char.isAlphanum, areDigits c mem]

theorem isWord_decimal (n : Nat) : Text.IsWord (Text.decimal n) :=
  isWord_of_isNumeral (isNumeral_decimal n)

theorem Form.IsSpelled.isWord {form : Form} (spelled : form.IsSpelled isNumeral) :
    Text.IsWord form.spelling := by
  have closing : Text.IsWord [')'] := Text.isWord_singleton rfl
  cases form with
  | grammar name digits =>
    obtain ⟨word, numeral⟩ := spelled
    exact word.append (((isWord_of_isNumeral numeral).cons rfl).cons rfl)
  | callable name digits =>
    obtain ⟨word, numeral, -⟩ := spelled
    exact word.append ((isWord_of_isNumeral numeral).cons rfl)
  | function name digits =>
    obtain ⟨word, numeral⟩ := spelled
    have argument := word.append ((isWord_of_isNumeral numeral).cons (c := '/') rfl)
    exact ((argument.append closing).cons rfl).cons rfl
  | symbol name =>
    have word : Text.IsWord name := spelled
    exact ((word.append closing).cons rfl).cons rfl

theorem Names.isWord {token : List Char} {object : Object} (names : Names token object) :
    Text.IsWord token := by
  induction names with
  | form spelled _ _ => exact spelled.isWord
  | qualified isModule _ _ _ ih => exact isModule.isWord.append (ih.cons rfl)

/-! ### The names in an object -/

theorem isWord_of_unwrapName? {raw : List Char} {name : String} (word : Text.IsWord raw)
    (unwrapped : unwrapName? raw = some name) : Text.IsWord name.toList :=
  word.of_sublist (sublist_of_unwrapName? unwrapped).1 (sublist_of_unwrapName? unwrapped).2

/-- The names in an object, those of the modules first. -/
def allNames : Object → List String
  | heading .. => []
  | callable name _ => [name]
  | grammar name _ => [name]
  | qualified module inner => module :: inner.allNames
  | function name _ => [name]
  | symbol name => [name]

theorem Form.Gives.isWord_of_mem_allNames {form : Form} {object : Object}
    (gives : form.Gives object) (spelled : form.IsSpelled isNumeral) :
    object.allNames ≠ [] ∧ ∀ name ∈ object.allNames, Text.IsWord name.toList := by
  have single {raw : List Char} {name : String} (word : Text.IsWord raw)
      (unwrapped : unwrapName? raw = some name) :
      [name] ≠ [] ∧ ∀ other ∈ [name], Text.IsWord other.toList := by
    simpa using isWord_of_unwrapName? word unwrapped
  cases gives with
  | grammar unwrapped | callable unwrapped | function unwrapped => exact single spelled.1 unwrapped
  | symbol unwrapped => exact single spelled unwrapped

/-- The names that an identifier gives an object have no blanks, those of modules included. -/
theorem Names.isWord_of_mem_allNames {token : List Char} {object : Object}
    (names : Names token object) :
    object.allNames ≠ [] ∧ ∀ name ∈ object.allNames, Text.IsWord name.toList := by
  induction names with
  | form spelled _ gives => exact gives.isWord_of_mem_allNames spelled
  | qualified isModule _ _ _ ih =>
    refine ⟨List.cons_ne_nil _ _, ?_⟩
    intro name mem
    rcases List.mem_cons.mp mem with rfl | inside
    · rw [String.toList_ofList]
      exact isModule.isWord
    · exact ih.2 name inside

/-! ### Identifiers of each form -/

section
variable {raw : List Char} {name : String} (word : Text.IsWord raw)
  (unwrapped : unwrapName? raw = some name) (arity : UInt32)
include word unwrapped

theorem names_callable (free : ¬BeginsWithModule raw)
    (single : raw = ['/'] ∨ raw.getLast? ≠ some '/') :
    Names (raw ++ '/' :: Text.decimal arity.toNat) (callable name arity) :=
  @Names.form (.callable raw (Text.decimal arity.toNat)) _
    ⟨word, isNumeral_decimal _, single⟩
    ((splitModule?_append_slash word (not_mem_decimal rfl _)).mpr free)
    (.callable unwrapped (arity?_decimal arity))

theorem names_grammar (free : ¬BeginsWithModule raw) :
    Names (raw ++ '/' :: '/' :: Text.decimal arity.toNat) (grammar name arity) :=
  @Names.form (.grammar raw (Text.decimal arity.toNat)) _
    ⟨word, isNumeral_decimal _⟩
    ((splitModule?_append_slash word (by simp [not_mem_decimal])).mpr free)
    (.grammar unwrapped (arity?_decimal arity))

theorem names_function :
    Names ('f' :: '(' :: (raw ++ '/' :: Text.decimal arity.toNat ++ [')'])) (function name arity) :=
  @Names.form (.function raw (Text.decimal arity.toNat)) _
    ⟨word, isNumeral_decimal _⟩ (splitModule?_argument 'f' _)
    (.function unwrapped (arity?_decimal arity))

omit arity in
theorem names_symbol : Names ('c' :: '(' :: (raw ++ [')'])) (symbol name) :=
  @Names.form (.symbol raw) _ word (splitModule?_argument 'c' _) (.symbol unwrapped)

end

theorem Names.inModule {token : List Char} {inner : Object} (names : Names token inner)
    (callable : inner.isCallable = true) {module : String}
    (isModule : IsModuleName module.toList) :
    Names (module.toList ++ ':' :: token) (.qualified module inner) := by
  have whole := Names.qualified isModule (followsColon_of_isWord names.isWord) names callable
  rwa [String.ofList_toList] at whole

theorem Names.ofIdentifier_eq {token : List Char} {object : Object} (names : Names token object) :
    ofIdentifier (String.ofList token) = .ok object := by
  rw [ofIdentifier_eq_ok_iff, String.toList_ofList, Text.trim_of_isWord names.isWord,
    ofToken?_eq_some_iff]
  exact names

end DocIndex.Object
