import DocIndex.Store

/-!
# Exact and wider patterns

The pattern of an object matches that object and no other, through any number of modules
(`isMatch_exact_iff`), and a pattern does not lose an object when parts of it are turned into
wildcards (`Widens.isMatch`). So looking up an object is finding it: both see the same records, of
which a look-up takes the first.
-/

namespace DocIndex

namespace Pattern

theorem allows_some_iff {α : Type} [DecidableEq α] {bound value : α} :
    allows (some bound) value = true ↔ bound = value := by
  simp [allows]

theorem isMatch_exact_iff {object other : Object} :
    (exact object).isMatch other = true ↔ object = other := by
  induction object generalizing other with
  | qualified module inner ih =>
    cases other <;> simp [exact, isMatch, allows_some_iff, ih]
  | heading | callable | grammar | function | symbol =>
    cases other <;> simp [exact, isMatch, allows_some_iff, and_assoc]

/-! ### Wildcards -/

/-- A part of a pattern as it was, or a wildcard in its place. -/
def Loosens {α : Type} (part part' : Option α) : Prop :=
  part' = part ∨ part' = none

theorem Loosens.allows {α : Type} [DecidableEq α] {part part' : Option α} {value : α}
    (looser : Loosens part part') (allowed : allows part value = true) :
    Pattern.allows part' value = true := by
  rcases looser with rfl | rfl
  · exact allowed
  · rfl

/-- The second pattern is the first with wildcards in place of some parts, or of all of it. -/
inductive Widens : Pattern → Pattern → Prop where
  | any (pattern : Pattern) : Widens pattern any
  | named (name : String) : Widens (named name) (named name)
  | heading {level level' : Option UInt8} {number number' label label' file file' : Option String}
      (levels : Loosens level level') (numbers : Loosens number number')
      (labels : Loosens label label') (files : Loosens file file') :
      Widens (heading level number label file) (heading level' number' label' file')
  | callable {name name' : Option String} {arity arity' : Option UInt32}
      (names : Loosens name name') (arities : Loosens arity arity') :
      Widens (callable name arity) (callable name' arity')
  | grammar {name name' : Option String} {arity arity' : Option UInt32}
      (names : Loosens name name') (arities : Loosens arity arity') :
      Widens (grammar name arity) (grammar name' arity')
  | qualified {module module' : Option String} {inner inner' : Pattern}
      (modules : Loosens module module') (wider : Widens inner inner') :
      Widens (qualified module inner) (qualified module' inner')
  | function {name name' : Option String} {arity arity' : Option UInt32}
      (names : Loosens name name') (arities : Loosens arity arity') :
      Widens (function name arity) (function name' arity')
  | symbol {name name' : Option String} (names : Loosens name name') :
      Widens (symbol name) (symbol name')

/-- No object is lost by a wildcard. -/
theorem Widens.isMatch {pattern pattern' : Pattern} (wider : Widens pattern pattern')
    {object : Object} (found : pattern.isMatch object = true) :
    pattern'.isMatch object = true := by
  induction wider generalizing object with
  | any => rfl
  | named => exact found
  | heading levels numbers labels files =>
    cases object with
    | heading =>
      simp only [Pattern.isMatch, Bool.and_eq_true] at found ⊢
      obtain ⟨⟨⟨level, number⟩, label⟩, file⟩ := found
      exact ⟨⟨⟨levels.allows level, numbers.allows number⟩, labels.allows label⟩, files.allows file⟩
    | _ => contradiction
  | callable names arities | grammar names arities | function names arities =>
    cases object <;> simp only [Pattern.isMatch, Bool.and_eq_true, Bool.false_eq_true] at found ⊢
    exact ⟨names.allows found.1, arities.allows found.2⟩
  | qualified modules _ ih =>
    cases object with
    | qualified =>
      simp only [Pattern.isMatch, Bool.and_eq_true] at found ⊢
      exact ⟨modules.allows found.1, ih found.2⟩
    | _ => contradiction
  | symbol names =>
    cases object with
    | symbol => exact names.allows found
    | _ => contradiction

end Pattern

namespace Store

/-! ### Looking up an object -/

variable (store : Store) (object : Object)

theorem lookup?_eq_head?_find : store.lookup? object = (store.find (.exact object)).head? := by
  have same : (fun record : Record => decide (record.object = object)) =
      fun record => (Pattern.exact object).isMatch record.object := by
    funext record
    rw [Bool.eq_iff_iff, decide_eq_true_iff, Pattern.isMatch_exact_iff, eq_comm]
  rw [lookup?, find, same, List.head?_filter]

theorem lookup?_eq_none_iff : store.lookup? object = none ↔ store.find (.exact object) = [] := by
  rw [lookup?_eq_head?_find, List.head?_eq_none_iff]

theorem property?_eq_none_iff (property : Property) :
    store.property? object property = none ↔ store.find (.exact object) = [] := by
  rw [property?, Option.map_eq_none_iff, lookup?_eq_none_iff]

theorem summary?_eq_none_iff : store.summary? object = none ↔ store.find (.exact object) = [] := by
  rw [summary?, Option.map_eq_none_iff, lookup?_eq_none_iff]

/-- An object's pattern matches it alone, wildcards lose nothing, and what is told of an object is
told by the first record that its pattern finds. -/
theorem exact_wider_lookup :
    (∀ object other, (Pattern.exact object).isMatch other = true ↔ object = other) ∧
      (∀ pattern pattern' object, Pattern.Widens pattern pattern' →
        pattern.isMatch object = true → pattern'.isMatch object = true) ∧
      ∀ (store : Store) object,
        let found := store.find (.exact object)
        (store.lookup? object = found.head? ∧
          store.summary? object = found.head?.map Record.summary ∧
          ∀ property, store.property? object property = found.head?.map (·.value property)) ∧
        ((store.lookup? object = none ↔ found = []) ∧
          (store.summary? object = none ↔ found = []) ∧
          ∀ property, store.property? object property = none ↔ found = []) := by
  refine ⟨fun _ _ => Pattern.isMatch_exact_iff, fun _ _ _ wider => wider.isMatch, ?_⟩
  intro store object found
  have first : store.lookup? object = found.head? := store.lookup?_eq_head?_find object
  refine ⟨⟨first, ?_, ?_⟩, ?_, ?_, ?_⟩
  · rw [summary?, first]
  · intro property
    rw [property?, first]
  · exact store.lookup?_eq_none_iff object
  · exact store.summary?_eq_none_iff object
  · exact store.property?_eq_none_iff object

/-- Of two records of an object in a module, the first tells where it is documented. -/
theorem exact_wider_lookup_inModule :
    let object := Object.qualified "lists" (.callable "append" 3)
    let wider := Pattern.qualified none (.callable (some "append") none)
    let first : Record := ⟨object, "Join lists.", ⟨"/m/lists.html"⟩, .manual, 90⟩
    let store : Store :=
      ⟨[{ first with object := .callable "append" 3 }, first, { first with offset := 120 }]⟩
    Pattern.Widens (.exact object) wider ∧ wider.isMatch object = true ∧
      store.find (.exact object) = [first, { first with offset := 120 }] ∧
      store.property? object .place = some (.place ⟨"/m/lists.html"⟩ 90) := by
  intro object wider first store
  have widened : Pattern.Widens (.exact object) wider :=
    .qualified (.inr rfl) (.callable (.inl rfl) (.inr rfl))
  have found : store.find (.exact object) = [first, { first with offset := 120 }] := by decide
  have ⟨exact, wilder, lookup⟩ := exact_wider_lookup
  have place := (lookup store object).1.2.2 .place
  rw [found] at place
  exact ⟨widened, wilder _ _ _ widened ((exact object object).mpr rfl), found, place⟩

end Store

end DocIndex
