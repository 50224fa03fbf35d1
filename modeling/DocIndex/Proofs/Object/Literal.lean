import DocIndex.Proofs.Object.Label
import DocIndex.Proofs.Object.Naming
import DocIndex.Proofs.Store.Querying

/-!
# Identifiers as patterns

Read as a pattern, an identifier asks for just the object that it names (`ofText_eq_exact`). The two
readings try the same shapes in the same order. They part only where a pattern takes an underscore
for any module or for any name, and no number of arguments in an identifier is an underscore.
-/

namespace DocIndex

namespace Object

def Form.name : Form → List Char
  | grammar name _ => name
  | callable name _ => name
  | function name _ => name
  | symbol name => name

/-- The name that an identifier without a module writes, with what stands around it. -/
def WritesName (cs name : List Char) : Prop :=
  ∃ form : Form, form.IsSpelled isNumeral ∧ cs = form.spelling ∧ form.name = name

theorem writesName_iff {cs name : List Char} :
    WritesName cs name ↔ (form? isNumeral cs).map Form.name = some name := by
  simp only [WritesName, Option.map_eq_some_iff, form?_eq_some_iff isNumbering_isNumeral,
    and_assoc]

/-- What a text says of the object itself: what follows the colon of the module, if it is in one. -/
def ownPart : Object → List Char → List Char
  | qualified .., token => (token.dropWhile (· != ':')).tail
  | _, token => token

theorem ownPart_qualified {module : List Char} (isModule : IsModuleName module)
    (name : String) (inner : Object) (rest : List Char) :
    ownPart (qualified name inner) (module ++ ':' :: rest) = rest := by
  have noColon := Text.forall_bne (isModule.not_mem (c := ':') rfl)
  rw [ownPart, Text.dropWhile_append_of_ends noColon (by simp), List.tail_cons]

theorem Form.Gives.ownPart_eq {form : Form} {object : Object} (gives : form.Gives object)
    (token : List Char) : ownPart object token = token := by
  cases gives <;> rfl

theorem Form.IsSpelled.mono {p q : List Char → Bool} (sub : ∀ cs, p cs = true → q cs = true)
    {form : Form} (spelled : form.IsSpelled p) : form.IsSpelled q := by
  cases form with
  | grammar name arity | function name arity => exact ⟨spelled.1, sub arity spelled.2⟩
  | callable name arity => exact ⟨spelled.1, sub arity spelled.2.1, spelled.2.2⟩
  | symbol name => exact spelled

theorem ne_wildcard_of_isNumeral {cs : List Char} (numeral : isNumeral cs = true) :
    cs ≠ ['_'] := by
  rintro rfl
  contradiction

theorem Names.ne_wildcard {token : List Char} {object : Object} (names : Names token object) :
    token ≠ ['_'] := by
  rintro rfl
  have read := ofToken?_eq_some_iff.mpr names
  rw [ofToken?_of_unqualified rfl] at read
  contradiction

end Object

namespace Pattern

open Object (Form Names ownPart WritesName)

/-! ### Parts without wildcards -/

theorem part?_of_ne {α : Type} (read : List Char → Option α) {cs : List Char}
    (noWildcard : cs ≠ ['_']) : part? read cs = (read cs).map some :=
  if_neg (by simpa [isWildcard] using noWildcard)

theorem ofForm?_of_gives {form : Form} {object : Object} (gives : form.Gives object)
    (spelled : form.IsSpelled Object.isNumeral) (named : form.name ≠ ['_']) :
    ofForm? form = some (exact object) := by
  have name := part?_of_ne Object.unwrapName? named
  cases gives with
  | grammar unwrapped read | function unwrapped read =>
    have arity := part?_of_ne Object.arity? (Object.ne_wildcard_of_isNumeral spelled.2)
    rw [Form.name, unwrapped] at name
    rw [read] at arity
    simp [ofForm?, name, arity, exact]
  | callable unwrapped read =>
    have arity := part?_of_ne Object.arity? (Object.ne_wildcard_of_isNumeral spelled.2.1)
    rw [Form.name, unwrapped] at name
    rw [read] at arity
    simp [ofForm?, name, arity, exact]
  | symbol unwrapped =>
    rw [Form.name, unwrapped] at name
    simp [ofForm?, name, exact]

theorem isCallable_exact {object : Object} (callable : object.isCallable = true) :
    (exact object).isCallable = true := by
  cases object <;> first | rfl | contradiction

/-! ### Identifiers -/

theorem splitModule?_of_not_isPrefix {cs : List Char} (noModule : ¬['_', ':'] <+: cs) :
    splitModule? cs = Object.splitModule? cs := by
  unfold splitModule?
  split
  next rest => exact absurd ⟨rest, rfl⟩ noModule
  next => rfl

theorem ofToken?_of_splitModule? {token module rest : List Char} {inner : Pattern}
    (noWildcard : token ≠ ['_']) (split : splitModule? token = some (module, rest))
    (read : ofToken? rest = some inner) (callable : inner.isCallable = true) :
    ofToken? token =
      (part? (fun cs => some (String.ofList cs)) module).map (qualified · inner) := by
  rw [ofToken?, if_neg (by simpa [isWildcard] using noWildcard)]
  split
  next found =>
    rw [split] at found
    cases found
    rw [read, Option.filter_some, if_pos callable]
  next found =>
    rw [split] at found
    contradiction

theorem head?_ne_of_isModuleName {module : List Char} (isModule : Object.IsModuleName module) :
    module.head? ≠ some '_' := by
  intro underscore
  obtain ⟨first, isFirst, start⟩ := isModule.start
  rw [underscore] at isFirst
  cases isFirst
  contradiction

theorem not_isPrefix_of_isModuleName {module : List Char} (isModule : Object.IsModuleName module)
    (rest : List Char) : ¬['_', ':'] <+: module ++ ':' :: rest := by
  obtain ⟨first, others, rfl⟩ := List.exists_cons_of_ne_nil isModule.isWord.some
  rintro ⟨behind, eq⟩
  obtain rfl := (List.cons.inj eq).1
  exact head?_ne_of_isModuleName isModule rfl

theorem ofToken?_spelling {form : Form} {object : Object}
    (spelled : form.IsSpelled Object.isNumeral) (free : Object.splitModule? form.spelling = none)
    (gives : form.Gives object) (noModule : ¬['_', ':'] <+: form.spelling)
    (named : form.name ≠ ['_']) :
    ofToken? form.spelling = some (exact object) := by
  have noWildcard := (Names.form spelled free gives).ne_wildcard
  have alone := splitModule?_of_not_isPrefix noModule
  have found : Object.form? isArity form.spelling = some form := by
    refine Object.form?_spelling isNumbering_isArity (spelled.mono fun cs numeral => ?_)
    exact isArity_eq_true_iff.mpr (.inl numeral)
  rw [ofToken?_of_not_isCallable noWildcard, ofPlain?, found]
  · exact ofForm?_of_gives gives spelled named
  · intro module rest inner split
    rw [alone, free] at split
    contradiction

theorem ofToken?_of_names {token : List Char} {object : Object} (names : Names token object)
    (noModule : ¬['_', ':'] <+: ownPart object token)
    (named : ¬WritesName (ownPart object token) ['_']) :
    ofToken? token = some (exact object) := by
  have noWildcard := names.ne_wildcard
  cases names with
  | @form form _ spelled free gives =>
    rw [gives.ownPart_eq] at noModule named
    exact ofToken?_spelling spelled free gives noModule fun wildcard =>
      named ⟨form, spelled, rfl, wildcard⟩
  | @qualified module rest inner isModule follows names callable =>
    rw [Object.ownPart_qualified isModule] at noModule named
    -- What can be called is in no further module.
    cases names with
    | qualified => contradiction
    | @form form _ spelled free gives =>
      have read := ofToken?_spelling spelled free gives noModule fun wildcard =>
        named ⟨form, spelled, rfl, wildcard⟩
      have split :
          splitModule? (module ++ ':' :: form.spelling) = some (module, form.spelling) := by
        rw [splitModule?_of_not_isPrefix (not_isPrefix_of_isModuleName isModule _)]
        exact Object.splitModule?_eq_some_iff.mpr ⟨isModule, follows, rfl⟩
      have known : module ≠ ['_'] := by
        rintro rfl
        exact head?_ne_of_isModuleName isModule rfl
      rw [ofToken?_of_splitModule? noWildcard split read (isCallable_exact callable),
        part?_of_ne _ known]
      rfl

/-- An identifier whose parts are no wildcards asks for the object that it names, and finds nothing
else. -/
theorem ofText_eq_exact {text : String} {object : Object}
    (read : Object.ofIdentifier text = .ok object)
    (noModule : ¬['_', ':'] <+: ownPart object (Text.trim text.toList))
    (named : ¬WritesName (ownPart object (Text.trim text.toList)) ['_']) :
    ofText text = .ok (exact object) ∧
      ∀ (store : Store) (record : Record),
        record ∈ store.find (exact object) ↔ record ∈ store.records ∧ record.object = object := by
  have names := Object.ofToken?_eq_some_iff.mp (Object.ofIdentifier_eq_ok_iff.mp read)
  refine ⟨ofText_eq_ok_iff.mpr (ofToken?_of_names names noModule named), ?_⟩
  intro store record
  rw [Store.mem_find, isMatch_exact_iff, eq_comm]

/-- An underscore in quotes is a name and no wildcard. -/
theorem ofText_eq_exact_quotedUnderscore :
    let text := " lists:'_'//3\n"
    let object := Object.qualified "lists" (.grammar "_" 3)
    Object.ofIdentifier text = .ok object ∧
      ¬['_', ':'] <+: ownPart object (Text.trim text.toList) ∧
      ¬WritesName (ownPart object (Text.trim text.toList)) ['_'] ∧
      ofText text = .ok (.qualified (some "lists") (.grammar (some "_") (some 3))) := by
  intro text object
  have own : ownPart object (Text.trim text.toList) = "'_'//3".toList := by decide +kernel
  have read : Object.ofIdentifier text = .ok object :=
    Object.ofIdentifier_eq_ok_iff.mpr (by decide +kernel)
  have noModule : ¬['_', ':'] <+: ownPart object (Text.trim text.toList) := by
    rw [own]
    decide
  have named : ¬WritesName (ownPart object (Text.trim text.toList)) ['_'] := by
    rw [own, Object.writesName_iff]
    decide +kernel
  exact ⟨read, noModule, named, (ofText_eq_exact read noModule named).1⟩

end Pattern

end DocIndex
