import DocIndex.Object.Surface
import DocIndex.Proofs.Object.Naming

/-!
# Plain objects

An object that an identifier names is shown without blanks (`Names.isWord_surface`). It is plain
when it can be named as it is shown to a reader. A text that names an object is at least as long as
the object is when shown (`Names.length_le`), so that a shown object that is read back was neither
trimmed nor unwrapped.
-/

namespace DocIndex.Object

/-! ### What is shown -/

theorem Form.Gives.length_le {form : Form} {object : Object} (gives : form.Gives object) :
    (object.writeWith id).length ≤ form.spelling.length := by
  cases gives with
  | grammar unwrapped read | callable unwrapped read | function unwrapped read =>
    have nameLength := length_unwrapName?_le unwrapped
    have arityLength := length_decimal_arity_le read
    simp only [writeWith_grammar, writeWith_callable, writeWith_function, spelling, id_eq,
      List.length_cons, List.length_append]
    omega
  | symbol unwrapped =>
    have nameLength := length_unwrapName?_le unwrapped
    simp only [writeWith_symbol, spelling, id_eq, List.length_cons, List.length_append]
    omega

/-- An object that is shown takes no more room than a text that names it. -/
theorem Names.length_le {token : List Char} {object : Object} (names : Names token object) :
    (object.writeWith id).length ≤ token.length := by
  induction names with
  | form _ _ gives => exact gives.length_le
  | qualified _ _ _ _ ih =>
    simp only [writeWith_qualified, id_eq, String.toList_ofList, List.length_append,
      List.length_cons]
    omega

theorem Form.Gives.isWord_writeWith {form : Form} {object : Object} (gives : form.Gives object)
    (spelled : form.IsSpelled isNumeral) : Text.IsWord (object.writeWith id) := by
  have closing : Text.IsWord [')'] := Text.isWord_singleton rfl
  have slash (arity : UInt32) : Text.IsWord ('/' :: Text.decimal arity.toNat) :=
    (isWord_decimal _).cons rfl
  cases gives with
  | grammar unwrapped _ =>
    exact (isWord_of_unwrapName? spelled.1 unwrapped).append ((slash _).cons rfl)
  | callable unwrapped _ => exact (isWord_of_unwrapName? spelled.1 unwrapped).append (slash _)
  | @function _ _ _ arity unwrapped _ =>
    have argument := (isWord_of_unwrapName? spelled.1 unwrapped).append (slash arity)
    exact ((argument.append closing).cons rfl).cons rfl
  | symbol unwrapped =>
    exact (((isWord_of_unwrapName? spelled unwrapped).append closing).cons rfl).cons rfl

theorem Names.isWord_surface {token : List Char} {object : Object} (names : Names token object) :
    Text.IsWord object.surface.toList := by
  rw [surface, String.toList_ofList]
  induction names with
  | form spelled _ gives => exact gives.isWord_writeWith spelled
  | qualified isModule _ _ _ ih =>
    rw [writeWith_qualified, id_eq, String.toList_ofList]
    exact isModule.isWord.append (ih.cons rfl)

/-! ### Plain objects -/

/-- The objects that can be named as they are shown. -/
def IsPlain : Object → Prop
  | heading .. => False
  | callable name _ =>
    IsUsable name.toList ∧ ¬BeginsWithModule name.toList ∧
      (name = "/" ∨ name.toList.getLast? ≠ some '/')
  | grammar name _ => IsUsable name.toList ∧ ¬BeginsWithModule name.toList
  | qualified module inner => IsModuleName module.toList ∧ inner.isCallable = true ∧ inner.IsPlain
  | function name _ => IsUsable name.toList
  | symbol name => IsUsable name.toList

theorem eq_of_append_arity {raw name digits : List Char} {n : Nat}
    (numeral : isNumeral digits = true)
    (shown : raw ++ '/' :: digits = name ++ '/' :: Text.decimal n) : raw = name :=
  ((append_slash_inj (isNumbering_isNumeral.slash digits numeral) (not_mem_decimal rfl n)).mp
    shown).1

theorem Form.Gives.isPlain {form : Form} {object : Object} (gives : form.Gives object)
    (spelled : form.IsSpelled isNumeral) (free : splitModule? form.spelling = none)
    (shown : form.spelling = object.writeWith id) : object.IsPlain := by
  have oneLine (n : Nat) : '\n' ∉ Text.decimal n := not_mem_decimal rfl n
  rw [shown] at free
  -- Both texts end in a slash and a numeral, so that the names before it are the same.
  cases gives with
  | @grammar raw digits name arity unwrapped _ =>
    obtain ⟨word, numeral⟩ := spelled
    have same : raw ++ ['/'] = name.toList ++ ['/'] :=
      eq_of_append_arity numeral (by simpa [spelling] using shown)
    obtain rfl := List.append_cancel_right same
    exact ⟨(unwrapName?_eq_some_self_iff word).mp unwrapped,
      (splitModule?_append_slash word (by simp [oneLine])).mp free⟩
  | callable unwrapped _ =>
    obtain ⟨word, numeral, single⟩ := spelled
    obtain rfl := eq_of_append_arity numeral shown
    exact ⟨(unwrapName?_eq_some_self_iff word).mp unwrapped,
      (splitModule?_append_slash word (oneLine _)).mp free,
      single.imp_left (String.toList_inj.mp ·)⟩
  | @function raw digits name arity unwrapped _ =>
    obtain ⟨word, numeral⟩ := spelled
    have same : raw ++ '/' :: digits ++ [')'] =
        name.toList ++ '/' :: Text.decimal arity.toNat ++ [')'] := by
      simpa [spelling] using shown
    obtain rfl := eq_of_append_arity numeral (List.append_cancel_right same)
    exact (unwrapName?_eq_some_self_iff word).mp unwrapped
  | @symbol raw name unwrapped =>
    obtain rfl : raw = name.toList := by simpa [spelling] using shown
    exact (unwrapName?_eq_some_self_iff spelled).mp unwrapped

theorem Names.isPlain {token : List Char} {object : Object} (names : Names token object)
    (shown : token = object.writeWith id) : object.IsPlain := by
  induction names with
  | form spelled free gives => exact gives.isPlain spelled free shown
  | @qualified module rest inner isModule _ _ callable ih =>
    have behind : rest = inner.writeWith id := by
      simpa using shown
    exact ⟨by rwa [String.toList_ofList], callable, ih behind⟩

theorem IsUsable.unwrapName?_eq {name : String} (usable : IsUsable name.toList) :
    unwrapName? name.toList = some name :=
  (unwrapName?_eq_some_self_iff usable.toIsWord).mpr usable

theorem IsPlain.names {object : Object} (plain : object.IsPlain) :
    Names (object.writeWith id) object := by
  induction object with
  | heading => contradiction
  | callable name arity =>
    obtain ⟨usable, free, single⟩ := plain
    exact names_callable usable.toIsWord usable.unwrapName?_eq arity free
      (single.imp_left (congrArg String.toList))
  | grammar name arity =>
    obtain ⟨usable, free⟩ := plain
    exact names_grammar usable.toIsWord usable.unwrapName?_eq arity free
  | qualified module inner ih =>
    obtain ⟨isModule, callable, plain⟩ := plain
    exact (ih plain).inModule callable isModule
  | function name arity =>
    have usable : IsUsable name.toList := plain
    exact names_function usable.toIsWord usable.unwrapName?_eq arity
  | symbol name =>
    have usable : IsUsable name.toList := plain
    exact names_symbol usable.toIsWord usable.unwrapName?_eq

/-- An object is read back from what is shown of it just if it is plain. -/
theorem ofIdentifier_surface_eq_ok_iff (object : Object) :
    ofIdentifier object.surface = .ok object ↔ object.IsPlain := by
  rw [ofIdentifier_eq_ok_iff, surface, String.toList_ofList, ofToken?_eq_some_iff]
  constructor
  · intro names
    -- What trimming leaves has room for the object only if nothing was trimmed.
    have untrimmed : Text.trim (object.writeWith id) = object.writeWith id :=
      (Text.trim_sublist _).eq_of_length_le names.length_le
    exact names.isPlain untrimmed
  · intro plain
    rw [Text.trim_of_isWord plain.names.isWord]
    exact plain.names

end DocIndex.Object
