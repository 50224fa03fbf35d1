import DocIndex.Proofs.Object.Naming

/-!
# Names in quotes

A name that stands in single quotes, with each quote in it written twice, is read as it is, unless a
backslash stands before a quote in it (`unwrapName?_quoteName_iff`). Since a quote ends the written
name, no sign within it is taken for the end of the name, or for a module. So every other name can
be written in every form of identifiers (`ofIdentifier_quoteName`).
-/

namespace DocIndex.Object

def doubleQuotes (cs : List Char) : List Char :=
  cs.flatMap fun c => if c = '\'' then ['\'', '\''] else [c]

def quoteName (name : List Char) : List Char :=
  '\'' :: (doubleQuotes name ++ ['\''])

/-! ### What is read of quotes -/

theorem mergeQuotes_cons_of_ne {c : Char} (other : c ≠ '\'') (cs : List Char) :
    mergeQuotes (c :: cs) = c :: mergeQuotes cs := by
  rw [mergeQuotes]
  rintro _ rfl
  contradiction

theorem mergeQuotes_doubleQuotes (cs : List Char) : mergeQuotes (doubleQuotes cs) = cs := by
  induction cs with
  | nil => rfl
  | cons c cs ih =>
    rw [doubleQuotes, List.flatMap_cons, ← doubleQuotes]
    split
    next quote =>
      rw [quote, List.cons_append, List.cons_append, List.nil_append, mergeQuotes, ih]
    next other => rw [List.singleton_append, mergeQuotes_cons_of_ne other, ih]

/-- Only a backslash before a quote is dropped. -/
theorem unescapeQuotes_eq_self_iff {cs : List Char} :
    unescapeQuotes cs = cs ↔ ¬['\\', '\''] <:+: cs := by
  fun_induction unescapeQuotes cs with
  | case1 rest ih =>
    have escaped : ['\\', '\''] <:+: '\\' :: '\'' :: rest := ⟨[], rest, rfl⟩
    simp [escaped]
  | case2 c rest other ih =>
    have notHere : ¬['\\', '\''] <+: c :: rest := by
      rintro ⟨behind, eq⟩
      obtain ⟨rfl, rfl⟩ := List.cons.inj eq
      exact other behind rfl rfl
    rw [List.cons_inj_right, ih, List.infix_cons_iff, or_iff_right notHere]
  | case3 => simp

/-- A name in quotes is read as it is just if no backslash stands before a quote in it. -/
theorem unwrapName?_quoteName_iff {name : String} :
    unwrapName? (quoteName name.toList) = some name ↔
      name.toList ≠ [] ∧ ¬['\\', '\''] <:+: name.toList := by
  have inner : (quoteName name.toList).tail.dropLast = doubleQuotes name.toList := by
    rw [quoteName, List.tail_cons, List.dropLast_concat]
  have wrapped : Text.isWrapped '\'' '\'' (quoteName name.toList) = true :=
    isWrapped_self '\'' '\'' _
  simp only [unwrapName?, wrapped, if_true, inner, mergeQuotes_doubleQuotes,
    Option.ite_none_left_eq_some, Option.some.injEq]
  rw [← String.toList_inj, String.toList_ofList, ← unescapeQuotes_eq_self_iff]
  exact and_congr_left fun same => by rw [same, List.isEmpty_iff]

/-! ### Where a written name ends -/

theorem mem_of_mem_doubleQuotes {c : Char} {cs : List Char} (mem : c ∈ doubleQuotes cs) :
    c ∈ cs := by
  obtain ⟨d, inText, mem⟩ := List.mem_flatMap.mp mem
  split at mem
  next quote =>
    have same : c = '\'' := by simpa using mem
    rwa [same, ← quote]
  next => rwa [List.mem_singleton.mp mem]

theorem isWord_quoteName {name : List Char} (word : Text.IsWord name) :
    Text.IsWord (quoteName name) := by
  refine ⟨List.cons_ne_nil _ _, ?_⟩
  intro c mem
  rcases List.mem_cons.mp mem with rfl | mem
  · rfl
  rcases List.mem_append.mp mem with inName | last
  · exact word.solid c (mem_of_mem_doubleQuotes inName)
  · rw [List.mem_singleton.mp last]
    rfl

theorem getLast?_quoteName (name : List Char) : (quoteName name).getLast? = some '\'' := by
  rw [quoteName, ← List.cons_append, List.getLast?_concat]

theorem not_beginsWithModule_quoteName (name : List Char) :
    ¬BeginsWithModule (quoteName name) := by
  rintro ⟨module, rest, split, named⟩
  obtain ⟨first, isFirst, start⟩ := named.start
  obtain ⟨others, rfl⟩ := List.head?_eq_some_iff.mp isFirst
  obtain rfl := (List.cons.inj split).1
  contradiction

/-! ### Identifiers with a name in quotes -/

/-- Every name without a backslash before a quote can be written in quotes, in every form of
identifiers. -/
theorem ofIdentifier_quoteName {name : String} (word : Text.IsWord name.toList)
    (noEscape : ¬['\\', '\''] <:+: name.toList) {module : String}
    (isModule : IsModuleName module.toList) (arity : UInt32) :
    let quoted := quoteName name.toList
    let digits := Text.decimal arity.toNat
    ofIdentifier (String.ofList (quoted ++ '/' :: digits)) = .ok (callable name arity) ∧
      ofIdentifier (String.ofList (quoted ++ '/' :: '/' :: digits)) = .ok (grammar name arity) ∧
      ofIdentifier (String.ofList ('f' :: '(' :: (quoted ++ '/' :: digits ++ [')']))) =
        .ok (function name arity) ∧
      ofIdentifier (String.ofList ('c' :: '(' :: (quoted ++ [')']))) = .ok (symbol name) ∧
      ofIdentifier (String.ofList (module.toList ++ ':' :: (quoted ++ '/' :: digits))) =
        .ok (qualified module (callable name arity)) ∧
      ofIdentifier (String.ofList (module.toList ++ ':' :: (quoted ++ '/' :: '/' :: digits))) =
        .ok (qualified module (grammar name arity)) := by
  intro quoted digits
  have isWord : Text.IsWord quoted := isWord_quoteName word
  have unwrapped : unwrapName? quoted = some name :=
    unwrapName?_quoteName_iff.mpr ⟨word.some, noEscape⟩
  have free : ¬BeginsWithModule quoted := not_beginsWithModule_quoteName name.toList
  have single : quoted = ['/'] ∨ quoted.getLast? ≠ some '/' :=
    .inr (by simp [quoted, getLast?_quoteName])
  have predicate := names_callable isWord unwrapped arity free single
  have rule := names_grammar isWord unwrapped arity free
  exact ⟨predicate.ofIdentifier_eq, rule.ofIdentifier_eq,
    (names_function isWord unwrapped arity).ofIdentifier_eq,
    (names_symbol isWord unwrapped).ofIdentifier_eq,
    (predicate.inModule rfl isModule).ofIdentifier_eq,
    (rule.inModule rfl isModule).ofIdentifier_eq⟩

/-- A name with quotes, slashes, a colon and a parenthesis, and a backslash before the quote that
ends it. -/
theorem ofIdentifier_quoteName_signs :
    let name := "'//2)':x/3\\"
    Text.IsWord name.toList ∧ ¬['\\', '\''] <:+: name.toList ∧ IsModuleName "m_1".toList ∧
      ofIdentifier "'''//2)'':x/3\\'/4" = .ok (callable name 4) ∧
      ofIdentifier "f('''//2)'':x/3\\'/4)" = .ok (function name 4) ∧
      ofIdentifier "m_1:'''//2)'':x/3\\'//4" = .ok (qualified "m_1" (grammar name 4)) := by
  intro name
  have word : Text.IsWord name.toList := isWrittenName_iff.mp (by decide)
  have noEscape : ¬['\\', '\''] <:+: name.toList :=
    unescapeQuotes_eq_self_iff.mp (by decide)
  have isModule : IsModuleName "m_1".toList := ⟨⟨'m', rfl, rfl⟩, List.all_eq_true.mp rfl⟩
  have quoted : quoteName name.toList = "'''//2)'':x/3\\'".toList := by decide
  have digits : Text.decimal (4 : UInt32).toNat = "4".toList := by decide
  have read := ofIdentifier_quoteName word noEscape isModule 4
  rw [quoted, digits] at read
  obtain ⟨asPredicate, -, asFunction, -, -, asRule⟩ := read
  exact ⟨word, noEscape, isModule, asPredicate, asFunction, asRule⟩

end DocIndex.Object
