import DocIndex.Heading
import DocIndex.Object.Pattern
import DocIndex.Proofs.Object.Form

/-!
# Labels as patterns

A section is asked for by its label, which is read as a pattern. What looks like a module at the
front of a made label qualifies nothing unless the words of the title form a pattern of something
that can be called, and then the label does not find its section. Such titles are told by their last
word (`isFound_idOfTitle_iff`).
-/

namespace DocIndex

namespace Pattern

/-- Read as a pattern, the label asks for every section that has it. -/
def IsFound (label : String) : Prop :=
  ∃ pattern, ofText label = .ok pattern ∧
    ∀ level number file, pattern.isMatch (.heading level number label file) = true

/-- The text ends in a slash and what patterns take for a number of arguments. -/
def EndsInArity (cs : List Char) : Prop :=
  ∃ name arity, cs = name ++ '/' :: arity ∧ isArity arity = true

theorem ofText_eq_ok_iff {text : String} {pattern : Pattern} :
    ofText text = .ok pattern ↔ ofToken? (Text.trim text.toList) = some pattern := by
  cases read : ofToken? (Text.trim text.toList) <;> simp [ofText, read]

theorem isArity_eq_true_iff {cs : List Char} :
    isArity cs = true ↔ Object.isNumeral cs = true ∨ cs = ['_'] := by
  simp [isArity, isWildcard]

theorem isNumbering_isArity : Object.IsNumbering isArity := by
  have other (c : Char) (noDigit : c.isDigit = false) (noWildcard : c ≠ '_') (arity : List Char)
      (numbered : isArity arity = true) : c ∉ arity := by
    rcases isArity_eq_true_iff.mp numbered with numeral | rfl
    · exact Object.not_mem_of_isNumeral noDigit numeral
    · exact mt List.mem_singleton.mp noWildcard
  exact ⟨other '/' rfl (by decide), other ')' rfl (by decide)⟩

theorem isMatch_heading_of_ofForm? {form : Object.Form} {pattern : Pattern}
    (read : ofForm? form = some pattern) (level : UInt8) (number label file : String) :
    pattern.isMatch (.heading level number label file) = false := by
  cases form with
  | grammar | callable | function =>
    simp only [ofForm?, Option.bind_eq_bind, Option.pure_def, Option.bind_eq_some_iff,
      Option.some.injEq] at read
    obtain ⟨name, -, arity, -, rfl⟩ := read
    rfl
  | symbol =>
    simp only [ofForm?, Option.bind_eq_bind, Option.pure_def, Option.bind_eq_some_iff,
      Option.some.injEq] at read
    obtain ⟨name, -, rfl⟩ := read
    rfl

/-- A shape ends in its number of arguments, unless it stands in the parentheses of a functor. -/
theorem endsInArity_spelling_or {form : Object.Form} (spelled : form.IsSpelled isArity) :
    EndsInArity form.spelling ∨ (∃ name arity, form = .function name arity) ∨
      ∃ name, form = .symbol name := by
  cases form with
  | grammar name arity =>
    exact .inl ⟨name ++ ['/'], arity, by simp [Object.Form.spelling], spelled.2⟩
  | callable name arity => exact .inl ⟨name, arity, rfl, spelled.2.1⟩
  | function name arity => exact .inr (.inl ⟨name, arity, rfl⟩)
  | symbol name => exact .inr (.inr ⟨name, rfl⟩)

/-! ### How a pattern is read -/

theorem ofToken?_of_not_isCallable {token : List Char} (noWildcard : token ≠ ['_'])
    (notCallable : ∀ module rest inner, splitModule? token = some (module, rest) →
      ofToken? rest = some inner → inner.isCallable = false) :
    ofToken? token = ofPlain? token := by
  rw [ofToken?, if_neg (by simpa [isWildcard] using noWildcard)]
  split
  next module rest split =>
    have none : (ofToken? rest).filter isCallable = none := by
      rw [Option.filter_eq_none_iff]
      intro inner read
      rw [notCallable module rest inner split read]
      decide
    rw [none]
  next => rfl

theorem ofToken?_cases {token : List Char} {pattern : Pattern}
    (read : ofToken? token = some pattern) :
    (token = ['_'] ∧ pattern = any) ∨
      (∃ module inner, pattern = qualified module inner) ∨
        (∀ module rest inner, splitModule? token = some (module, rest) →
          ofToken? rest = some inner → inner.isCallable = false) ∧
            ofPlain? token = some pattern := by
  rw [ofToken?] at read
  split at read
  next wildcard =>
    cases read
    exact .inl ⟨of_decide_eq_true wildcard, rfl⟩
  next =>
    refine .inr ?_
    split at read
    next module rest split =>
      split at read
      next inner _ =>
        obtain ⟨part, -, rfl⟩ := Option.map_eq_some_iff.mp read
        exact .inl ⟨part, inner, rfl⟩
      next none =>
        refine .inr ⟨?_, read⟩
        intro module' rest' inner split' readRest
        rw [split] at split'
        cases split'
        simpa using Option.filter_eq_none_iff.mp none inner readRest
    next none =>
      refine .inr ⟨?_, read⟩
      intro module rest inner split
      rw [none] at split
      contradiction

/-- What can be called is anything at all, or ends in a number of arguments. -/
theorem endsInArity_of_isCallable {cs : List Char} {pattern : Pattern}
    (read : ofToken? cs = some pattern) (callable : pattern.isCallable = true) :
    cs = ['_'] ∨ EndsInArity cs := by
  rcases ofToken?_cases read with ⟨wildcard, -⟩ | ⟨module, inner, rfl⟩ | ⟨-, isPlain⟩
  · exact .inl wildcard
  · contradiction
  · refine .inr ?_
    unfold ofPlain? at isPlain
    split at isPlain
    next form found =>
      obtain ⟨spelled, rfl⟩ := (Object.form?_eq_some_iff isNumbering_isArity).mp found
      rcases endsInArity_spelling_or spelled with ends | ⟨name, arity, rfl⟩ | ⟨name, rfl⟩
      · exact ends
      · simp only [ofForm?, Option.bind_eq_bind, Option.pure_def, Option.bind_eq_some_iff,
          Option.some.injEq] at isPlain
        obtain ⟨_, -, _, -, rfl⟩ := isPlain
        contradiction
      · simp only [ofForm?, Option.bind_eq_bind, Option.pure_def, Option.bind_eq_some_iff,
          Option.some.injEq] at isPlain
        obtain ⟨_, -, rfl⟩ := isPlain
        contradiction
    next =>
      split at isPlain
      next =>
        cases isPlain
        contradiction
      next => contradiction

/-! ### How a label is read -/

def sectionLabel (words : List Char) : List Char :=
  "sec".toList ++ ':' :: words

theorem sectionLabel_ne_wildcard (words : List Char) : sectionLabel words ≠ ['_'] := by
  simp [sectionLabel]

theorem endsInArity_sectionLabel {words : List Char} :
    EndsInArity (sectionLabel words) ↔ EndsInArity words := by
  constructor
  · rintro ⟨name, arity, whole, numbered⟩
    rcases Text.append_cons_cases (by decide) whole with ⟨between, -, eq⟩ | ⟨between, eq, -⟩
    · exact ⟨between, arity, eq, numbered⟩
    · have slash : '/' ∈ "sec".toList := by simp [eq]
      contradiction
  · rintro ⟨name, arity, rfl, numbered⟩
    exact ⟨sectionLabel name, arity, by simp [sectionLabel], numbered⟩

theorem form?_eq_none_of_not_endsInArity {words : List Char} (noArity : ¬EndsInArity words) :
    Object.form? isArity (sectionLabel words) = none := by
  rw [Option.eq_none_iff_forall_ne_some]
  intro form found
  obtain ⟨spelled, whole⟩ := (Object.form?_eq_some_iff isNumbering_isArity).mp found
  rw [← endsInArity_sectionLabel, whole] at noArity
  rcases endsInArity_spelling_or spelled with ends | ⟨name, arity, rfl⟩ | ⟨name, rfl⟩
  · exact noArity ends
  · simp [sectionLabel, Object.Form.spelling] at whole
  · simp [sectionLabel, Object.Form.spelling] at whole

theorem splitModule?_sectionLabel (words : List Char) :
    splitModule? (sectionLabel words) =
      if Object.followsColon words then some ("sec".toList, words) else none := rfl

section
variable {words : List Char} (solid : ∀ c ∈ words, Text.isBlank c = false)
include solid

theorem isWord_sectionLabel : Text.IsWord (sectionLabel words) := by
  have module : Text.IsWord "sec:".toList := Object.isWrittenName_iff.mp rfl
  refine ⟨by simp [sectionLabel], ?_⟩
  intro c mem
  rcases List.mem_append.mp (show c ∈ "sec:".toList ++ words from mem) with inModule | inWords
  · exact module.solid c inModule
  · exact solid c inWords

theorem exists_form?_of_endsInArity (ends : EndsInArity words) :
    ∃ form, Object.form? isArity (sectionLabel words) = some form := by
  obtain ⟨name, arity, whole, numbered⟩ := endsInArity_sectionLabel.mpr ends
  have written : Object.isWrittenName name = true := by
    refine Object.isWrittenName_iff.mpr ⟨?_, ?_⟩
    · rintro rfl
      simp [sectionLabel] at whole
    · intro c mem
      exact (isWord_sectionLabel solid).solid c (by simp [whole, mem])
  have slashed := Object.slashForm?_append_slash numbered
    (isNumbering_isArity.slash arity numbered) name
  rw [Object.form?, whole, slashed]
  split
  next => exact ⟨_, rfl⟩
  next => exact ⟨_, rfl⟩

theorem ofToken?_sectionLabel (noWildcard : words ≠ ['_']) (noArity : ¬EndsInArity words) :
    ofToken? (sectionLabel words) = some (.named (String.ofList (sectionLabel words))) := by
  have written := Object.isWrittenName_iff.mpr (isWord_sectionLabel solid)
  rw [ofToken?_of_not_isCallable (sectionLabel_ne_wildcard words), ofPlain?,
    form?_eq_none_of_not_endsInArity noArity]
  · exact if_pos written
  · intro module rest inner split read
    rw [splitModule?_sectionLabel, Option.ite_none_right_eq_some] at split
    obtain ⟨-, rfl⟩ := Prod.mk.inj (Option.some.inj split.2)
    rw [← Bool.not_eq_true]
    intro callable
    rcases endsInArity_of_isCallable read callable with wildcard | ends
    · exact noWildcard wildcard
    · exact noArity ends

theorem isMatch_heading_of_misread {pattern : Pattern}
    (misread : words = ['_'] ∨ EndsInArity words)
    (read : ofToken? (sectionLabel words) = some pattern)
    (level : UInt8) (number label file : String) :
    pattern.isMatch (.heading level number label file) = false := by
  rcases ofToken?_cases read with ⟨wildcard, -⟩ | ⟨module, inner, rfl⟩ | ⟨notCallable, read⟩
  · exact absurd wildcard (sectionLabel_ne_wildcard words)
  · rfl
  · rcases misread with rfl | ends
    -- A wildcard can be called, so that it would have been qualified.
    · have callable := notCallable "sec".toList ['_'] any (by rfl) (by rw [ofToken?]; rfl)
      exact absurd callable (by decide)
    · obtain ⟨form, found⟩ := exists_form?_of_endsInArity solid ends
      simp only [ofPlain?, found] at read
      exact isMatch_heading_of_ofForm? read level number label file

/-- A label finds its section unless its words form a pattern of something that can be called. -/
theorem isFound_sectionLabel_iff :
    IsFound (String.ofList (sectionLabel words)) ↔ words ≠ ['_'] ∧ ¬EndsInArity words := by
  have untrimmed := Text.trim_of_isWord (isWord_sectionLabel solid)
  constructor
  · rintro ⟨pattern, read, finds⟩
    rw [ofText_eq_ok_iff, String.toList_ofList, untrimmed] at read
    have notMisread : ¬(words = ['_'] ∨ EndsInArity words) := by
      intro misread
      have found := finds 1 "" ""
      rw [isMatch_heading_of_misread solid misread read] at found
      contradiction
    exact not_or.mp notMisread
  · rintro ⟨noWildcard, noArity⟩
    refine ⟨.named (String.ofList (sectionLabel words)), ?_, ?_⟩
    · rw [ofText_eq_ok_iff, String.toList_ofList, untrimmed]
      exact ofToken?_sectionLabel solid noWildcard noArity
    · intro level number file
      simp [isMatch]

end

/-! ### Labels made from titles -/

theorem endsInArity_append_mark {front back : List Char} (nonempty : back ≠ []) :
    EndsInArity (front ++ '_' :: back) ↔ EndsInArity back := by
  constructor
  · rintro ⟨name, arity, whole, numbered⟩
    rcases Text.append_cons_cases (by decide) whole with ⟨between, -, eq⟩ | ⟨between, -, rfl⟩
    · exact ⟨between, arity, eq, numbered⟩
    · rcases isArity_eq_true_iff.mp numbered with numeral | wildcard
      · have noMark := Object.not_mem_of_isNumeral (show '_'.isDigit = false from rfl) numeral
        exact absurd (by simp) noMark
      · simp [List.append_eq_singleton_iff, nonempty] at wildcard
  · rintro ⟨name, arity, rfl, numbered⟩
    exact ⟨front ++ '_' :: name, arity, by simp, numbered⟩

section
variable {words : List (List Char)} (areWords : ∀ word ∈ words, Text.IsWord word)
include areWords

theorem intercalate_eq_nil_iff : ['_'].intercalate words = [] ↔ words = [] := by
  cases words with
  | nil => simp
  | cons word words =>
    have first := (areWords word List.mem_cons_self).some
    by_cases last : words = []
    · simp [last, first]
    · simp [List.intercalate_cons_of_ne_nil last]

theorem intercalate_eq_wildcard_iff : ['_'].intercalate words = ['_'] ↔ words = [['_']] := by
  cases words with
  | nil => simp
  | cons word words =>
    have first := (areWords word List.mem_cons_self).some
    by_cases last : words = []
    · simp [last]
    · simp [List.intercalate_cons_of_ne_nil last, List.append_eq_singleton_iff, first, last]

theorem endsInArity_intercalate :
    EndsInArity (['_'].intercalate words) ↔ ∃ word ∈ words.getLast?, EndsInArity word := by
  induction words with
  | nil => simp [EndsInArity]
  | cons word words ih =>
    by_cases last : words = []
    · simp [last]
    · have areOthers : ∀ other ∈ words, Text.IsWord other := fun other mem =>
        areWords other (List.mem_cons_of_mem word mem)
      have nonempty : ['_'].intercalate words ≠ [] :=
        mt (intercalate_eq_nil_iff areOthers).mp last
      rw [List.intercalate_cons_of_ne_nil last, List.append_assoc, List.singleton_append,
        endsInArity_append_mark nonempty, ih areOthers, List.getLast?_cons_of_ne_nil last]

end

end Pattern

namespace Heading

open Pattern

/-- The label made from a title finds its section, unless the last word of the title ends in a slash
and a number of arguments or the title is just a wildcard. -/
theorem isFound_idOfTitle_iff (title : List Char) :
    IsFound (idOfTitle title) ↔
      Text.words title ≠ [['_']] ∧ ∀ word ∈ (Text.words title).getLast?, ¬EndsInArity word := by
  have areWords : ∀ word ∈ Text.words title, Text.IsWord word := fun _ => Text.isWord_of_mem_words
  have solid : ∀ c ∈ ['_'].intercalate (Text.words title), Text.isBlank c = false := by
    intro c mem
    rcases Text.mem_intercalate mem with rfl | ⟨word, isIn, inside⟩
    · rfl
    · exact (areWords word isIn).solid c inside
  have eq : idOfTitle title = String.ofList (sectionLabel (['_'].intercalate (Text.words title))) :=
    String.toList_inj.mp (by simp [idOfTitle, sectionLabel])
  rw [eq, isFound_sectionLabel_iff solid, ne_eq, intercalate_eq_wildcard_iff areWords,
    endsInArity_intercalate areWords]
  simp

theorem not_isFound_predicateTitle :
    ofText (idOfTitle "append/3".toList) =
        .ok (.qualified (some "sec") (.callable (some "append") (some 3))) ∧
      ¬IsFound (idOfTitle "append/3".toList) := by
  have qualified : ofText (idOfTitle "append/3".toList) =
      .ok (.qualified (some "sec") (.callable (some "append") (some 3))) := by
    rw [ofText_eq_ok_iff]
    decide +kernel
  refine ⟨qualified, ?_⟩
  rintro ⟨pattern, read, finds⟩
  rw [qualified] at read
  cases read
  have found := finds 1 "" ""
  contradiction

end Heading

end DocIndex
