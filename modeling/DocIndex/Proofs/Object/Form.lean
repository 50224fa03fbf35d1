import DocIndex.Object.Identifier
import DocIndex.Proofs.Text.Words

/-!
# Shapes of identifiers

A text has the shape that it is the spelling of, and no other (`form?_eq_some_iff`): its last slash
divides the name from the number of arguments, and one more slash before it is that of a grammar
rule, if it leaves a name. What looks like a module is what stands before the first colon.
-/

namespace DocIndex.Object

theorem isWrittenName_iff {cs : List Char} : isWrittenName cs = true ↔ Text.IsWord cs := by
  simp only [isWrittenName, Bool.and_eq_true, Bool.not_eq_true', List.isEmpty_eq_false_iff,
    List.all_eq_true]
  exact ⟨fun written => ⟨written.1, written.2⟩, fun word => ⟨word.some, word.solid⟩⟩

/-! ### Modules -/

structure IsModuleName (cs : List Char) : Prop where
  start : ∃ first ∈ cs.head?, isModuleStart first = true
  parts : ∀ c ∈ cs, isModulePart c = true

theorem isModulePart_of_isModuleStart {c : Char} (start : isModuleStart c = true) :
    isModulePart c = true := by
  have letter : c.isAlpha = true := Bool.or_eq_true_iff.mpr (.inr start)
  simp [isModulePart, Char.isAlphanum, letter]

theorem IsModuleName.isWord {cs : List Char} (named : IsModuleName cs) : Text.IsWord cs := by
  refine ⟨?_, ?_⟩
  · rintro rfl
    obtain ⟨first, isFirst, -⟩ := named.start
    contradiction
  · intro c mem
    rcases Bool.or_eq_true_iff.mp (named.parts c mem) with alphanumeric | underscore
    · exact Text.isBlank_eq_false_of_isAlphanum alphanumeric
    · rw [eq_of_beq underscore]
      rfl

theorem IsModuleName.not_mem {cs : List Char} (named : IsModuleName cs) {c : Char}
    (sign : isModulePart c = false) : c ∉ cs := by
  intro mem
  rw [named.parts c mem] at sign
  contradiction

theorem splitModule?_eq_some_iff {cs module rest : List Char} :
    splitModule? cs = some (module, rest) ↔
      IsModuleName module ∧ followsColon rest = true ∧ cs = module ++ ':' :: rest := by
  constructor
  · intro found
    unfold splitModule? at found
    split at found
    next first others behind dropped =>
      split at found
      next holds =>
        cases found
        obtain ⟨start, follows⟩ := Bool.and_eq_true_iff.mp holds
        have whole := List.takeWhile_append_dropWhile (p := isModulePart) (l := first :: others)
        rw [dropped] at whole
        refine ⟨⟨⟨first, ?_, start⟩, List.all_eq_true.mp List.all_takeWhile⟩, follows, whole.symm⟩
        rw [List.takeWhile_cons_of_pos (isModulePart_of_isModuleStart start)]
        rfl
      next => contradiction
    next => contradiction
  · rintro ⟨named, follows, rfl⟩
    obtain ⟨first, isFirst, start⟩ := named.start
    obtain ⟨others, rfl⟩ := List.head?_eq_some_iff.mp isFirst
    have ends : Text.Ends isModulePart (':' :: rest) := by simp [isModulePart, Char.isAlphanum]
    have taken := Text.takeWhile_append_of_ends named.parts ends
    have dropped := Text.dropWhile_append_of_ends named.parts ends
    unfold splitModule?
    rw [dropped, taken]
    simp [start, follows]

theorem followsColon_of_isWord {cs : List Char} (word : Text.IsWord cs) :
    followsColon cs = true := by
  obtain ⟨c, rest, rfl⟩ := List.exists_cons_of_ne_nil word.some
  have notBlank := word.solid c List.mem_cons_self
  have oneLine : '\n' ∉ c :: rest := fun mem => absurd (word.solid _ mem) (by decide)
  simpa [followsColon, notBlank] using oneLine

/-- A name that begins like something in a module. -/
def BeginsWithModule (name : List Char) : Prop :=
  ∃ module rest, name = module ++ ':' :: rest ∧ IsModuleName module

/-- No module ends behind a slash, so that what looks like one in front of a slash is part of the
name. -/
theorem splitModule?_append_slash {name behind : List Char} (word : Text.IsWord name)
    (oneLine : '\n' ∉ behind) :
    splitModule? (name ++ '/' :: behind) = none ↔ ¬BeginsWithModule name := by
  constructor
  · rintro none ⟨module, rest, rfl, named⟩
    have solid : ∀ c ∈ rest, Text.isBlank c = false := fun c mem => word.solid c (by simp [mem])
    have noBreak : '\n' ∉ rest := fun mem => absurd (solid _ mem) (by decide)
    have follows : followsColon (rest ++ '/' :: behind) = true := by
      cases rest with
      | nil => simp [followsColon, oneLine, Text.isBlank]
      | cons c rest =>
        have notBlank := solid c List.mem_cons_self
        simp only [List.mem_cons, not_or] at noBreak
        simp [followsColon, notBlank, noBreak, oneLine]
    have found : splitModule? (module ++ ':' :: rest ++ '/' :: behind) =
        some (module, rest ++ '/' :: behind) :=
      splitModule?_eq_some_iff.mpr ⟨named, follows, by simp⟩
    rw [none] at found
    contradiction
  · intro without
    rw [Option.eq_none_iff_forall_ne_some]
    rintro ⟨module, rest⟩ found
    obtain ⟨named, -, split⟩ := splitModule?_eq_some_iff.mp found
    -- The module's colon stands before the slash, as no module has a slash in it.
    rcases Text.append_cons_cases (by decide) split with ⟨between, rfl, -⟩ | ⟨between, eq, -⟩
    · exact named.not_mem (show isModulePart '/' = false from rfl) (by simp)
    · exact without ⟨module, between, eq, named⟩

/-- What stands behind a functor's parenthesis is in no module. -/
theorem splitModule?_argument (functor : Char) (cs : List Char) :
    splitModule? (functor :: '(' :: cs) = none := by
  rw [Option.eq_none_iff_forall_ne_some]
  rintro ⟨module, rest⟩ found
  obtain ⟨named, -, split⟩ := splitModule?_eq_some_iff.mp found
  obtain ⟨first, more, rfl⟩ := List.exists_cons_of_ne_nil named.isWord.some
  cases more with
  | nil => simp at split
  | cons second more =>
    obtain ⟨rfl, -⟩ := List.cons.inj (List.cons.inj split).2
    exact named.not_mem (show isModulePart '(' = false from rfl) (by simp)

/-! ### The last slash -/

theorem splitSlash?_eq_some_iff {cs front back : List Char} :
    splitSlash? cs = some (front, back) ↔ cs = front ++ '/' :: back ∧ '/' ∉ back := by
  constructor
  · intro found
    unfold splitSlash? at found
    split at found
    next c before dropped =>
      cases found
      refine ⟨?_, ?_⟩
      · simpa using (congrArg List.reverse (Text.takeWhile_append_mark dropped)).symm
      · intro mem
        have other := List.all_eq_true.mp List.all_takeWhile _ (List.mem_reverse.mp mem)
        contradiction
    next => contradiction
  · rintro ⟨rfl, noSlash⟩
    have run := Text.forall_bne (mt List.mem_reverse.mp noSlash)
    have ends : Text.Ends (· != '/') ('/' :: front.reverse) := by simp
    have reversed : (front ++ '/' :: back).reverse = back.reverse ++ '/' :: front.reverse := by simp
    simp [splitSlash?, reversed, Text.takeWhile_append_of_ends run ends,
      Text.dropWhile_append_of_ends run ends]

theorem append_slash_inj {front front' back back' : List Char} (noSlash : '/' ∉ back)
    (noSlash' : '/' ∉ back') :
    front ++ '/' :: back = front' ++ '/' :: back' ↔ front = front' ∧ back = back' := by
  constructor
  · intro same
    have first : splitSlash? (front ++ '/' :: back) = some (front, back) :=
      splitSlash?_eq_some_iff.mpr ⟨rfl, noSlash⟩
    have second : splitSlash? (front' ++ '/' :: back') = some (front', back') :=
      splitSlash?_eq_some_iff.mpr ⟨rfl, noSlash'⟩
    rw [same, second] at first
    simpa using first.symm
  · rintro ⟨rfl, rfl⟩
    rfl

/-! ### Shapes -/

namespace Form

def spelling : Form → List Char
  | grammar name arity => name ++ '/' :: '/' :: arity
  | callable name arity => name ++ '/' :: arity
  | function name arity => 'f' :: '(' :: (name ++ '/' :: arity ++ [')'])
  | symbol name => 'c' :: '(' :: (name ++ [')'])

/-- The parts of a shape can be told apart. The name of a predicate leaves its last slash to the
name of a grammar rule, unless it is all of the name. -/
def IsSpelled (isArity : List Char → Bool) : Form → Prop
  | grammar name arity => Text.IsWord name ∧ isArity arity = true
  | callable name arity =>
    Text.IsWord name ∧ isArity arity = true ∧ (name = ['/'] ∨ name.getLast? ≠ some '/')
  | function name arity => Text.IsWord name ∧ isArity arity = true
  | symbol name => Text.IsWord name

end Form

theorem argument?_eq_some_iff {functor : Char} {cs inner : List Char} :
    argument? functor cs = some inner ↔ cs = functor :: '(' :: (inner ++ [')']) := by
  constructor
  · intro found
    unfold argument? at found
    split at found
    next c rest =>
      split at found
      next holds =>
        cases found
        obtain ⟨isFunctor, last⟩ := Bool.and_eq_true_iff.mp holds
        obtain ⟨front, rfl⟩ := List.getLast?_eq_some_iff.mp (of_decide_eq_true last)
        rw [of_decide_eq_true isFunctor, List.dropLast_concat]
      next => contradiction
    next => contradiction
  · rintro rfl
    simp [argument?]

section
variable {isArity : List Char → Bool}

theorem slashForm?_of_split {cs name arity : List Char}
    (split : splitSlash? cs = some (name, arity)) :
    slashForm? isArity cs =
      if isArity arity = true then
        if name.getLast? = some '/' ∧ isWrittenName name.dropLast = true then
          some (.grammar name.dropLast arity)
        else if isWrittenName name = true then some (.callable name arity)
        else none
      else none := by
  unfold slashForm?
  rw [split]
  dsimp only [Option.bind_eq_bind, Option.bind_some]
  cases isArity arity with
  | false => rfl
  | true =>
    have passes : guard (true = true) = some () := rfl
    rw [passes, Option.bind_some, if_pos rfl]
    split
    next slash => simp [slash]
    next other => simp [show name.getLast? ≠ some '/' from other]

theorem slashForm?_append_slash {arity : List Char} (numbered : isArity arity = true)
    (noSlash : '/' ∉ arity) (name : List Char) :
    slashForm? isArity (name ++ '/' :: arity) =
      if name.getLast? = some '/' ∧ isWrittenName name.dropLast = true then
        some (.grammar name.dropLast arity)
      else if isWrittenName name = true then some (.callable name arity)
      else none := by
  rw [slashForm?_of_split (splitSlash?_eq_some_iff.mpr ⟨rfl, noSlash⟩), if_pos numbered]

theorem numbered_of_slashForm? {cs : List Char} {form : Form}
    (found : slashForm? isArity cs = some form) :
    ∃ name arity, cs = name ++ '/' :: arity ∧ '/' ∉ arity ∧ isArity arity = true := by
  cases split : splitSlash? cs with
  | none =>
    rw [slashForm?, split] at found
    contradiction
  | some parts =>
    obtain ⟨whole, noSlash⟩ := splitSlash?_eq_some_iff.mp split
    rw [slashForm?_of_split split, Option.ite_none_right_eq_some] at found
    exact ⟨parts.1, parts.2, whole, noSlash, found.1⟩

theorem form_of_slashForm? {cs : List Char} {form : Form}
    (found : slashForm? isArity cs = some form) :
    form.IsSpelled isArity ∧ cs = form.spelling := by
  obtain ⟨name, arity, rfl, noSlash, numbered⟩ := numbered_of_slashForm? found
  rw [slashForm?_append_slash numbered noSlash] at found
  split at found
  next rule =>
    cases found
    obtain ⟨front, rfl⟩ := List.getLast?_eq_some_iff.mp rule.1
    have word := isWrittenName_iff.mp rule.2
    rw [List.dropLast_concat] at word ⊢
    exact ⟨⟨word, numbered⟩, by simp [Form.spelling]⟩
  next noRule =>
    split at found
    next written =>
      cases found
      have word := isWrittenName_iff.mp written
      refine ⟨⟨word, numbered, ?_⟩, rfl⟩
      by_cases slash : name.getLast? = some '/'
      · obtain ⟨front, rfl⟩ := List.getLast?_eq_some_iff.mp slash
        rw [List.dropLast_concat, isWrittenName_iff] at noRule
        have solid : ∀ c ∈ front, Text.isBlank c = false := fun c mem =>
          word.solid c (by simp [mem])
        have alone : front = [] :=
          Decidable.byContradiction fun some => noRule ⟨slash, some, solid⟩
        exact .inl (by rw [alone, List.nil_append])
      · exact .inr slash
    next => contradiction

theorem form_of_functionForm? {cs : List Char} {form : Form}
    (found : functionForm? isArity cs = some form) :
    form.IsSpelled isArity ∧ cs = form.spelling := by
  simp only [functionForm?, Option.bind_eq_bind, Option.bind_eq_some_iff, Prod.exists] at found
  obtain ⟨inner, isArgument, name, arity, split, found⟩ := found
  obtain ⟨rfl, -⟩ := splitSlash?_eq_some_iff.mp split
  split at found
  next holds =>
    cases found
    obtain ⟨numbered, written⟩ := Bool.and_eq_true_iff.mp holds
    exact ⟨⟨isWrittenName_iff.mp written, numbered⟩, argument?_eq_some_iff.mp isArgument⟩
  next => contradiction

theorem form_of_symbolForm? {cs : List Char} {form : Form} (found : symbolForm? cs = some form) :
    form.IsSpelled isArity ∧ cs = form.spelling := by
  simp only [symbolForm?, Option.bind_eq_bind, Option.bind_eq_some_iff] at found
  obtain ⟨name, isArgument, found⟩ := found
  split at found
  next written =>
    cases found
    exact ⟨isWrittenName_iff.mp written, argument?_eq_some_iff.mp isArgument⟩
  next => contradiction

/-- What counts as a number of arguments has none of the signs that a shape is told by. -/
structure IsNumbering (isArity : List Char → Bool) : Prop where
  slash : ∀ arity, isArity arity = true → '/' ∉ arity
  closing : ∀ arity, isArity arity = true → ')' ∉ arity

theorem isNumeral_eq_true_iff {cs : List Char} :
    isNumeral cs = true ↔ cs ≠ [] ∧ ∀ c ∈ cs, c.isDigit = true := by
  simp [isNumeral]

theorem not_mem_of_isNumeral {c : Char} (noDigit : c.isDigit = false) {cs : List Char}
    (numeral : isNumeral cs = true) : c ∉ cs := by
  intro mem
  rw [(isNumeral_eq_true_iff.mp numeral).2 c mem] at noDigit
  contradiction

theorem isNumbering_isNumeral : IsNumbering isNumeral :=
  ⟨fun _ => not_mem_of_isNumeral rfl, fun _ => not_mem_of_isNumeral rfl⟩

variable (numbering : IsNumbering isArity)
include numbering

theorem slashForm?_closed (cs : List Char) : slashForm? isArity (cs ++ [')']) = none := by
  rw [Option.eq_none_iff_forall_ne_some]
  intro form found
  obtain ⟨name, arity, whole, -, numbered⟩ := numbered_of_slashForm? found
  rcases List.eq_nil_or_concat arity with rfl | ⟨front, last, rfl⟩
  · simpa using (List.append_inj' whole rfl).2
  · rw [List.concat_eq_append, ← List.cons_append, ← List.append_assoc] at whole
    have isClosing : [')'] = [last] := (List.append_inj' whole rfl).2
    exact numbering.closing _ numbered (by simp [← (List.cons.inj isClosing).1])

theorem form?_spelling {form : Form} (spelled : form.IsSpelled isArity) :
    form? isArity form.spelling = some form := by
  cases form with
  | grammar name arity =>
    obtain ⟨word, numbered⟩ := spelled
    have eq : (Form.grammar name arity).spelling = name ++ ['/'] ++ '/' :: arity := by
      simp [Form.spelling]
    rw [eq, form?, slashForm?_append_slash numbered (numbering.slash arity numbered)]
    simp [isWrittenName_iff.mpr word]
  | callable name arity =>
    obtain ⟨word, numbered, single⟩ := spelled
    have noRule : ¬(name.getLast? = some '/' ∧ isWrittenName name.dropLast = true) := by
      rintro ⟨slash, written⟩
      rcases single with rfl | other
      · contradiction
      · exact other slash
    rw [Form.spelling, form?, slashForm?_append_slash numbered (numbering.slash arity numbered),
      if_neg noRule, if_pos (isWrittenName_iff.mpr word), Option.some_or]
  | function name arity =>
    obtain ⟨word, numbered⟩ := spelled
    have isArgument : argument? 'f' (Form.function name arity).spelling =
        some (name ++ '/' :: arity) :=
      argument?_eq_some_iff.mpr rfl
    have split : splitSlash? (name ++ '/' :: arity) = some (name, arity) :=
      splitSlash?_eq_some_iff.mpr ⟨rfl, numbering.slash arity numbered⟩
    have noSlashForm : slashForm? isArity (Form.function name arity).spelling = none :=
      slashForm?_closed numbering ('f' :: '(' :: (name ++ '/' :: arity))
    rw [form?, noSlashForm]
    simp [functionForm?, isArgument, split, numbered, isWrittenName_iff.mpr word]
  | symbol name =>
    have isArgument : argument? 'c' (Form.symbol name).spelling = some name :=
      argument?_eq_some_iff.mpr rfl
    have noSlashForm : slashForm? isArity (Form.symbol name).spelling = none :=
      slashForm?_closed numbering ('c' :: '(' :: name)
    have noFunction : argument? 'f' (Form.symbol name).spelling = none := by
      simp [argument?, Form.spelling]
    rw [form?, noSlashForm]
    simp [functionForm?, symbolForm?, noFunction, isArgument, isWrittenName_iff.mpr spelled]

/-- A text has the shape that it is the spelling of. -/
theorem form?_eq_some_iff {cs : List Char} {form : Form} :
    form? isArity cs = some form ↔ form.IsSpelled isArity ∧ cs = form.spelling := by
  constructor
  · intro found
    rcases Option.or_eq_some_iff.mp found with slashed | ⟨-, found⟩
    · exact form_of_slashForm? slashed
    · rcases Option.or_eq_some_iff.mp found with function | ⟨-, symbol⟩
      · exact form_of_functionForm? function
      · exact form_of_symbolForm? symbol
  · rintro ⟨spelled, rfl⟩
    exact form?_spelling numbering spelled

end

end DocIndex.Object
