import DocIndex.Proofs.Text.Run

/-!
# Words

A blank divides the words of a text: what stands before it and what stands behind it have their
words each for itself (`words_append_of_blank`). So words with a blank between them are read back
(`words_intercalate`). A text without blanks but single spaces inside is normalized as it is
(`normalize_of_isSpaced`), and such is every normalized text (`isSpaced_normalize`).
-/

namespace DocIndex.Text

/-- One character or more, and no blank among them. -/
structure IsWord (cs : List Char) : Prop where
  some : cs ≠ []
  solid : ∀ c ∈ cs, isBlank c = false

theorem IsWord.append {front back : List Char} (isFront : IsWord front) (isBack : IsWord back) :
    IsWord (front ++ back) := by
  refine ⟨by simp [isFront.some], ?_⟩
  intro c mem
  rcases List.mem_append.mp mem with inFront | inBack
  · exact isFront.solid c inFront
  · exact isBack.solid c inBack

theorem isWord_singleton {c : Char} (notBlank : isBlank c = false) : IsWord [c] :=
  ⟨List.cons_ne_nil c [], fun d mem => by rwa [List.mem_singleton.mp mem]⟩

theorem IsWord.cons {c : Char} {cs : List Char} (isWord : IsWord cs)
    (notBlank : isBlank c = false) : IsWord (c :: cs) :=
  (isWord_singleton notBlank).append isWord

theorem IsWord.of_sublist {part cs : List Char} (isWord : IsWord cs) (some : part ≠ [])
    (within : part.Sublist cs) : IsWord part :=
  ⟨some, fun c mem => isWord.solid c (within.subset mem)⟩

theorem IsWord.count_eq_zero {cs : List Char} (isWord : IsWord cs) {c : Char}
    (blank : isBlank c = true) : cs.count c = 0 := by
  rw [List.count_eq_zero]
  intro mem
  rw [isWord.solid c mem] at blank
  contradiction

theorem trim_of_isWord {word : List Char} (isWord : IsWord word) : trim word = word := by
  have front : Ends isBlank word := fun c mem => isWord.solid c (List.mem_of_mem_head? mem)
  have back : Ends isBlank word.reverse := fun c mem =>
    isWord.solid c (List.mem_reverse.mp (List.mem_of_mem_head? mem))
  rw [trim, trimStart, dropWhile_eq_self_of_ends front, trimEnd, dropWhile_eq_self_of_ends back,
    List.reverse_reverse]

theorem trim_sublist (cs : List Char) : (trim cs).Sublist cs := by
  have back := (List.dropWhile_sublist isBlank (l := (trimStart cs).reverse)).reverse
  rw [List.reverse_reverse] at back
  exact back.trans (List.dropWhile_sublist isBlank)

theorem words_of_dropWhile_eq_nil {cs : List Char} (blank : cs.dropWhile isBlank = []) :
    words cs = [] := by
  rw [words, blank]

theorem words_of_dropWhile_eq_cons {cs rest : List Char} {c : Char}
    (dropped : cs.dropWhile isBlank = c :: rest) :
    words cs = (c :: rest.takeWhile (!isBlank ·)) :: words (rest.dropWhile (!isBlank ·)) := by
  rw [words, dropped]

@[simp] theorem words_nil : words [] = [] :=
  words_of_dropWhile_eq_nil rfl

theorem isWord_of_mem_words {cs word : List Char} (mem : word ∈ words cs) : IsWord word := by
  fun_induction words cs with
  | case1 => contradiction
  | case2 cs c rest dropped ih =>
    rcases List.mem_cons.mp mem with rfl | mem
    · refine ⟨List.cons_ne_nil _ _, ?_⟩
      intro d isIn
      rcases List.mem_cons.mp isIn with rfl | isIn
      · exact (ends_cons isBlank ..).mp (dropped ▸ ends_dropWhile isBlank cs)
      · simpa using List.all_eq_true.mp List.all_takeWhile _ isIn
    · exact ih mem

theorem words_of_isWord {word : List Char} (isWord : IsWord word) : words word = [word] := by
  obtain ⟨c, rest, rfl⟩ := List.exists_cons_of_ne_nil isWord.some
  have solid : ∀ d ∈ rest, (!isBlank d) = true := by
    intro d mem
    simp [isWord.solid d (List.mem_cons_of_mem c mem)]
  have first : (c :: rest).dropWhile isBlank = c :: rest :=
    dropWhile_eq_self_of_ends (by simpa using isWord.solid c List.mem_cons_self)
  have taken := takeWhile_append_of_ends solid (ends_nil _)
  have left := dropWhile_append_of_ends solid (ends_nil _)
  rw [List.append_nil] at taken left
  rw [words_of_dropWhile_eq_cons first, taken, left, words_nil]

theorem words_cons_of_blank {c : Char} (blank : isBlank c = true) (cs : List Char) :
    words (c :: cs) = words cs := by
  have same : (c :: cs).dropWhile isBlank = cs.dropWhile isBlank :=
    List.dropWhile_cons_of_pos blank
  cases dropped : cs.dropWhile isBlank with
  | nil => rw [words_of_dropWhile_eq_nil dropped, words_of_dropWhile_eq_nil (same.trans dropped)]
  | cons d rest =>
    rw [words_of_dropWhile_eq_cons dropped, words_of_dropWhile_eq_cons (same.trans dropped)]

section
variable {inClass : Char → Bool} {stop : Char} (stops : inClass stop = false)
include stops

theorem takeWhile_append_cons_of_stop (front back : List Char) :
    (front ++ stop :: back).takeWhile inClass = front.takeWhile inClass := by
  induction front with
  | nil => simp [stops]
  | cons c front ih => simp only [List.cons_append, List.takeWhile_cons, ih]

theorem dropWhile_append_cons_of_stop (front back : List Char) :
    (front ++ stop :: back).dropWhile inClass = front.dropWhile inClass ++ stop :: back := by
  rw [List.dropWhile_append]
  split
  next all => simp [List.isEmpty_iff.mp all, stops]
  next => rfl

end

/-- A blank divides the words of a text. -/
theorem words_append_of_blank {c : Char} (blank : isBlank c = true) (front back : List Char) :
    words (front ++ c :: back) = words front ++ words back := by
  fun_induction words front with
  | case1 front allBlank =>
    have dropped : (front ++ c :: back).dropWhile isBlank = (c :: back).dropWhile isBlank := by
      rw [List.dropWhile_append, allBlank]
      rfl
    rw [List.nil_append, ← words_cons_of_blank blank back, words, dropped, ← words]
  | case2 front d rest dropped ih =>
    have stops : (!isBlank c) = false := by rw [blank]; rfl
    have first : (front ++ c :: back).dropWhile isBlank = d :: (rest ++ c :: back) := by
      rw [List.dropWhile_append, dropped]
      rfl
    rw [words_of_dropWhile_eq_cons first, takeWhile_append_cons_of_stop stops,
      dropWhile_append_cons_of_stop stops, ih, List.cons_append]

theorem words_of_solid {run : List Char} (solid : ∀ c ∈ run, isBlank c = false) :
    words run = if run = [] then [] else [run] := by
  split
  next empty => rw [empty, words_nil]
  next some => exact words_of_isWord ⟨some, solid⟩

/-- Words with a blank between them are read back. -/
theorem words_intercalate {mark : Char} (blank : isBlank mark = true) {list : List (List Char)}
    (areWords : ∀ word ∈ list, IsWord word) : words ([mark].intercalate list) = list := by
  induction list with
  | nil => rw [List.intercalate_nil, words_nil]
  | cons word list ih =>
    have first := words_of_isWord (areWords word List.mem_cons_self)
    have others := ih fun other mem => areWords other (List.mem_cons_of_mem word mem)
    by_cases last : list = []
    · rw [last, List.intercalate_singleton, first]
    · rw [List.intercalate_cons_of_ne_nil last, List.append_assoc, List.singleton_append,
        words_append_of_blank blank, first, others, List.singleton_append]

theorem words_normalize (cs : List Char) : words (normalize cs) = words cs :=
  words_intercalate rfl fun _ => isWord_of_mem_words

theorem normalize_normalize (cs : List Char) : normalize (normalize cs) = normalize cs := by
  rw [normalize, words_normalize, ← normalize]

theorem mem_intercalate {α : Type} {mark x : α} {list : List (List α)}
    (mem : x ∈ [mark].intercalate list) : x = mark ∨ ∃ part ∈ list, x ∈ part := by
  induction list with
  | nil => simp at mem
  | cons part list ih =>
    by_cases last : list = []
    · rw [last, List.intercalate_singleton] at mem
      exact .inr ⟨part, List.mem_cons_self, mem⟩
    · rw [List.intercalate_cons_of_ne_nil last, List.append_assoc, List.singleton_append] at mem
      rcases List.mem_append.mp mem with inFirst | behind
      · exact .inr ⟨part, List.mem_cons_self, inFirst⟩
      · rcases List.mem_cons.mp behind with isMark | further
        · exact .inl isMark
        · rcases ih further with isMark | ⟨other, isOther, inside⟩
          · exact .inl isMark
          · exact .inr ⟨other, List.mem_cons_of_mem part isOther, inside⟩

/-! ### Spaced texts -/

/-- A text without blanks at its ends, and with none inside but single spaces. -/
structure IsSpaced (cs : List Char) : Prop where
  start : Ends isBlank cs
  stop : ∀ c ∈ cs.getLast?, isBlank c = false
  single : ∀ front c back, cs = front ++ c :: back → isBlank c = true → c = ' ' ∧ Ends isBlank back

theorem IsSpaced.eq_space {cs : List Char} (spaced : IsSpaced cs) {c : Char} (mem : c ∈ cs)
    (blank : isBlank c = true) : c = ' ' := by
  obtain ⟨front, back, split⟩ := List.append_of_mem mem
  exact (spaced.single front c back split blank).1

theorem IsSpaced.count_eq_zero {cs : List Char} (spaced : IsSpaced cs) {c : Char}
    (blank : isBlank c = true) (other : c ≠ ' ') : cs.count c = 0 :=
  List.count_eq_zero.mpr fun mem => other (spaced.eq_space mem blank)

theorem IsSpaced.behind {front back : List Char} {c : Char} (spaced : IsSpaced (front ++ c :: back))
    (blank : isBlank c = true) : IsSpaced back := by
  refine ⟨(spaced.single front c back rfl blank).2, ?_, ?_⟩
  · intro d isLast
    obtain ⟨before, rfl⟩ := List.getLast?_eq_some_iff.mp isLast
    exact spaced.stop d (by simp [List.getLast?_append, List.getLast?_cons])
  · intro before d after split
    exact spaced.single (front ++ c :: before) d after (by simp [split])

theorem IsWord.isSpaced {word : List Char} (isWord : IsWord word) : IsSpaced word := by
  refine ⟨fun c isFirst => isWord.solid c (List.mem_of_mem_head? isFirst),
    fun c isLast => isWord.solid c (List.mem_of_getLast? isLast), ?_⟩
  rintro front c back rfl blank
  rw [isWord.solid c (by simp)] at blank
  contradiction

theorem isSpaced_nil : IsSpaced [] := by
  constructor <;> simp

theorem IsSpaced.behind_word {word rest : List Char} (spaced : IsSpaced rest)
    (isWord : IsWord word) (more : rest ≠ []) : IsSpaced (word ++ ' ' :: rest) := by
  refine ⟨?_, ?_, ?_⟩
  · obtain ⟨c, others, rfl⟩ := List.exists_cons_of_ne_nil isWord.some
    simpa using isWord.solid c List.mem_cons_self
  · intro c isLast
    have same : (word ++ ' ' :: rest).getLast? = rest.getLast? := by
      rw [List.getLast?_append, List.getLast?_cons_of_ne_nil more,
        List.getLast?_eq_some_getLast more, Option.some_or]
    exact spaced.stop c (same ▸ isLast)
  · intro front c back split blank
    -- The blank is not in the word.
    have behind : ∃ between, ' ' :: rest = between ++ c :: back := by
      rcases List.append_eq_append_iff.mp split with ⟨between, -, same⟩ | ⟨between, rfl, same⟩
      · exact ⟨between, same⟩
      · cases between with
        | nil => exact ⟨[], same.symm⟩
        | cons d between =>
          obtain ⟨rfl, -⟩ := List.cons.inj same
          rw [isWord.solid c (by simp)] at blank
          contradiction
    obtain ⟨between, same⟩ := behind
    cases between with
    | nil =>
      obtain ⟨rfl, rfl⟩ := List.cons.inj same
      exact ⟨rfl, spaced.start⟩
    | cons d between => exact spaced.single between c back (List.cons.inj same).2 blank

theorem isSpaced_intercalate {list : List (List Char)} (areWords : ∀ word ∈ list, IsWord word) :
    IsSpaced ([' '].intercalate list) := by
  induction list with
  | nil => exact isSpaced_nil
  | cons word list ih =>
    have first := areWords word List.mem_cons_self
    have others := ih fun other mem => areWords other (List.mem_cons_of_mem word mem)
    cases list with
    | nil => simpa using first.isSpaced
    | cons next list =>
      have nextSome := (areWords next (by simp)).some
      have more : [' '].intercalate (next :: list) ≠ [] := by
        cases list <;> simp [nextSome]
      rw [List.intercalate_cons_of_ne_nil (List.cons_ne_nil next list), List.append_assoc,
        List.singleton_append]
      exact others.behind_word first more

theorem isSpaced_normalize (cs : List Char) : IsSpaced (normalize cs) :=
  isSpaced_intercalate fun _ => isWord_of_mem_words

theorem normalize_of_isSpaced {cs : List Char} (spaced : IsSpaced cs) : normalize cs = cs := by
  induction cs using induction_on_runs isBlank with
  | last run solid =>
    rw [normalize, words_of_solid solid]
    split
    next empty => rw [empty, List.intercalate_nil]
    next => rw [List.intercalate_singleton]
  | divided run c rest solid blank ih =>
    obtain ⟨rfl, starts⟩ := spaced.single run c rest rfl blank
    have others := ih (spaced.behind blank)
    have some : run ≠ [] := by
      rintro rfl
      have first := spaced.start
      rw [List.nil_append, ends_cons, blank] at first
      exact absurd first (by decide)
    have more : words rest ≠ [] := by
      intro none
      rw [normalize, none, List.intercalate_nil] at others
      have last := spaced.stop ' ' (by simp [← others])
      exact absurd last (by decide)
    rw [normalize, words_append_of_blank blank, words_of_solid solid, if_neg some,
      List.singleton_append, List.intercalate_cons_of_ne_nil more, ← normalize, others,
      List.append_assoc, List.singleton_append]

theorem eq_space_of_mem_normalize {cs : List Char} {c : Char} (mem : c ∈ normalize cs)
    (blank : isBlank c = true) : c = ' ' :=
  (isSpaced_normalize cs).eq_space mem blank

end DocIndex.Text
