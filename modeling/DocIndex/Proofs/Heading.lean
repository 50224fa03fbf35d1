import DocIndex.Heading
import DocIndex.Proofs.Text.Words

/-!
# What a heading says

Number and title are looked for among the children of each element of a heading. The search goes on
with the last number that it has seen: as long as no title stands behind a number it has found
nothing, and then it has the nearest number (`pairIn?_append`). Without marked elements the words of
the heading are divided between number and title, and none is lost (`words_splitNumber`).
-/

namespace DocIndex.Heading

open Markup (Element)

/-! ### Marked elements -/

/-- A title stands among these elements that has a number before it and is no number itself. -/
def HasPair (siblings : List Element) : Prop :=
  ∃ front title back, siblings = front ++ title :: back ∧
    (∃ number ∈ front, isNumber number = true) ∧ isTitle title = true ∧ isNumber title = false

/-- The title is the first among these elements that has a number before it, and the number is the
last one before this title. Only elements that are neither stand between them. -/
def IsPair (siblings : List Element) (number title : Element) : Prop :=
  ∃ front between back, siblings = front ++ number :: (between ++ title :: back) ∧
    isNumber number = true ∧ isTitle title = true ∧ isNumber title = false ∧
    (∀ e ∈ between, isNumber e = false ∧ isTitle e = false) ∧
    ¬HasPair (front ++ number :: between)

/-- The pair stands among the children of the first element of the heading whose children have one. -/
def IsFirstPair (heading number title : Element) : Prop :=
  ∃ before parent behind, heading.descendants = before ++ parent :: behind ∧
    (∀ other ∈ before, ¬HasPair other.elements) ∧ IsPair parent.elements number title

def lastNumber? (seen : List Element) : Option Element :=
  seen.reverse.find? isNumber

theorem lastNumber?_concat (seen : List Element) (e : Element) :
    lastNumber? (seen ++ [e]) = if isNumber e then some e else lastNumber? seen := by
  rw [lastNumber?, List.reverse_append, List.reverse_singleton, List.singleton_append,
    List.find?_cons]
  cases isNumber e <;> rfl

theorem exists_of_lastNumber? {seen : List Element} {number : Element}
    (last : lastNumber? seen = some number) :
    isNumber number = true ∧ ∃ front between, seen = front ++ number :: between ∧
      ∀ e ∈ between, isNumber e = false := by
  obtain ⟨isNumber, between, front, split, others⟩ := List.find?_eq_some_iff_append.mp last
  refine ⟨isNumber, front.reverse, between.reverse, ?_, ?_⟩
  · simpa using congrArg List.reverse split
  · intro e mem
    simpa using others e (List.mem_reverse.mp mem)

theorem not_hasPair_nil : ¬HasPair [] := by
  simp [HasPair]

theorem hasPair_concat_iff {seen : List Element} {e : Element} :
    HasPair (seen ++ [e]) ↔
      HasPair seen ∨ (lastNumber? seen).isSome ∧ isTitle e = true ∧ isNumber e = false := by
  have numbered : (lastNumber? seen).isSome ↔ ∃ number ∈ seen, isNumber number = true := by
    simp [lastNumber?]
  rw [numbered]
  constructor
  · rintro ⟨front, title, back, split, pair⟩
    rcases List.eq_nil_or_concat back with rfl | ⟨back, last, rfl⟩
    · obtain ⟨rfl, same⟩ := List.append_inj' split rfl
      obtain rfl := List.singleton_inj.mp same
      exact .inr pair
    · rw [List.concat_eq_append, ← List.cons_append, ← List.append_assoc] at split
      obtain ⟨rfl, -⟩ := List.append_inj' split rfl
      exact .inl ⟨front, title, back, rfl, pair⟩
  · rintro (⟨front, title, back, rfl, pair⟩ | pair)
    · exact ⟨front, title, back ++ [e], by simp, pair⟩
    · exact ⟨seen, e, [], rfl, pair⟩

theorem isPair_of_lastNumber? {seen rest : List Element} {number title : Element}
    (noPair : ¬HasPair seen) (last : lastNumber? seen = some number)
    (named : isTitle title = true) (notNumber : isNumber title = false) :
    IsPair (seen ++ title :: rest) number title := by
  obtain ⟨numbered, front, between, rfl, others⟩ := exists_of_lastNumber? last
  refine ⟨front, between, rest, by simp, numbered, named, notNumber, ?_, noPair⟩
  intro e mem
  refine ⟨others e mem, Bool.eq_false_iff.mpr fun entitled => noPair ?_⟩
  obtain ⟨inner, outer, rfl⟩ := List.append_of_mem mem
  exact ⟨front ++ number :: inner, e, outer, by simp, ⟨number, by simp, numbered⟩, entitled,
    others e mem⟩

/-- The search goes on with the last number that it has seen. -/
theorem pairIn?_append {seen : List Element} (siblings : List Element) (noPair : ¬HasPair seen) :
    (∀ number title, pairIn? (lastNumber? seen) siblings = some (number, title) →
      IsPair (seen ++ siblings) number title) ∧
      (pairIn? (lastNumber? seen) siblings = none → ¬HasPair (seen ++ siblings)) := by
  induction siblings generalizing seen with
  | nil => simpa [pairIn?] using noPair
  | cons e rest ih =>
    have goesOn (still : ¬HasPair (seen ++ [e])) := ih still
    simp only [lastNumber?_concat, List.append_assoc, List.singleton_append,
      hasPair_concat_iff] at goesOn
    unfold pairIn?
    cases numbered : isNumber e with
    | true =>
      simp only [numbered, if_true] at goesOn ⊢
      exact goesOn (by simpa using noPair)
    | false =>
      simp only [numbered, Bool.false_eq_true, if_false] at goesOn ⊢
      cases last : lastNumber? seen with
      | none =>
        simp only [last] at goesOn ⊢
        exact goesOn (by simpa using noPair)
      | some number =>
        cases named : isTitle e with
        | true =>
          refine ⟨?_, by simp⟩
          intro first title found
          cases found
          exact isPair_of_lastNumber? noPair last named numbered
        | false =>
          simp only [last, named] at goesOn ⊢
          exact goesOn (by simpa using noPair)

theorem isPair_of_pairIn? {siblings : List Element} {number title : Element}
    (found : pairIn? none siblings = some (number, title)) : IsPair siblings number title :=
  (pairIn?_append siblings not_hasPair_nil).1 number title found

theorem not_hasPair_of_pairIn? {siblings : List Element} (missing : pairIn? none siblings = none) :
    ¬HasPair siblings :=
  (pairIn?_append siblings not_hasPair_nil).2 missing

theorem isFirstPair_of_marked? {heading number title : Element}
    (found : marked? heading = some (number, title)) : IsFirstPair heading number title := by
  obtain ⟨before, parent, behind, split, pair, others⟩ := List.findSome?_eq_some_iff.mp found
  exact ⟨before, parent, behind, split, fun other mem => not_hasPair_of_pairIn? (others other mem),
    isPair_of_pairIn? pair⟩

theorem not_hasPair_of_marked? {heading : Element} (missing : marked? heading = none) :
    ∀ parent ∈ heading.descendants, ¬HasPair parent.elements :=
  fun parent mem => not_hasPair_of_pairIn? (List.findSome?_eq_none_iff.mp missing parent mem)

/-! ### Words -/

theorem isSpaced_flatten (e : Element) : Text.IsSpaced e.flatten.toList := by
  rw [Element.flatten, String.toList_ofList]
  exact Text.isSpaced_normalize e.rawText

theorem words_flatten (e : Element) : Text.words e.flatten.toList = Text.words e.rawText := by
  rw [Element.flatten, String.toList_ofList, Text.words_normalize]

theorem words_trimStart (cs : List Char) : Text.words (Text.trimStart cs) = Text.words cs := by
  induction cs with
  | nil => rfl
  | cons c cs ih =>
    rw [Text.trimStart, List.dropWhile_cons]
    split
    next blank => rw [Text.words_cons_of_blank blank, ← ih, Text.trimStart]
    next => rfl

/-- Number and title share out the words of a text. -/
theorem words_splitNumber (text : List Char) :
    Text.words (splitNumber text).1 ++ Text.words (splitNumber text).2 = Text.words text := by
  unfold splitNumber
  split
  next dropped =>
    rw [words_trimStart, ← Text.words_append_of_blank (rfl : Text.isBlank ' ' = true),
      Text.takeWhile_append_mark dropped]
  next => rw [Text.words_nil, List.nil_append]

theorem isSpaced_splitNumber {text : List Char} (spaced : Text.IsSpaced text) :
    Text.IsSpaced (splitNumber text).2 := by
  unfold splitNumber
  split
  next dropped =>
    rw [← Text.takeWhile_append_mark dropped] at spaced
    have behind := spaced.behind rfl
    rwa [Text.trimStart, Text.dropWhile_eq_self_of_ends behind.start]
  next => exact spaced

theorem isSpaced_title (element : Element) (level : UInt8) :
    Text.IsSpaced (ofElement element level).1.title.toList := by
  have title : (ofElement element level).1.title = (numberAndTitle element).2 := rfl
  rw [title, numberAndTitle]
  cases marked? element with
  | some pair => exact isSpaced_flatten pair.2
  | none =>
    rw [String.toList_ofList]
    exact isSpaced_splitNumber (isSpaced_flatten element)

/-! ### Identifiers -/

theorem isBlank_idOfTitle (title : List Char) :
    ∀ c ∈ (idOfTitle title).toList, Text.isBlank c = false := by
  intro c mem
  rw [idOfTitle, String.toList_append] at mem
  rcases List.mem_append.mp mem with inFront | inWords
  · have solid : "sec:".toList.all (!Text.isBlank ·) = true := by decide
    simpa using List.all_eq_true.mp solid c inFront
  · rw [String.toList_ofList] at inWords
    rcases Text.mem_intercalate inWords with rfl | ⟨word, isIn, inside⟩
    · rfl
    · exact (Text.isWord_of_mem_words isIn).solid c inside

/-- An identifier without a blank that a heading with this title gets: that of the bibliography, or
one that is made from the title, and then a notice says so. -/
def IsGiven (title id : String) (notice : Option MadeId) : Prop :=
  (∀ c ∈ id.toList, Text.isBlank c = false) ∧
    (title = "Bibliography" ∧ id = bibliographyId ∧ notice = none ∨
      title ≠ "Bibliography" ∧ id = idOfTitle title.toList ∧ notice = some ⟨title, id⟩)

theorem isGiven_idWithout (title : String) :
    IsGiven title (idWithout title).1 (idWithout title).2 := by
  unfold idWithout
  split
  next bibliography =>
    have solid : bibliographyId.toList.all (!Text.isBlank ·) = true := by decide
    refine ⟨fun c mem => ?_, .inl ⟨bibliography, rfl, rfl⟩⟩
    simpa using List.all_eq_true.mp solid c mem
  next other => exact ⟨isBlank_idOfTitle title.toList, .inr ⟨other, rfl, rfl⟩⟩

theorem identify_cases (heading : Element) (title : String) :
    (heading.attribute? "id" = some (identify heading title).1 ∧ (identify heading title).1 ≠ "" ∧
        (identify heading title).2 = none) ∨
      ((∀ own ∈ heading.attribute? "id", own = "") ∧
        IsGiven title (identify heading title).1 (identify heading title).2) := by
  unfold identify
  cases heading.attribute? "id" with
  | none => exact .inr ⟨by simp, isGiven_idWithout title⟩
  | some own =>
    by_cases empty : own.isEmpty
    · simp only [empty, if_true]
      exact .inr ⟨by simpa using empty, isGiven_idWithout title⟩
    · simp only [empty, Bool.false_eq_true, if_false]
      exact .inl ⟨trivial, by simpa using empty, trivial⟩

/-- A heading reads its number and its title off the first pair of marked elements; if it has none,
the words of its text are those of the number and those of the title, in order. Its identifier is its
own one if that is not empty, and otherwise it is given one without a blank. A notice is given just
if the identifier is made from the title. -/
theorem ofElement_reads (element : Element) (level : UInt8) :
    let heading := (ofElement element level).1
    let notice := (ofElement element level).2
    heading.level = level ∧
      ((∃ number title, IsFirstPair element number title ∧ heading.number = number.flatten ∧
          heading.title = title.flatten) ∨
        ((∀ parent ∈ element.descendants, ¬HasPair parent.elements) ∧
          Text.words heading.number.toList ++ Text.words heading.title.toList =
            Text.words element.rawText)) ∧
      ((element.attribute? "id" = some heading.id ∧ heading.id ≠ "" ∧ notice = none) ∨
        ((∀ own ∈ element.attribute? "id", own = "") ∧ IsGiven heading.title heading.id notice)) := by
  intro heading notice
  refine ⟨rfl, ?_, identify_cases element heading.title⟩
  have parts : (heading.number, heading.title) = numberAndTitle element := rfl
  unfold numberAndTitle at parts
  cases found : marked? element with
  | some pair =>
    rw [found] at parts
    obtain ⟨number, title⟩ := Prod.mk.inj parts
    exact .inl ⟨pair.1, pair.2, isFirstPair_of_marked? found, number, title⟩
  | none =>
    rw [found] at parts
    obtain ⟨number, title⟩ := Prod.mk.inj parts
    refine .inr ⟨not_hasPair_of_marked? found, ?_⟩
    rw [number, title, String.toList_ofList, String.toList_ofList, words_splitNumber, words_flatten]

end DocIndex.Heading
