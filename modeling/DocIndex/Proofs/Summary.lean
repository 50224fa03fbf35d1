import DocIndex.Proofs.Text.Words
import DocIndex.Sentence

/-!
# Summaries

The summary of an element is read off its raw text, in which blanks stand in any number, and up to
the end of a sentence only. It is the first sentence of the normalized text all the same: both texts
have the same words, and a sentence is made of whole words (`words_firstSentence`).
-/

namespace DocIndex

/-! ### First sentences of any text -/

theorem firstSentence_isPrefix {before rest : List Char} {c : Char}
    (ends : endsSentence c rest = true) :
    firstSentence (before ++ c :: rest) <+: before ++ [c] := by
  induction before with
  | nil => simp [firstSentence, ends]
  | cons d before ih =>
    rw [List.cons_append, firstSentence, List.cons_append]
    split
    · exact (List.cons_prefix_cons).mpr ⟨rfl, List.nil_prefix⟩
    · exact (List.cons_prefix_cons).mpr ⟨rfl, ih⟩

/-- A first sentence is the whole text, or it ends where a sentence ends. -/
theorem firstSentence_cases (cs : List Char) :
    firstSentence cs = cs ∨ ∃ before c rest,
      cs = before ++ c :: rest ∧ endsSentence c rest = true ∧ firstSentence cs = before ++ [c] := by
  induction cs with
  | nil => exact .inl rfl
  | cons d cs ih =>
    rw [firstSentence]
    split
    next ends => exact .inr ⟨[], d, cs, rfl, ends, rfl⟩
    next =>
      rcases ih with whole | ⟨before, c, rest, split, ends, first⟩
      · exact .inl (congrArg _ whole)
      · exact .inr ⟨d :: before, c, rest, congrArg _ split, ends, congrArg _ first⟩

theorem head?_firstSentence (cs : List Char) : (firstSentence cs).head? = cs.head? := by
  cases cs with
  | nil => rfl
  | cons c cs => rw [firstSentence]; split <;> rfl

theorem firstSentence_firstSentence (cs : List Char) :
    firstSentence (firstSentence cs) = firstSentence cs := by
  induction cs with
  | nil => rfl
  | cons c cs ih =>
    have next : endsSentence c (firstSentence cs) = endsSentence c cs := by
      rw [endsSentence, head?_firstSentence, endsSentence]
    rw [firstSentence]
    split
    · simp [firstSentence, endsSentence]
    next goesOn => rw [firstSentence, next, if_neg goesOn, ih]

/-! ### Sentences of words -/

theorem isBlank_eq_false_of_isPeriod {c : Char} (period : isPeriod c = true) :
    Text.isBlank c = false := by
  have solid : periods.all (!Text.isBlank ·) = true := by decide
  simpa using List.all_eq_true.mp solid c (List.contains_iff_mem.mp period)

section
variable {run : List Char} (solid : ∀ c ∈ run, Text.isBlank c = false)
include solid

theorem firstSentence_of_solid : firstSentence run = run := by
  induction run with
  | nil => rfl
  | cons c run ih =>
    have others := ih fun d mem => solid d (List.mem_cons_of_mem c mem)
    have goesOn : endsSentence c run = false := by
      cases run with
      | nil => simp [endsSentence]
      | cons d run => simp [endsSentence, solid d (by simp)]
    rw [firstSentence, goesOn, if_neg Bool.false_ne_true, others]

theorem firstSentence_append_of_blank {b : Char} (blank : Text.isBlank b = true)
    (rest : List Char) :
    firstSentence (run ++ b :: rest) =
      if run.getLast?.any isPeriod then run else run ++ b :: firstSentence rest := by
  induction run with
  | nil =>
    have goesOn : endsSentence b rest = false := by
      cases period : isPeriod b with
      | false => simp [endsSentence, period]
      | true =>
        rw [isBlank_eq_false_of_isPeriod period] at blank
        contradiction
    simp [firstSentence, goesOn]
  | cons c run ih =>
    have others := ih fun d mem => solid d (List.mem_cons_of_mem c mem)
    rw [List.cons_append, firstSentence]
    cases run with
    | nil =>
      rw [List.nil_append] at others ⊢
      cases period : isPeriod c <;> simp [endsSentence, blank, period, others]
    | cons d run =>
      have goesOn : endsSentence c (d :: run ++ b :: rest) = false := by
        simp [endsSentence, solid d (by simp)]
      rw [goesOn, if_neg Bool.false_ne_true, others, List.getLast?_cons_cons]
      split <;> rfl

end

/-- Words up to the first that ends in a period. -/
def sentenceWords : List (List Char) → List (List Char)
  | [] => []
  | word :: rest => if word.getLast?.any isPeriod then [word] else word :: sentenceWords rest

/-- A sentence of a text is made of whole words. -/
theorem words_firstSentence (cs : List Char) :
    Text.words (firstSentence cs) = sentenceWords (Text.words cs) := by
  induction cs using Text.induction_on_runs Text.isBlank with
  | last run solid =>
    rw [firstSentence_of_solid solid, Text.words_of_solid solid]
    split
    · rfl
    · simp [sentenceWords]
  | divided run c rest solid blank ih =>
    rw [firstSentence_append_of_blank solid blank, Text.words_append_of_blank blank,
      Text.words_of_solid solid]
    by_cases empty : run = []
    · simp [empty, Text.words_cons_of_blank blank, ih]
    · rw [if_neg empty, List.singleton_append, sentenceWords]
      split
      · rw [Text.words_of_solid solid, if_neg empty]
      · rw [Text.words_append_of_blank blank, Text.words_of_solid solid, if_neg empty, ih,
          List.singleton_append]

theorem firstSentence_intercalate {list : List (List Char)}
    (areWords : ∀ word ∈ list, Text.IsWord word) :
    firstSentence ([' '].intercalate list) = [' '].intercalate (sentenceWords list) := by
  induction list with
  | nil => rfl
  | cons word list ih =>
    have solid := (areWords word List.mem_cons_self).solid
    have others := ih fun other mem => areWords other (List.mem_cons_of_mem word mem)
    rw [sentenceWords]
    cases list with
    | nil => simp [firstSentence_of_solid solid, sentenceWords]
    | cons next list =>
      have more : sentenceWords (next :: list) ≠ [] := by
        rw [sentenceWords]
        split <;> exact List.cons_ne_nil _ _
      rw [List.intercalate_cons_of_ne_nil (List.cons_ne_nil next list), List.append_assoc,
        List.singleton_append, firstSentence_append_of_blank solid rfl, others]
      split
      · rw [List.intercalate_singleton]
      · rw [List.intercalate_cons_of_ne_nil more, List.append_assoc, List.singleton_append]

theorem firstSentence_normalize (cs : List Char) :
    firstSentence (Text.normalize cs) = Text.normalize (firstSentence cs) := by
  rw [Text.normalize, Text.normalize, words_firstSentence,
    firstSentence_intercalate fun _ => Text.isWord_of_mem_words]

/-! ### Summaries of elements -/

/-- A text begins with these characters, which end in a period with a space behind it. -/
def BeginsWithSentence (text front : List Char) : Prop :=
  ∃ before period rest,
    isPeriod period = true ∧ front = before ++ [period] ∧ text = front ++ ' ' :: rest

namespace Markup.Element

theorem toList_summary (e : Element) : e.summary.toList = firstSentence e.flatten.toList := by
  rw [summary_eq, flatten, String.toList_ofList, String.toList_ofList, firstSentence_normalize]

/-- The summary of an element is the shortest sentence that its text begins with, or all of its text
when it begins with none. It depends on the text below the element only, and is its own summary. -/
theorem summary_isShortest (e : Element) :
    (∀ front, BeginsWithSentence e.flatten.toList front → e.summary.toList <+: front) ∧
      (BeginsWithSentence e.flatten.toList e.summary.toList ∨
        e.summary = e.flatten ∧ ∀ front, ¬BeginsWithSentence e.flatten.toList front) ∧
      (∀ other : Element, other.rawText = e.rawText → other.summary = e.summary) ∧
      ∀ other : Element, other.rawText = e.summary.toList → other.summary = e.summary := by
  have shortest (front : List Char) (begins : BeginsWithSentence e.flatten.toList front) :
      e.summary.toList <+: front := by
    obtain ⟨before, period, rest, isPeriod, rfl, text⟩ := begins
    have ends : endsSentence period (' ' :: rest) = true := by rw [endsSentence, isPeriod]; rfl
    rw [toList_summary, text, List.append_assoc]
    exact firstSentence_isPrefix ends
  refine ⟨shortest, ?_, ?_, ?_⟩
  · rcases firstSentence_cases e.flatten.toList with whole | ⟨before, c, rest, text, ends, first⟩
    · right
      rw [← toList_summary] at whole
      refine ⟨String.toList_inj.mp whole, ?_⟩
      intro front begins
      have within := (shortest front begins).length_le
      obtain ⟨before, period, rest, isPeriod, rfl, text⟩ := begins
      have lengths := congrArg List.length (whole.trans text)
      simp at lengths within
      omega
    · left
      rw [← toList_summary] at first
      obtain ⟨period, blank⟩ := Bool.and_eq_true_iff.mp ends
      cases rest with
      | nil => contradiction
      | cons d rest =>
        have space : d = ' ' := by
          rw [flatten, String.toList_ofList] at text
          have mem : d ∈ Text.normalize e.rawText := by simp [text]
          exact Text.eq_space_of_mem_normalize mem blank
        refine ⟨before, c, rest, period, first, ?_⟩
        rw [first, text, space, List.append_assoc, List.singleton_append]
  · intro other same
    rw [summary_eq, summary_eq, same]
  · intro other same
    have normalized : Text.normalize e.summary.toList = e.summary.toList := by
      rw [toList_summary, flatten, String.toList_ofList, ← firstSentence_normalize,
        Text.normalize_normalize]
    apply String.toList_inj.mp
    rw [toList_summary, flatten, String.toList_ofList, same, normalized, toList_summary,
      firstSentence_firstSentence]

/-- A period at the end of an element within, with a comment between it and the line feed behind it,
and a later sentence. -/
theorem summary_isShortest_acrossNodes :
    let e : Element := ⟨"dd", [], [.text " Unify\n with ", .element "code" [] [.text "X.y."],
      .comment ". ", .text "\nMore! Or not."]⟩
    let plain : Element := ⟨"dd", [], [.text " Unify\n with X.y.\nMore! Or not."]⟩
    let again : Element := ⟨"p", [], [.text "Unify with ", .text "X.y."]⟩
    e.summary = "Unify with X.y." ∧
      BeginsWithSentence e.flatten.toList "Unify with X.y. More!".toList ∧
      e.summary.toList <+: "Unify with X.y. More!".toList ∧
      (plain.rawText = e.rawText ∧ plain.summary = e.summary) ∧
      again.rawText = e.summary.toList ∧ again.summary = e.summary := by
  intro e plain again
  have first : e.summary = "Unify with X.y." := by decide +kernel
  have later : BeginsWithSentence e.flatten.toList "Unify with X.y. More!".toList :=
    ⟨"Unify with X.y. More".toList, '!', "Or not.".toList, rfl, by decide +kernel,
      by decide +kernel⟩
  have same : again.rawText = e.summary.toList := by decide +kernel
  obtain ⟨shortest, -, alike, itself⟩ := summary_isShortest e
  exact ⟨first, later, shortest _ later, ⟨by decide +kernel, alike plain (by decide +kernel)⟩, same,
    itself again same⟩

end Markup.Element

end DocIndex
