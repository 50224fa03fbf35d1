/-!
# Search

Splitting a text before the first place where something begins.
-/

namespace DocIndex.Text

/-- Splits before the first non-empty suffix that satisfies the condition; when there is none the
second part is empty. -/
def splitBefore (begins : List Char → Bool) : List Char → List Char × List Char
  | [] => ([], [])
  | c :: cs =>
    if begins (c :: cs) then ([], c :: cs)
    else
      let parts := splitBefore begins cs
      (c :: parts.1, parts.2)

@[simp] theorem splitBefore_append (begins : List Char → Bool) (cs : List Char) :
    (splitBefore begins cs).1 ++ (splitBefore begins cs).2 = cs := by
  induction cs with
  | nil => rfl
  | cons c cs ih => simp only [splitBefore]; split <;> simp [ih]

theorem splitBefore_snd (begins : List Char → Bool) (cs : List Char) :
    (splitBefore begins cs).2 = [] ∨ begins (splitBefore begins cs).2 = true := by
  induction cs with
  | nil => exact .inl rfl
  | cons c cs ih =>
    simp only [splitBefore]
    split
    next found => exact .inr found
    next => exact ih

theorem splitBefore_fst {begins : List Char → Bool} {cs before behind : List Char} {d : Char}
    (inside : (splitBefore begins cs).1 = before ++ d :: behind) :
    begins (d :: (behind ++ (splitBefore begins cs).2)) = false := by
  induction cs generalizing before with
  | nil => simp [splitBefore] at inside
  | cons c cs ih =>
    simp only [splitBefore] at inside ⊢
    split at inside
    next => simp at inside
    next notHere =>
      rw [if_neg notHere]
      cases before with
      | nil =>
        simp only [List.nil_append, List.cons.injEq] at inside
        obtain ⟨rfl, same⟩ := inside
        rw [← same, splitBefore_append]
        exact Bool.eq_false_iff.mpr notHere
      | cons e before =>
        simp only [List.cons_append, List.cons.injEq] at inside
        exact ih inside.2

/-- The first part ends where something begins, if it begins nowhere before. -/
theorem splitBefore_append_of_first {begins : List Char → Bool} {front : List Char} {c : Char}
    {rest : List Char} (found : begins (c :: rest) = true)
    (first : ∀ before d behind, front = before ++ d :: behind →
      begins (d :: (behind ++ c :: rest)) = false) :
    splitBefore begins (front ++ c :: rest) = (front, c :: rest) := by
  induction front with
  | nil => simp only [List.nil_append, splitBefore, found, if_true]
  | cons d front ih =>
    have notHere := first [] d front rfl
    have split := ih fun before e behind eq => first (d :: before) e behind (congrArg (d :: ·) eq)
    simp only [List.cons_append, splitBefore, notHere, split, Bool.false_eq_true, if_false]

/-- Splits at the first place where the mark stands, and tells whether it was found; the mark is
in neither part. -/
def splitAtMark (mark : List Char) (cs : List Char) : List Char × Bool × List Char :=
  let parts := splitBefore (mark.isPrefixOf ·) cs
  (parts.1, !parts.2.isEmpty, parts.2.drop mark.length)

theorem splitAtMark_append (mark cs : List Char) :
    (splitAtMark mark cs).1 ++ (if (splitAtMark mark cs).2.1 then mark else []) ++
      (splitAtMark mark cs).2.2 = cs := by
  have whole := splitBefore_append (mark.isPrefixOf ·) cs
  rcases splitBefore_snd (mark.isPrefixOf ·) cs with none | found
  · rw [none] at whole
    simpa [splitAtMark, none] using whole
  · obtain ⟨rest, eq⟩ := List.isPrefixOf_iff_prefix.mp found
    rw [← eq] at whole
    by_cases empty : mark ++ rest = []
    · simp_all [splitAtMark]
    · simp only [splitAtMark, ← eq, List.drop_left]
      simpa [empty] using whole

theorem not_infix_splitAtMark {mark : List Char} (some : mark ≠ []) (cs : List Char) :
    ¬mark <:+: (splitAtMark mark cs).1 := by
  rintro ⟨before, behind, inside⟩
  cases mark with
  | nil => contradiction
  | cons d mark =>
    rw [List.append_assoc, List.cons_append] at inside
    have notHere := splitBefore_fst inside.symm
    rw [List.append_assoc, ← List.cons_append,
      List.isPrefixOf_iff_prefix.mpr (List.prefix_append _ _)] at notHere
    contradiction

theorem not_mem_splitAtMark (mark : Char) (cs : List Char) : mark ∉ (splitAtMark [mark] cs).1 := by
  intro mem
  obtain ⟨before, behind, inside⟩ := List.append_of_mem mem
  refine not_infix_splitAtMark (List.cons_ne_nil mark []) cs ⟨before, behind, ?_⟩
  rw [inside, List.append_assoc, List.singleton_append]

theorem isPrefix_splitAtMark (mark cs : List Char) : (splitAtMark mark cs).1 <+: cs :=
  ⟨_, splitBefore_append (mark.isPrefixOf ·) cs⟩

theorem splitAtMark_cons_of_ne {mark c : Char} (other : c ≠ mark) (cs : List Char) :
    (splitAtMark [mark] (c :: cs)).1 = c :: (splitAtMark [mark] cs).1 := by
  have notHere : [mark].isPrefixOf (c :: cs) = false := by
    simp [List.isPrefixOf, Ne.symm other]
  simp only [splitAtMark, splitBefore, notHere, Bool.false_eq_true, if_false]

/-- Nothing follows when the mark was not found. -/
theorem splitAtMark_rest {mark cs : List Char} (missing : (splitAtMark mark cs).2.1 = false) :
    (splitAtMark mark cs).2.2 = [] := by
  have nothing : (splitBefore (mark.isPrefixOf ·) cs).2 = [] := by
    simpa [splitAtMark] using missing
  simp only [splitAtMark, nothing, List.drop_nil]

end DocIndex.Text
