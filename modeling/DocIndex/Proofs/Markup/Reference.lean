import DocIndex.Markup.Reference
import DocIndex.Proofs.Text.Run

/-!
# Written references

A reference is decoded whatever follows its semicolon, as long as what stands within is short enough
and has no semicolon of its own. So the characters that have a sense in markup can be written as
references: then they do not stand by themselves in the text (`not_mem_escape`).
-/

namespace DocIndex.Markup

theorem length_le_byteSize (cs : List Char) : cs.length ≤ byteSize cs := by
  induction cs with
  | nil => exact Nat.le_refl _
  | cons c cs ih =>
    have first := c.utf8Size_pos
    simp only [List.length_cons, byteSize]
    omega

theorem reference?_append {body : List Char} (single : ';' ∉ body)
    (small : byteSize body ≤ maxReferenceSize) (rest : List Char) :
    reference? (body ++ ';' :: rest) = (referenced? body).map (·, rest) := by
  have short : body.length < maxReferenceSize + 1 :=
    Nat.lt_succ_of_le (Nat.le_trans (length_le_byteSize body) small)
  have whole : ((body ++ ';' :: rest).take (maxReferenceSize + 1)).takeWhile (· != ';') = body := by
    obtain ⟨room, eq⟩ := Nat.exists_eq_add_of_lt short
    rw [eq, Nat.add_assoc, List.take_length_add_append, List.take_succ_cons]
    exact Text.takeWhile_append_of_ends (Text.forall_bne single) (by simp)
  simp only [reference?, whole, List.drop_left, small, if_true]

/-- A reference is what stands before the first semicolon, if it is short enough and names a
character. -/
theorem reference?_eq_some_iff {cs rest : List Char} {c : Char} :
    reference? cs = some (c, rest) ↔ ∃ body, cs = body ++ ';' :: rest ∧ ';' ∉ body ∧
      byteSize body ≤ maxReferenceSize ∧ referenced? body = some c := by
  constructor
  · intro read
    unfold reference? at read
    extract_lets body at read
    have part : body <+: cs := (List.takeWhile_prefix _).trans (List.take_prefix _ _)
    split at read
    next after behind =>
      split at read
      next small =>
        obtain ⟨d, named, same⟩ := Option.map_eq_some_iff.mp read
        cases same
        refine ⟨body, ?_, ?_, small, named⟩
        · rw [← behind, List.prefix_iff_eq_append.mp part]
        · intro mem
          exact absurd (List.all_eq_true.mp List.all_takeWhile _ mem) (by decide)
      next => contradiction
    next => contradiction
  · rintro ⟨body, rfl, single, small, named⟩
    rw [reference?_append single small, named]
    rfl

/-- What has no semicolon ends no reference that was begun before it. -/
theorem reference?_append_of_not_mem {plain : List Char} (noEnd : ';' ∉ plain) (cs : List Char) :
    reference? (cs ++ plain) = (reference? cs).map fun found => (found.1, found.2 ++ plain) := by
  ext ⟨c, rest⟩
  simp only [Option.map_eq_some_iff, Prod.exists, Prod.mk.injEq, reference?_eq_some_iff]
  constructor
  · rintro ⟨body, split, single, small, named⟩
    rcases List.append_eq_append_iff.mp split with ⟨more, -, rfl⟩ | ⟨more, rfl, left⟩
    · simp at noEnd
    · cases more with
      | nil =>
        rw [List.nil_append] at left
        simp [← left] at noEnd
      | cons d more =>
        obtain ⟨rfl, rfl⟩ := List.cons.inj left
        exact ⟨c, more, ⟨body, rfl, single, small, named⟩, rfl, rfl⟩
  · rintro ⟨d, more, ⟨body, rfl, single, small, named⟩, rfl, rfl⟩
    exact ⟨body, by simp, single, small, named⟩

@[simp] theorem decode_nil : decode [] = [] := by
  rw [decode]

theorem decode_cons_of_ne {c : Char} (plain : c ≠ '&') (cs : List Char) :
    decode (c :: cs) = c :: decode cs := by
  rw [decode, if_neg plain]

theorem decode_of_reference?_eq_some {cs rest : List Char} {c : Char}
    (read : reference? cs = some (c, rest)) : decode ('&' :: cs) = c :: decode rest := by
  rw [decode, if_pos rfl]
  split
  next d after found =>
    rw [read] at found
    cases found
    rfl
  next missing =>
    rw [read] at missing
    contradiction

theorem decode_of_reference?_eq_none {cs : List Char} (missing : reference? cs = none) :
    decode ('&' :: cs) = '&' :: decode cs := by
  rw [decode, if_pos rfl]
  split
  next d after found =>
    rw [missing] at found
    contradiction
  next => rfl

theorem decode_reference {body : List Char} {c : Char} (named : referenced? body = some c)
    (single : ';' ∉ body) (small : byteSize body ≤ maxReferenceSize) (rest : List Char) :
    decode ('&' :: (body ++ ';' :: rest)) = c :: decode rest :=
  decode_of_reference?_eq_some (reference?_eq_some_iff.mpr ⟨body, rfl, single, small, named⟩)

theorem decode_of_not_mem {cs : List Char} (plain : '&' ∉ cs) : decode cs = cs := by
  induction cs with
  | nil => exact decode_nil
  | cons c cs ih =>
    rw [List.mem_cons, not_or] at plain
    rw [decode_cons_of_ne (Ne.symm plain.1), ih plain.2]

theorem decode_append_of_not_mem {plain : List Char} (noBegin : '&' ∉ plain) (noEnd : ';' ∉ plain)
    (cs : List Char) : decode (cs ++ plain) = decode cs ++ plain := by
  fun_induction decode cs with
  | case1 => exact decode_of_not_mem noBegin
  | case2 cs c rest read ih =>
    have further := reference?_append_of_not_mem noEnd cs
    rw [read, Option.map_some] at further
    rw [List.cons_append, decode_of_reference?_eq_some further, ih, List.cons_append]
  | case3 cs missing ih =>
    have further := reference?_append_of_not_mem noEnd cs
    rw [missing, Option.map_none] at further
    rw [List.cons_append, decode_of_reference?_eq_none further, ih, List.cons_append]
  | case4 c cs other ih =>
    rw [List.cons_append, decode_cons_of_ne other, ih, List.cons_append]

def reference : Char → List Char
  | '&' => ['&', 'a', 'm', 'p', ';']
  | '<' => ['&', 'l', 't', ';']
  | '"' => ['&', 'q', 'u', 'o', 't', ';']
  | c => [c]

def escape (marks cs : List Char) : List Char :=
  cs.flatMap fun c => if c ∈ marks then reference c else [c]

theorem escape_cons (marks : List Char) (c : Char) (cs : List Char) :
    escape marks (c :: cs) = (if c ∈ marks then reference c else [c]) ++ escape marks cs :=
  List.flatMap_cons

theorem reference_ne_nil (c : Char) : reference c ≠ [] := by
  unfold reference
  split <;> exact List.cons_ne_nil _ _

theorem escape_ne_nil {marks cs : List Char} (some : cs ≠ []) : escape marks cs ≠ [] := by
  cases cs with
  | nil => contradiction
  | cons c cs =>
    rw [escape_cons]
    apply List.append_ne_nil_of_left_ne_nil
    split
    · exact reference_ne_nil c
    · exact List.cons_ne_nil c []

theorem not_mem_reference {mark : Char} (sign : mark = '<' ∨ mark = '"') (c : Char) :
    mark ∉ reference c := by
  unfold reference
  split
  next => rcases sign with rfl | rfl <;> decide
  next => rcases sign with rfl | rfl <;> decide
  next => rcases sign with rfl | rfl <;> decide
  next notLess notQuote =>
    intro mem
    rw [← List.mem_singleton.mp mem] at notLess notQuote
    exact sign.elim notLess notQuote

theorem not_mem_escape {mark : Char} {marks : List Char} (sign : mark = '<' ∨ mark = '"')
    (escaped : mark ∈ marks) (cs : List Char) : mark ∉ escape marks cs := by
  intro mem
  obtain ⟨c, -, mem⟩ := List.mem_flatMap.mp mem
  by_cases isMark : c ∈ marks
  · rw [if_pos isMark] at mem
    exact not_mem_reference sign c mem
  · rw [if_neg isMark, List.mem_singleton] at mem
    exact isMark (mem ▸ escaped)

end DocIndex.Markup
