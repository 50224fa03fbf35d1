import DocIndex.Proofs.Text.Run
import DocIndex.Text.Lines

/-!
# Lines one after the other

The lines of a text that was put together from lines are these lines, also with a carriage return in
front of each line feed, and a text behind it has its lines for itself (`lines_append`). Where only
the beginning of the text is left, they are the lines before the cut and what is left of the line
with the cut in it.
-/

namespace DocIndex.Text

/-- A line can be told from what follows its end, and has no carriage return at its own end. -/
def IsLine (line : List Char) : Prop :=
  '\n' ∉ line ∧ line.getLast? ≠ some '\r'

theorem chomp_eq_self {line : List Char} (isLine : IsLine line) : chomp line = line :=
  if_neg isLine.2

theorem lines_append_newline {line : List Char} (noFeed : '\n' ∉ line) (rest : List Char) :
    lines (line ++ '\n' :: rest) = chomp line :: lines rest := by
  have members := forall_bne noFeed
  have ends : Ends (· != '\n') ('\n' :: rest) := by simp
  have taken := takeWhile_append_of_ends members ends
  have dropped := dropWhile_append_of_ends members ends
  cases whole : line ++ '\n' :: rest with
  | nil => simp at whole
  | cons c others =>
    rw [whole] at taken dropped
    rw [lines, taken]
    split
    next none => simp [none] at dropped
    next after found => simp_all

theorem lines_of_not_mem {line : List Char} (noFeed : '\n' ∉ line) (notEmpty : line ≠ []) :
    lines line = [line] := by
  obtain ⟨c, cs, rfl⟩ := List.exists_cons_of_ne_nil notEmpty
  have taken := takeWhile_append_of_ends (forall_bne noFeed) (ends_nil _)
  have dropped := dropWhile_append_of_ends (forall_bne noFeed) (ends_nil _)
  rw [List.append_nil] at taken dropped
  rw [lines, taken]
  split
  next => rfl
  next found => simp [dropped] at found

theorem lines_flatMap {ls : List (List Char)} (areLines : ∀ line ∈ ls, IsLine line) :
    lines (ls.flatMap (· ++ ['\n'])) = ls := by
  induction ls with
  | nil => simp [lines]
  | cons line ls ih =>
    have isLine := areLines line (by simp)
    have others := ih fun l mem => areLines l (by simp [mem])
    rw [List.flatMap_cons, List.append_assoc, List.singleton_append,
      lines_append_newline isLine.1, chomp_eq_self isLine, others]

/-! ### Texts of whole lines -/

/-- A text ends with a line, or is empty: what follows it begins a line. -/
def EndsLine (cs : List Char) : Prop :=
  ∀ c ∈ cs.getLast?, c = '\n'

instance (cs : List Char) : Decidable (EndsLine cs) :=
  decidable_of_iff (cs.getLast?.all (· = '\n') = true) (by simp [EndsLine, Option.all_eq_true])

/-- A text is a line without an end, or has a first line and a rest. -/
theorem induction_on_lines {P : List Char → Prop} (last : ∀ line, '\n' ∉ line → P line)
    (ended : ∀ line rest, '\n' ∉ line → P rest → P (line ++ '\n' :: rest)) (cs : List Char) :
    P cs := by
  have noFeed {run : List Char} (others : ∀ c ∈ run, (c == '\n') = false) : '\n' ∉ run :=
    fun mem => absurd (others _ mem) (by decide)
  induction cs using induction_on_runs (· == '\n') with
  | last run others => exact last run (noFeed others)
  | divided run c rest others stop ih =>
    rw [eq_of_beq stop]
    exact ended run rest (noFeed others) ih

theorem lines_append {front : List Char} (ends : EndsLine front) (back : List Char) :
    lines (front ++ back) = lines front ++ lines back := by
  induction front using induction_on_lines with
  | last line noFeed =>
    have empty : line = [] := by
      cases final : line.getLast? with
      | none => exact List.getLast?_eq_none_iff.mp final
      | some c => exact absurd (ends c final ▸ List.mem_of_getLast? final) noFeed
    rw [empty, List.nil_append, lines, List.nil_append]
  | ended line rest noFeed ih =>
    have restEnds : EndsLine rest := by
      cases rest with
      | nil => simp [EndsLine]
      | cons c rest => simpa [EndsLine, List.getLast?_append, List.getLast?_cons_cons] using ends
    rw [List.append_assoc, List.cons_append, lines_append_newline noFeed,
      lines_append_newline noFeed, ih restEnds, List.cons_append]

def withReturns (cs : List Char) : List Char :=
  cs.flatMap fun c => if c = '\n' then ['\r', '\n'] else [c]

theorem withReturns_of_not_mem {line : List Char} (noFeed : '\n' ∉ line) :
    withReturns line = line := by
  induction line with
  | nil => rfl
  | cons c line ih =>
    rw [List.mem_cons, not_or] at noFeed
    rw [withReturns, List.flatMap_cons, if_neg (Ne.symm noFeed.1), ← withReturns, ih noFeed.2,
      List.singleton_append]

/-- Carriage returns in front of the line feeds do not belong to the lines. -/
theorem lines_withReturns {cs : List Char} (noReturn : '\r' ∉ cs) :
    lines (withReturns cs) = lines cs := by
  induction cs using induction_on_lines with
  | last line noFeed => rw [withReturns_of_not_mem noFeed]
  | ended line rest noFeed ih =>
    rw [List.mem_append, List.mem_cons, not_or, not_or] at noReturn
    have returned : withReturns (line ++ '\n' :: rest) =
        line ++ ['\r'] ++ '\n' :: withReturns rest := by
      rw [withReturns, List.flatMap_append, List.flatMap_cons, if_pos rfl, ← withReturns,
        ← withReturns, withReturns_of_not_mem noFeed, List.append_assoc]
      rfl
    have stillNoFeed : '\n' ∉ line ++ ['\r'] := by simpa using noFeed
    have isLine : IsLine line := ⟨noFeed, fun final => noReturn.1 (List.mem_of_getLast? final)⟩
    have chomped : chomp (line ++ ['\r']) = line := by simp [chomp]
    rw [returned, lines_append_newline stillNoFeed, lines_append_newline noFeed, chomped,
      chomp_eq_self isLine, ih noReturn.2.2]

/-! ### Torn texts -/

/-- What is left of lines, each with its end, of which so many characters are kept. -/
def torn (cut : Nat) : List (List Char) → List (List Char)
  | [] => []
  | line :: ls => if cut = 0 then [] else line.take cut :: torn (cut - (line.length + 1)) ls

@[simp] theorem torn_zero (ls : List (List Char)) : torn 0 ls = [] := by
  cases ls <;> simp [torn]

theorem lines_take_flatMap {ls : List (List Char)} (areLines : ∀ line ∈ ls, IsLine line)
    (cut : Nat) : lines ((ls.flatMap (· ++ ['\n'])).take cut) = torn cut ls := by
  induction ls generalizing cut with
  | nil => simp [torn, lines]
  | cons line ls ih =>
    have isLine := areLines line (by simp)
    have others := ih (fun l mem => areLines l (by simp [mem])) (cut - (line.length + 1))
    rw [List.flatMap_cons, List.append_assoc, List.singleton_append, torn]
    split
    next nothing => simp [nothing, lines]
    next something =>
      rcases Nat.lt_or_ge line.length cut with whole | within
      · obtain ⟨more, rfl⟩ : ∃ more, cut = line.length + 1 + more := Nat.exists_eq_add_of_le whole
        rw [Nat.add_sub_cancel_left] at others
        rw [List.take_of_length_le (Nat.le_of_lt whole), Nat.add_sub_cancel_left, Nat.add_assoc,
          List.take_length_add_append, Nat.add_comm 1, List.take_succ_cons,
          lines_append_newline isLine.1, chomp_eq_self isLine, others]
      · have notEmpty : line.take cut ≠ [] := by
          rw [ne_eq, List.take_eq_nil_iff]
          rintro (none | rfl)
          · exact something none
          · exact something (Nat.le_zero.mp within)
        have noFeed : '\n' ∉ line.take cut := fun mem => isLine.1 (List.mem_of_mem_take mem)
        rw [List.take_append_of_le_length within, Nat.sub_eq_zero_of_le (Nat.le_succ_of_le within),
          torn_zero, lines_of_not_mem noFeed notEmpty]

end DocIndex.Text
