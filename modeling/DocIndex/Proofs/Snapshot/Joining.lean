import DocIndex.Proofs.Text.Line
import DocIndex.Store
import Mathlib.Control.Monad.Basic

/-!
# Snapshots one after the other

A snapshot is read line by line, and nothing is kept from one line to the next but the number of the
line. So a text of whole lines and a text behind it are read each for itself (`read_append`), blank
lines and comments count for nothing, and it does not matter which of the two line ends is used.
-/

namespace DocIndex

theorem mapError_map {ε ε' α β : Type} (f : ε → ε') (g : α → β) (result : Except ε α) :
    (result.map g).mapError f = (result.mapError f).map g := by
  cases result <;> rfl

namespace Snapshot

/-- The same line further down, behind so many lines. -/
def BadLine.down (lines : Nat) (bad : BadLine) : BadLine :=
  { bad with line := bad.line + lines }

theorem mapError_cause_down {α : Type} (lines : Nat) (result : Except BadLine α) :
    (result.mapError (BadLine.down lines)).mapError BadLine.cause =
      result.mapError BadLine.cause := by
  cases result <;> rfl

theorem readLines_add (number further : Nat) (ls : List (List Char)) :
    readLines (number + further) ls = (readLines number ls).mapError (BadLine.down further) := by
  induction ls generalizing number with
  | nil => rfl
  | cons line ls ih =>
    have next := ih (number + 1)
    rw [Nat.add_right_comm] at next
    rw [readLines, readLines, next]
    split
    · rfl
    cases readRecord line with
    | error cause => rfl
    | ok record => cases readLines (number + 1) ls <;> rfl

theorem readLines_append (number : Nat) (front back : List (List Char)) :
    readLines number (front ++ back) =
      (readLines number front).bind fun found =>
        (readLines (number + front.length) back).map (found ++ ·) := by
  induction front generalizing number with
  | nil => cases back : readLines number back <;> simp [readLines, Except.bind, Except.map, back]
  | cons line front ih =>
    have next := ih (number + 1)
    rw [Nat.add_assoc, Nat.add_comm 1, ← List.length_cons (a := line)] at next
    rw [List.cons_append, readLines, readLines, next]
    split
    · rfl
    cases readRecord line with
    | error cause => rfl
    | ok record =>
      cases readLines (number + 1) front with
      | error bad => rfl
      | ok found => cases readLines (number + (line :: front).length) back <;> rfl

/-- What stands behind whole lines is read as if it stood alone, but for the numbers of its lines. -/
theorem read_append {front : List Char} (ends : Text.EndsLine front) (back : List Char) :
    read (front ++ back) =
      (read front).bind fun found =>
        ((read back).mapError (BadLine.down (Text.lines front).length)).map (found ++ ·) := by
  rw [read, read, read, Text.lines_append ends, readLines_append, readLines_add]

theorem readLines_of_isIgnorable {ls : List (List Char)}
    (ignorable : ∀ line ∈ ls, isIgnorable line = true) (number : Nat) :
    readLines number ls = .ok [] := by
  induction ls generalizing number with
  | nil => rfl
  | cons line ls ih =>
    obtain ⟨here, others⟩ := List.forall_mem_cons.mp ignorable
    rw [readLines, if_pos here, ih others]

/-- The second text is the first one with further lines between its lines, each blank or a
comment. -/
inductive Padded : List Char → List Char → Prop where
  | same (text : List Char) : Padded text text
  | keep {front rest padded : List Char} :
      Text.EndsLine front → Padded rest padded → Padded (front ++ rest) (front ++ padded)
  | add {further rest padded : List Char} :
      Text.EndsLine further → (∀ line ∈ Text.lines further, isIgnorable line = true) →
        Padded rest padded → Padded rest (further ++ padded)

/-- Blank lines and comments change neither what is found nor what is wrong. -/
theorem Padded.read_eq {text padded : List Char} (isPadded : Padded text padded) :
    (read padded).mapError BadLine.cause = (read text).mapError BadLine.cause := by
  induction isPadded with
  | same => rfl
  | @keep front rest padded ends _ ih =>
    rw [read_append ends, read_append ends]
    cases read front with
    | error bad => rfl
    | ok found =>
      simp only [Except.bind, mapError_map, mapError_cause_down, ih]
  | @add further rest padded ends ignorable _ ih =>
    have nothing : read further = .ok [] := readLines_of_isIgnorable ignorable 1
    rw [read_append ends, nothing, ← ih]
    simp only [Except.bind, mapError_map, mapError_cause_down]
    cases (read padded).mapError BadLine.cause <;> rfl

end Snapshot

namespace Store

/-- A text of whole lines and a text behind it are read as the records of the one and then those of
the other. If the first is bad, the whole is bad in the same way; if only the second is bad, its bad
line is further down by the lines of the first. Blank lines and comments between the lines change
nothing but the number of a bad line, and carriage returns in front of the line feeds nothing at
all. -/
theorem ofSnapshot_append :
    (∀ front back : String, Text.EndsLine front.toList →
      (∀ bad, ofSnapshot front = .error bad → ofSnapshot (front ++ back) = .error bad) ∧
      ∀ found, ofSnapshot front = .ok found →
        (∀ more, ofSnapshot back = .ok more →
          ofSnapshot (front ++ back) = .ok (found.append more.records)) ∧
        ∀ bad, ofSnapshot back = .error bad →
          ofSnapshot (front ++ back) =
            .error ⟨bad.line + (Text.lineTexts front).length, bad.cause⟩) ∧
    (∀ text padded : String, Snapshot.Padded text.toList padded.toList →
      (ofSnapshot padded).mapError Snapshot.BadLine.cause =
        (ofSnapshot text).mapError Snapshot.BadLine.cause) ∧
    ∀ text : String, '\r' ∉ text.toList →
      ofSnapshot (String.ofList (Text.withReturns text.toList)) = ofSnapshot text := by
  refine ⟨?_, ?_, ?_⟩
  · intro front back ends
    simp only [ofSnapshot, String.toList_append, Snapshot.read_append ends, Text.lineTexts,
      List.length_map]
    cases Snapshot.read front.toList with
    | error bad => exact ⟨fun _ same => same, nofun⟩
    | ok found =>
      refine ⟨nofun, ?_⟩
      rintro _ ⟨⟩
      cases Snapshot.read back.toList with
      | error bad =>
        refine ⟨nofun, ?_⟩
        rintro _ ⟨⟩
        rfl
      | ok more =>
        refine ⟨?_, nofun⟩
        rintro _ ⟨⟩
        rfl
  · intro text padded isPadded
    rw [ofSnapshot, ofSnapshot, mapError_map, mapError_map, isPadded.read_eq]
  · intro text noReturn
    rw [ofSnapshot, ofSnapshot, Snapshot.read, Snapshot.read, String.toList_ofList,
      Text.lines_withReturns noReturn]

/-- A text with a bad line, in front of a good one and behind it, with further lines between the two
and with carriage returns. -/
theorem ofSnapshot_append_badLine :
    let good := "% a\nrecord(a/1, \"x\", 'f', manual, 1).\n"
    let bad := "\nrecord(X, \"y\", 'f', manual, 2).\n"
    let found : Store := ⟨[⟨.callable "a" 1, "x", ⟨"f"⟩, .manual, 1⟩]⟩
    ofSnapshot (good ++ good) = .ok (found.append found.records) ∧
      ofSnapshot (good ++ bad) = .error ⟨4, .unbound "X"⟩ ∧
      ofSnapshot (bad ++ good) = .error ⟨2, .unbound "X"⟩ ∧
      (ofSnapshot (good ++ ("\t\r\n%\n" ++ good))).mapError Snapshot.BadLine.cause =
        (ofSnapshot (good ++ good)).mapError Snapshot.BadLine.cause ∧
      ofSnapshot (String.ofList (Text.withReturns good.toList)) = ofSnapshot good := by
  intro good bad found
  have readGood : ofSnapshot good = .ok found := by decide +kernel
  have readBad : ofSnapshot bad = .error ⟨2, .unbound "X"⟩ := by decide +kernel
  have whole : Text.EndsLine good.toList := by decide +kernel
  have behindGood (back : String) := (ofSnapshot_append.1 good back whole).2 found readGood
  have readBehind := (behindGood bad).2 _ readBad
  rw [show (Text.lineTexts good).length = 2 by decide +kernel] at readBehind
  have padded : Snapshot.Padded (good ++ good).toList (good ++ ("\t\r\n%\n" ++ good)).toList := by
    simp only [String.toList_append]
    exact .keep whole (.add (by decide +kernel) (by decide +kernel) (.same _))
  exact ⟨(behindGood good).1 found readGood, readBehind,
    (ofSnapshot_append.1 bad good (by decide +kernel)).1 _ readBad, ofSnapshot_append.2.1 _ _ padded,
    ofSnapshot_append.2.2 good (by decide +kernel)⟩

end Store

end DocIndex
