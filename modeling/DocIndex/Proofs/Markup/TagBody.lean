import Mathlib.Data.List.Induction
import DocIndex.Proofs.Text.Run
import DocIndex.Markup.Piece

/-!
# The body of a start tag, character by character

Attributes are read from runs of characters. Here they are read one character at a time: a `Scan`
tells what is being read and what has been read of it, and goes on with the next character
(`Scan.step`). Both ways give the same attributes, wherever the body is cut (`attributes_append`).
-/

namespace DocIndex.Markup

/-- What is being read in the body of a start tag, and as much of an attribute as has been read. -/
inductive Scan where
  /-- Between attributes. -/
  | between
  | name (name : List Char)
  /-- In the blanks behind a name, where an equals sign may still follow. -/
  | behindName (name : List Char)
  /-- Behind an equals sign, where the value has not begun. -/
  | behindEquals (name : List Char)
  | bare (name value : List Char)
  | quoted (name : List Char) (quote : Char) (value : List Char)
deriving DecidableEq, Repr

def IsQuote (c : Char) : Prop :=
  c = '"' ∨ c = '\''

instance (c : Char) : Decidable (IsQuote c) :=
  inferInstanceAs (Decidable (_ ∨ _))

def Attribute.ofWritten (name value : List Char) : Attribute :=
  ⟨lower name, String.ofList (decode value)⟩

namespace Scan

def start (c : Char) : Scan :=
  if Text.isTagBlank c || c == '/' || c == '=' then between else name [c]

def step : Scan → Char → Scan
  | between, c => start c
  | name n, c =>
    if Text.isTagBlank c then behindName n
    else if c = '=' then behindEquals n
    else if c = '/' then between
    else name (n ++ [c])
  | behindName n, c =>
    if Text.isTagBlank c then behindName n
    else if c = '=' then behindEquals n
    else start c
  | behindEquals n, c =>
    if Text.isTagBlank c then behindEquals n
    else if IsQuote c then quoted n c []
    else bare n [c]
  | bare n v, c => if Text.isTagBlank c then between else bare n (v ++ [c])
  | quoted n q v, c => if c = q then between else quoted n q (v ++ [c])

def completed? : Scan → Char → Option Attribute
  | name n, c => if c = '/' then some (.ofWritten n []) else none
  | behindName n, c => if Text.isTagBlank c || c == '=' then none else some (.ofWritten n [])
  | bare n v, c => if Text.isTagBlank c then some (.ofWritten n v) else none
  | quoted n q v, c => if c = q then some (.ofWritten n v) else none
  | _, _ => none

/-- What is being read behind this part of a body, as the attributes tell (`attributes_append`). -/
def after (cs : List Char) : Scan :=
  cs.foldl step between

@[simp] theorem after_concat (cs : List Char) (c : Char) :
    after (cs ++ [c]) = (after cs).step c := by
  rw [after, List.foldl_append]
  rfl

def quote? : Scan → Option Char
  | quoted _ quote _ => some quote
  | _ => none

/-- The attributes that are complete behind this part of a body. -/
def completed : Scan → List Char → List Attribute
  | _, [] => []
  | scan, c :: cs => (scan.completed? c).toList ++ (scan.step c).completed cs

/-- The attributes that are read from here on, the one that is being read among them. -/
def resume : Scan → List Char → List Attribute
  | between, cs => attributes cs
  | name n, cs =>
    let assignment := attributeAssignment (cs.dropWhile (!endsAttributeName ·))
    .ofWritten (n ++ cs.takeWhile (!endsAttributeName ·)) assignment.1 :: attributes assignment.2
  | behindName n, cs =>
    let assignment := attributeAssignment cs
    .ofWritten n assignment.1 :: attributes assignment.2
  | behindEquals n, cs =>
    let value := attributeValue (cs.dropWhile Text.isTagBlank)
    .ofWritten n value.1 :: attributes value.2
  | bare n v, cs =>
    .ofWritten n (v ++ cs.takeWhile (!Text.isTagBlank ·)) ::
      attributes (cs.dropWhile (!Text.isTagBlank ·))
  | quoted n q v, cs =>
    .ofWritten n (v ++ cs.takeWhile (· != q)) :: attributes ((cs.dropWhile (· != q)).drop 1)

/-! ### Quotes -/

theorem quote?_start (c : Char) : (start c).quote? = none := by
  unfold start
  split <;> rfl

theorem quote?_step_cases {scan : Scan} {c quote : Char}
    (opened : (scan.step c).quote? = some quote) : scan.quote? = some quote ∨ IsQuote quote := by
  cases scan with
  | between => simp [step, quote?_start] at opened
  | name n | bare n v => grind [step, quote?]
  | behindName n => grind [step, quote?, quote?_start]
  | behindEquals n => grind [step, quote?]
  | quoted n q v => grind [step, quote?]

theorem isQuote_of_quote?_after {cs : List Char} {quote : Char}
    (opened : (after cs).quote? = some quote) : IsQuote quote := by
  induction cs using List.reverseRecOn with
  | nil => contradiction
  | append_singleton front c ih =>
    rw [after_concat] at opened
    exact (quote?_step_cases opened).elim ih id

end Scan

/-! ### One character -/

theorem attributes_of_dropWhile_eq_nil {cs : List Char}
    (dropped : cs.dropWhile (fun c => Text.isTagBlank c || c == '/') = []) : attributes cs = [] := by
  rw [attributes]
  split
  next => rfl
  next some =>
    rw [dropped] at some
    contradiction

theorem attributes_of_dropWhile_eq_cons {cs rest : List Char} {c : Char}
    (dropped : cs.dropWhile (fun c => Text.isTagBlank c || c == '/') = c :: rest) :
    attributes cs = if c = '=' then attributes rest else (Scan.name [c]).resume rest := by
  rw [attributes]
  split
  next none =>
    rw [dropped] at none
    contradiction
  next some =>
    rw [dropped] at some
    cases some
    rfl

/-- Blanks and slashes between attributes count for nothing. -/
theorem attributes_cons_of_separates {c : Char} (separates : (Text.isTagBlank c || c == '/') = true)
    (cs : List Char) : attributes (c :: cs) = attributes cs := by
  have same : (c :: cs).dropWhile (fun c => Text.isTagBlank c || c == '/') =
      cs.dropWhile (fun c => Text.isTagBlank c || c == '/') :=
    List.dropWhile_cons_of_pos separates
  cases dropped : cs.dropWhile (fun c => Text.isTagBlank c || c == '/') with
  | nil =>
    rw [attributes_of_dropWhile_eq_nil dropped,
      attributes_of_dropWhile_eq_nil (same.trans dropped)]
  | cons d rest =>
    rw [attributes_of_dropWhile_eq_cons dropped,
      attributes_of_dropWhile_eq_cons (same.trans dropped)]

theorem attributes_cons (c : Char) (cs : List Char) :
    attributes (c :: cs) = (Scan.start c).resume cs := by
  cases separates : Text.isTagBlank c || c == '/' with
  | true =>
    rw [attributes_cons_of_separates separates, Scan.start, separates, Bool.true_or, if_pos rfl]
    rfl
  | false =>
    rw [attributes_of_dropWhile_eq_cons (List.dropWhile_cons_of_neg (by simp [separates])),
      Scan.start, separates, Bool.false_or]
    split <;> simp_all [Scan.resume]

theorem attributeAssignment_cons {c : Char} (notBlank : Text.isTagBlank c = false)
    (notEquals : c ≠ '=') (cs : List Char) : attributeAssignment (c :: cs) = ([], c :: cs) := by
  rw [attributeAssignment, List.dropWhile_cons_of_neg (by simp [notBlank])]
  split
  next rest same => exact absurd (List.cons.inj same).1 notEquals
  next => rfl

namespace Scan

theorem resume_behindName_blank {c : Char} (blank : Text.isTagBlank c = true) (n cs : List Char) :
    (behindName n).resume (c :: cs) = (behindName n).resume cs := by
  have dropped : (c :: cs).dropWhile Text.isTagBlank = cs.dropWhile Text.isTagBlank :=
    List.dropWhile_cons_of_pos blank
  simp only [resume, attributeAssignment, dropped]
  split
  · rfl
  · rw [attributes_cons_of_separates (by simp [blank])]

theorem resume_name_cons_of_endsAttributeName {c : Char} (ends : endsAttributeName c = true)
    (n cs : List Char) : (name n).resume (c :: cs) = (behindName n).resume (c :: cs) := by
  have none : (c :: cs).takeWhile (!endsAttributeName ·) = [] := by simp [ends]
  have all : (c :: cs).dropWhile (!endsAttributeName ·) = c :: cs := by simp [ends]
  simp only [resume, none, all, List.append_nil]

theorem resume_behindName_cons (n : List Char) (c : Char) (cs : List Char) :
    (behindName n).resume (c :: cs) =
      ((behindName n).completed? c).toList ++ ((behindName n).step c).resume cs := by
  by_cases blank : Text.isTagBlank c
  · simp only [resume_behindName_blank blank, completed?, step, blank, Bool.true_or, if_true,
      Option.toList_none, List.nil_append]
  have notBlank : Text.isTagBlank c = false := Bool.eq_false_iff.mpr blank
  by_cases equals : c = '='
  · subst equals
    rfl
  · simp only [resume, attributeAssignment_cons notBlank equals, attributes_cons, completed?, step,
      notBlank, equals, Bool.false_or, beq_iff_eq, Bool.false_eq_true, if_false,
      Option.toList_some, List.singleton_append]

theorem resume_name_cons (n : List Char) (c : Char) (cs : List Char) :
    (name n).resume (c :: cs) =
      ((name n).completed? c).toList ++ ((name n).step c).resume cs := by
  by_cases ends : endsAttributeName c
  · rw [resume_name_cons_of_endsAttributeName ends, resume_behindName_cons]
    simp only [endsAttributeName, Bool.or_eq_true, beq_iff_eq] at ends
    rcases ends with (blank | rfl) | rfl
    · have notSlash : c ≠ '/' := by
        rintro rfl
        contradiction
      simp [completed?, step, blank, notSlash]
    · rfl
    · rfl
  · have same : (name n).step c = name (n ++ [c]) ∧ (name n).completed? c = none := by
      simp only [endsAttributeName, Bool.or_eq_true, beq_iff_eq, not_or] at ends
      simp [step, completed?, ends]
    simp [same, resume, ends]

theorem resume_behindEquals_cons (n : List Char) (c : Char) (cs : List Char) :
    (behindEquals n).resume (c :: cs) = ((behindEquals n).step c).resume cs := by
  by_cases blank : Text.isTagBlank c
  · simp [resume, step, blank]
  · by_cases quote : IsQuote c
    · have open_ : c = '"' ∨ c = '\'' := quote
      simp [resume, step, blank, quote, attributeValue, open_]
    · have bare : ¬(c = '"' ∨ c = '\'') := quote
      simp [resume, step, blank, quote, attributeValue, bare]

/-- What is read on is what a character completes, and what is read on behind it. -/
theorem resume_cons (scan : Scan) (c : Char) (cs : List Char) :
    scan.resume (c :: cs) = (scan.completed? c).toList ++ (scan.step c).resume cs := by
  cases scan with
  | between => exact attributes_cons c cs
  | name n => exact resume_name_cons n c cs
  | behindName n => exact resume_behindName_cons n c cs
  | behindEquals n => exact resume_behindEquals_cons n c cs
  | bare n v =>
    by_cases blank : Text.isTagBlank c
    · simp [resume, completed?, step, blank, attributes_cons_of_separates]
    · simp [resume, completed?, step, blank]
  | quoted n q v =>
    by_cases closes : c = q
    · simp [resume, completed?, step, closes]
    · simp [resume, completed?, step, closes]

/-! ### Cutting a body -/

theorem resume_append (scan : Scan) (front back : List Char) :
    scan.resume (front ++ back) =
      scan.completed front ++ (front.foldl step scan).resume back := by
  induction front generalizing scan with
  | nil => rfl
  | cons c front ih =>
    rw [List.cons_append, resume_cons, ih, completed, List.foldl_cons, List.append_assoc]

end Scan

/-- The attributes of a body are those that are complete in its front, and those that are read on
from there. -/
theorem attributes_append (front back : List Char) :
    attributes (front ++ back) = Scan.between.completed front ++ (Scan.after front).resume back :=
  Scan.between.resume_append front back

end DocIndex.Markup
