import DocIndex.Proofs.Markup.Reference
import DocIndex.Proofs.Markup.Splitting
import DocIndex.Proofs.Markup.TagBody

/-!
# The slash at the end of a start tag

A start tag has no content if its body ends in a slash, whatever the slash belongs to. Between
attributes, and right behind a name, the slash is no part of an attribute. In a value it is, so that
there it is read twice: into the value and as the end of the element. Which of the two it is shows
in what is being read where the slash stands (`Scan.resume_slash_iff`).
-/

namespace DocIndex.Markup

/-! ### The last slash -/

theorem isSelfClosing_iff {body : List Char} :
    isSelfClosing body = true ↔
      ∃ front trail, body = front ++ '/' :: trail ∧ ∀ c ∈ trail, Text.isBlank c = true := by
  have last : isSelfClosing body = true ↔
      (body.reverse.dropWhile Text.isBlank).head? = some '/' := by
    rw [isSelfClosing, Text.trimEnd, List.getLast?_reverse, beq_iff_eq]
  rw [last]
  constructor
  · intro first
    obtain ⟨rest, left⟩ := List.head?_eq_some_iff.mp first
    have whole := List.takeWhile_append_dropWhile (p := Text.isBlank) (l := body.reverse)
    refine ⟨rest.reverse, (body.reverse.takeWhile Text.isBlank).reverse, ?_, ?_⟩
    · rw [left] at whole
      simpa using (congrArg List.reverse whole).symm
    · intro c mem
      exact List.all_eq_true.mp List.all_takeWhile _ (List.mem_reverse.mp mem)
  · rintro ⟨front, trail, rfl, blank⟩
    have dropped : (trail.reverse ++ '/' :: front.reverse).dropWhile Text.isBlank =
        '/' :: front.reverse :=
      Text.dropWhile_append_of_ends (by simpa using blank) (by simp; rfl)
    simp [dropped]

theorem not_mem_of_blank {cs : List Char} (blank : ∀ c ∈ cs, Text.isBlank c = true) {mark : Char}
    (isMark : Text.isBlank mark = false) : mark ∉ cs := by
  intro mem
  rw [blank mark mem] at isMark
  contradiction

/-! ### What the slash belongs to -/

theorem Attribute.ofWritten_inj {name other value written : List Char} :
    Attribute.ofWritten name value = .ofWritten other written ↔
      lower name = lower other ∧ decode value = decode written := by
  simp [Attribute.ofWritten, String.ofList_inj]

theorem length_eq_of_lower_eq {name other : List Char} (same : lower name = lower other) :
    name.length = other.length := by
  simpa using congrArg List.length (String.ofList_injective same)

theorem attributeAssignment_of_not_mem {cs : List Char} (noEquals : '=' ∉ cs) :
    attributeAssignment cs = ([], cs) := by
  unfold attributeAssignment
  split
  next rest dropped =>
    have mem : '=' ∈ cs.dropWhile Text.isTagBlank := by simp [dropped]
    exact absurd (List.dropWhile_subset _ mem) noEquals
  next => rfl

theorem mem_of_mem_attributeValue {cs : List Char} {c : Char} (mem : c ∈ (attributeValue cs).1) :
    c ∈ cs := by
  cases cs with
  | nil => exact mem
  | cons d cs =>
    simp only [attributeValue] at mem
    split at mem
    · exact List.mem_cons_of_mem d (List.takeWhile_subset _ mem)
    · exact List.takeWhile_subset (!Text.isTagBlank ·) mem

namespace Scan

/-- A slash here is no part of an attribute, with these blanks behind it up to the end of the tag.
Blanks that do not separate attributes would go on with a name. -/
def StandsAlone : Scan → List Char → Prop
  | between, _ => True
  | name _, trail => Text.Ends (!Text.isTagBlank ·) trail
  | behindName _, _ => True
  | _, _ => False

section
variable {trail : List Char} (blank : ∀ c ∈ trail, Text.isBlank c = true)
include blank

theorem ofWritten_slash_ne (n v : List Char) :
    Attribute.ofWritten n (v ++ trail) ≠ .ofWritten n (v ++ '/' :: trail) := by
  have noMark {mark : Char} (isMark : Text.isBlank mark = false) : mark ∉ trail :=
    not_mem_of_blank blank isMark
  intro same
  have noMarkBehind {mark : Char} (isMark : Text.isBlank mark = false) (other : mark ≠ '/') :
      mark ∉ '/' :: trail := List.not_mem_cons_of_ne_of_not_mem other (noMark isMark)
  have decoded := (Attribute.ofWritten_inj.mp same).2
  rw [decode_append_of_not_mem (noMark rfl) (noMark rfl),
    decode_append_of_not_mem (noMarkBehind rfl (by decide)) (noMarkBehind rfl (by decide))]
    at decoded
  have lengths := congrArg List.length (List.append_cancel_left decoded)
  simp at lengths

theorem resume_behindName (n : List Char) :
    (behindName n).resume trail = .ofWritten n [] :: attributes trail := by
  rw [resume, attributeAssignment_of_not_mem (not_mem_of_blank blank rfl)]

theorem resume_name_slash_iff (n : List Char) :
    (name n).resume trail = (name n).resume ('/' :: trail) ↔ (name n).StandsAlone trail := by
  have slash : (name n).resume ('/' :: trail) = .ofWritten n [] :: attributes trail :=
    resume_name_cons n '/' trail
  rw [slash]
  cases trail with
  | nil => exact iff_of_true (by simp [resume, attributeAssignment_of_not_mem]) (Text.ends_nil _)
  | cons c cs =>
    by_cases separates : Text.isTagBlank c
    · refine iff_of_true ?_ ((Text.ends_cons ..).mpr (by simp [separates]))
      rw [resume_name_cons_of_endsAttributeName (by simp [endsAttributeName, separates]),
        resume_behindName blank]
    · refine iff_of_false ?_ (by simp [StandsAlone, separates])
      have inName : (name n).step c = name (n ++ [c]) ∧ (name n).completed? c = none := by
        have notEquals : c ≠ '=' :=
          (List.ne_of_not_mem_cons (not_mem_of_blank blank (by rfl))).symm
        have notSlash : c ≠ '/' :=
          (List.ne_of_not_mem_cons (not_mem_of_blank blank (by rfl))).symm
        simp [step, completed?, separates, notEquals, notSlash]
      intro same
      rw [resume_name_cons, inName.1, inName.2, resume] at same
      have lengths := length_eq_of_lower_eq (Attribute.ofWritten_inj.mp (List.cons.inj same).1).1
      simp at lengths

theorem resume_behindEquals_slash_ne (n : List Char) :
    (behindEquals n).resume trail ≠ (behindEquals n).resume ('/' :: trail) := by
  have noMark {mark : Char} (isMark : Text.isBlank mark = false) : mark ∉ trail :=
    not_mem_of_blank blank isMark
  have slash : (behindEquals n).resume ('/' :: trail) = (bare n ['/']).resume trail :=
    resume_behindEquals_cons n '/' trail
  have within {c : Char} (mem : c ∈ (attributeValue (trail.dropWhile Text.isTagBlank)).1) :
      c ∈ trail := List.dropWhile_subset _ (mem_of_mem_attributeValue mem)
  have plain : '&' ∉ ['/'] ++ trail.takeWhile (!Text.isTagBlank ·) := by
    intro mem
    rcases List.mem_cons.mp mem with mem | mem
    · contradiction
    · exact noMark rfl (List.takeWhile_subset _ mem)
  intro same
  rw [slash, resume, resume] at same
  have decoded := (Attribute.ofWritten_inj.mp (List.cons.inj same).1).2
  rw [decode_of_not_mem fun mem => noMark rfl (within mem), decode_of_not_mem plain] at decoded
  have read : '/' ∈ (attributeValue (trail.dropWhile Text.isTagBlank)).1 := by
    rw [decoded]
    exact List.mem_cons_self
  exact noMark rfl (within read)

theorem resume_bare_slash_ne (n v : List Char) :
    (bare n v).resume trail ≠ (bare n v).resume ('/' :: trail) := by
  intro same
  have taken : ('/' :: trail).takeWhile (!Text.isTagBlank ·) =
      '/' :: trail.takeWhile (!Text.isTagBlank ·) := List.takeWhile_cons_of_pos rfl
  simp only [resume, taken] at same
  exact ofWritten_slash_ne (fun c mem => blank c (List.takeWhile_subset _ mem)) n v
    (List.cons.inj same).1

theorem resume_quoted_slash_ne {quote : Char} (isQuote : IsQuote quote) (n v : List Char) :
    (quoted n quote v).resume trail ≠ (quoted n quote v).resume ('/' :: trail) := by
  intro same
  have other : '/' ≠ quote := by
    rintro rfl
    revert isQuote
    decide
  have taken : ('/' :: trail).takeWhile (· != quote) = '/' :: trail.takeWhile (· != quote) :=
    List.takeWhile_cons_of_pos (bne_iff_ne.mpr other)
  simp only [resume, taken] at same
  exact ofWritten_slash_ne (fun c mem => blank c (List.takeWhile_subset _ mem)) n v
    (List.cons.inj same).1

/-- One more slash in front of the last blanks is read like none just where it stands alone. -/
theorem resume_slash_iff {scan : Scan} (reads : ∀ quote ∈ scan.quote?, IsQuote quote) :
    scan.resume trail = scan.resume ('/' :: trail) ↔ scan.StandsAlone trail := by
  cases scan with
  | between => exact iff_of_true (attributes_cons_of_separates rfl trail).symm trivial
  | name n => exact resume_name_slash_iff blank n
  | behindName n =>
    have slash : (behindName n).resume ('/' :: trail) = .ofWritten n [] :: attributes trail :=
      resume_behindName_cons n '/' trail
    exact iff_of_true ((resume_behindName blank n).trans slash.symm) trivial
  | behindEquals n => exact iff_of_false (resume_behindEquals_slash_ne blank n) not_false
  | bare n v => exact iff_of_false (resume_bare_slash_ne blank n v) not_false
  | quoted n quote v =>
    exact iff_of_false (resume_quoted_slash_ne blank (reads quote rfl) n v) not_false

end

end Scan

theorem attributes_slash_iff {front trail : List Char} (blank : ∀ c ∈ trail, Text.isBlank c = true) :
    attributes (front ++ trail) = attributes (front ++ '/' :: trail) ↔
      (Scan.after front).StandsAlone trail := by
  rw [attributes_append, attributes_append, List.append_right_inj,
    Scan.resume_slash_iff blank fun _ => Scan.isQuote_of_quote?_after]

/-- A start tag that is given as self-closing ends in a slash with blanks behind it. Without the
slash its attributes are the same just if the slash stands alone: between attributes, or behind a
name that the blanks do not go on with. -/
theorem Reader.selfClosing_attributes_iff {document : List Char} {tag : StartTag}
    (mem : .opening tag ∈ (Reader.start document).drain) (selfClosing : tag.selfClosing = true) :
    ∃ before name front trail closed behind,
      pieces document = before ++ .startTag name (front ++ '/' :: trail) closed :: behind ∧
      tag.offset = (before.flatMap Piece.source).length ∧
      tag.attributes = attributes (front ++ '/' :: trail) ∧
      (∀ c ∈ trail, Text.isBlank c = true) ∧ '/' ∉ trail ∧
      (attributes (front ++ trail) = tag.attributes ↔ (Scan.after front).StandsAlone trail) := by
  rw [drain_eq_left] at mem
  obtain ⟨before, name, body, closed, behind, split, given⟩ := exists_piece_of_mem_eventsFrom mem
  cases given
  obtain ⟨front, trail, rfl, blank⟩ := isSelfClosing_iff.mp selfClosing
  exact ⟨before, name, front, trail, closed, behind, split, Nat.zero_add _, rfl, blank,
    not_mem_of_blank blank rfl, attributes_slash_iff blank⟩

/-- The slash stands behind a name. -/
theorem Reader.selfClosing_attributes_iff_bareName :
    let document := "<dl><dt hidden/>".toList
    let tag : StartTag := ⟨"dt", [⟨"hidden", ""⟩], 4, true⟩
    .opening tag ∈ (Reader.start document).drain ∧ tag.selfClosing = true ∧
      ∃ before name front trail closed behind,
        pieces document = before ++ .startTag name (front ++ '/' :: trail) closed :: behind ∧
        tag.offset = (before.flatMap Piece.source).length ∧
        tag.attributes = attributes (front ++ '/' :: trail) ∧
        (∀ c ∈ trail, Text.isBlank c = true) ∧ '/' ∉ trail ∧
        (attributes (front ++ trail) = tag.attributes ↔ (Scan.after front).StandsAlone trail) := by
  intro document tag
  have mem : .opening tag ∈ (Reader.start document).drain := by
    rw [drain_eq_left]
    decide +kernel
  exact ⟨mem, rfl, selfClosing_attributes_iff mem rfl⟩

/-- The slash at the end of a bare value is read into the value, and takes the content from the
element. -/
theorem Reader.not_standsAlone_bareValue :
    let document := "<a href=x/>t</a>".toList
    let tag : StartTag := ⟨"a", [⟨"href", "x/"⟩], 0, true⟩
    (Reader.start document).drain = [.opening tag, .text "t", .closing "a"] ∧
      pieces document = [.startTag ['a'] " href=x/".toList true, .text ['t'], .endTag ['a'] [] true] ∧
      attributes " href=x".toList = [⟨"href", "x"⟩] ∧
      attributes " href=x".toList ≠ tag.attributes := by
  simp only [drain_eq_left]
  decide +kernel

end DocIndex.Markup
