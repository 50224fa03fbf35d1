import DocIndex.Markup.Reader
import DocIndex.Proofs.Markup.Spelling
import DocIndex.Proofs.Markup.Tag

/-!
# Attributes in any form

An attribute is written with its value in quotes of either kind, with a bare value, or as a name
alone, and with any blanks around its equals sign. However the forms are mixed, a start tag ends
where it is written to end and gives its attributes as they were (`Reader.next_writtenTag`). Each
form is read in front of what cannot go on with it (`EndsAttribute`): of all that follows, only an
equals sign behind blanks would make a name alone into something else.
-/

namespace DocIndex.Markup

/-! ### Forms -/

/-- A name as it may be written: a letter, and characters of names. -/
structure IsTagName (name : List Char) : Prop where
  letter : ∃ c ∈ name.head?, c.isAlpha = true
  parts : ∀ c ∈ name, isNameChar c = true

def AreBlanks (cs : List Char) : Prop :=
  ∀ c ∈ cs, Text.isTagBlank c = true

structure IsBare (written : List Char) : Prop where
  nonempty : written ≠ []
  solid : ∀ c ∈ written, Text.isBlank c = false
  plain : ∀ c ∈ written, c ≠ '>' ∧ c ≠ '"' ∧ c ≠ '\''
  noSlash : written.getLast? ≠ some '/'

/-- The ways to write a value, of which each character may be written as a reference. -/
inductive WritesValue (value : List Char) : List Char → Prop where
  | quoted {quote : Char} {spellings : List (List Char)} (isQuote : quote = '"' ∨ quote = '\'')
      (spelled : List.Forall₂ Spells value spellings) (inside : quote ∉ spellings.flatten) :
      WritesValue value (quote :: (spellings.flatten ++ [quote]))
  | bare {spellings : List (List Char)} (spelled : List.Forall₂ Spells value spellings)
      (isBare : IsBare spellings.flatten) : WritesValue value spellings.flatten

inductive WritesAttribute (a : Attribute) : List Char → Prop where
  | assigned {name front back value : List Char} (isName : IsTagName name)
      (writesName : lower name = a.name) (blankFront : AreBlanks front) (blankBack : AreBlanks back)
      (writes : WritesValue a.value.toList value) :
      WritesAttribute a (name ++ (front ++ '=' :: (back ++ value)))
  | alone {name : List Char} (isName : IsTagName name) (writesName : lower name = a.name)
      (empty : a.value = "") : WritesAttribute a name

/-- The ways to write attributes one after the other, each behind a blank or more. -/
inductive WritesForms : List Attribute → List Char → Prop where
  | nil : WritesForms [] []
  | cons {a : Attribute} {list : List Attribute} {blanks written cs : List Char}
      (nonempty : blanks ≠ []) (blank : AreBlanks blanks) (writes : WritesAttribute a written)
      (others : WritesForms list cs) : WritesForms (a :: list) (blanks ++ (written ++ cs))

/-! ### Reading -/

/-- What may follow an attribute without going on with it: nothing, or a blank, and no equals sign
behind the blanks. -/
structure EndsAttribute (rest : List Char) : Prop where
  parted : Text.Ends (!Text.isTagBlank ·) rest
  noEquals : '=' ∉ (rest.dropWhile Text.isTagBlank).head?

theorem IsTagName.exists_eq_cons {name : List Char} (isName : IsTagName name) :
    ∃ c others, name = c :: others ∧ c.isAlpha = true ∧ ∀ d ∈ others, isNameChar d = true := by
  obtain ⟨c, first, letter⟩ := isName.letter
  obtain ⟨others, rfl⟩ := List.head?_eq_some_iff.mp first
  exact ⟨c, others, rfl, letter, fun d mem => isName.parts d (List.mem_cons_of_mem c mem)⟩

theorem isBlank_of_isTagBlank {c : Char} (blank : Text.isTagBlank c = true) :
    Text.isBlank c = true := by
  simp only [Text.isTagBlank, Bool.or_eq_true, beq_iff_eq] at blank
  rcases blank with (((rfl | rfl) | rfl) | rfl) | rfl <;> rfl

namespace EndsAttribute

variable {rest : List Char} (ends : EndsAttribute rest)
include ends

theorem endsName : Text.Ends (!endsAttributeName ·) rest := by
  refine ends.parted.mono fun c inName => ?_
  simp only [endsAttributeName, Bool.not_eq_true', Bool.or_eq_false_iff] at inName ⊢
  exact inName.1.1

theorem attributeAssignment_eq : attributeAssignment rest = ([], rest) := by
  unfold attributeAssignment
  split
  next behind dropped => exact absurd (by rw [dropped]; rfl) ends.noEquals
  next => rfl

end EndsAttribute

theorem IsBare.not_isTagBlank {written : List Char} (isBare : IsBare written) {c : Char}
    (mem : c ∈ written) : Text.isTagBlank c = false := by
  cases blank : Text.isTagBlank c with
  | false => rfl
  | true =>
    have solid := isBare.solid c mem
    rw [isBlank_of_isTagBlank blank] at solid
    contradiction

namespace WritesValue

variable {value written : List Char}

theorem exists_attributeValue (writes : WritesValue value written) {rest : List Char}
    (ends : EndsAttribute rest) :
    ∃ read, attributeValue (written ++ rest) = (read, rest) ∧ decode read = value := by
  cases writes with
  | @quoted quote spellings isQuote spelled inside =>
    refine ⟨spellings.flatten, ?_, by simpa using decode_flatten_append spelled []⟩
    simpa using attributeValue_quoted isQuote inside rest
  | @bare spellings spelled isBare =>
    refine ⟨spellings.flatten, ?_, by simpa using decode_flatten_append spelled []⟩
    have solid : ∀ c ∈ spellings.flatten, (!Text.isTagBlank c) = true :=
      fun c mem => by rw [isBare.not_isTagBlank mem, Bool.not_false]
    obtain ⟨c, others, split⟩ := List.exists_cons_of_ne_nil isBare.nonempty
    have notQuote := (isBare.plain c (split ▸ List.mem_cons_self)).2
    rw [split, List.cons_append, attributeValue, if_neg (by simp [notQuote]), ← List.cons_append,
      ← split, Text.takeWhile_append_of_ends solid ends.parted,
      Text.dropWhile_append_of_ends solid ends.parted]

theorem ends_append (writes : WritesValue value written) (rest : List Char) :
    Text.Ends Text.isTagBlank (written ++ rest) := by
  cases writes with
  | quoted isQuote => rcases isQuote with rfl | rfl <;> simp [Text.isTagBlank]
  | @bare spellings spelled isBare =>
    obtain ⟨c, others, split⟩ := List.exists_cons_of_ne_nil isBare.nonempty
    rw [split, List.cons_append, Text.ends_cons]
    exact isBare.not_isTagBlank (split ▸ List.mem_cons_self)

end WritesValue

theorem WritesAttribute.attributes_append {a : Attribute} {blanks written : List Char}
    (blank : AreBlanks blanks) (writes : WritesAttribute a written) {rest : List Char}
    (ends : EndsAttribute rest) :
    attributes (blanks ++ (written ++ rest)) = a :: attributes rest := by
  cases writes with
  | @assigned name front back value isName writesName blankFront blankBack writes =>
    obtain ⟨c, others, rfl, letter, parts⟩ := isName.exists_eq_cons
    obtain ⟨read, isRead, decoded⟩ := writes.exists_attributeValue ends
    have assigned : attributeAssignment (front ++ '=' :: (back ++ (value ++ rest))) = (read, rest) := by
      have equals : Text.Ends Text.isTagBlank ('=' :: (back ++ (value ++ rest))) := by
        simp [Text.isTagBlank]
      rw [attributeAssignment, Text.dropWhile_append_of_ends blankFront equals]
      simp only [Text.dropWhile_append_of_ends blankBack (writes.ends_append rest), isRead]
    have endsName : Text.Ends (!endsAttributeName ·) (front ++ '=' :: (back ++ (value ++ rest))) := by
      cases front with
      | nil => simp [endsAttributeName]
      | cons d front => simp [endsAttributeName, blankFront d List.mem_cons_self]
    have whole := attributes_name blank letter parts endsName
    rw [assigned, decoded, writesName, String.ofList_toList] at whole
    simpa using whole
  | alone isName writesName empty =>
    obtain ⟨c, others, rfl, letter, parts⟩ := isName.exists_eq_cons
    have whole := attributes_name blank letter parts ends.endsName
    rw [ends.attributeAssignment_eq, decode_nil, writesName, String.ofList_nil, ← empty] at whole
    exact whole

namespace WritesForms

variable {list : List Attribute} {cs : List Char}

theorem endsAttribute_append (writes : WritesForms list cs) {rest : List Char}
    (ends : EndsAttribute rest) : EndsAttribute (cs ++ rest) := by
  cases writes with
  | nil => exact ends
  | @cons a list blanks written cs nonempty blank writes others =>
    obtain ⟨c, tail, split, letter⟩ : ∃ c tail, written = c :: tail ∧ c.isAlpha = true := by
      cases writes with
      | assigned isName | alone isName =>
        obtain ⟨c, others, rfl, letter, -⟩ := isName.exists_eq_cons
        exact ⟨c, _, rfl, letter⟩
    have inName := isNameChar_of_isAlpha letter
    rw [split]
    constructor
    · obtain ⟨d, blanks, rfl⟩ := List.exists_cons_of_ne_nil nonempty
      simp [blank d List.mem_cons_self]
    · have first : Text.Ends Text.isTagBlank (c :: (tail ++ cs) ++ rest) := by
        simp [not_isTagBlank_of_isNameChar inName]
      rw [List.append_assoc, List.cons_append, Text.dropWhile_append_of_ends blank first]
      simpa using (ne_of_isNameChar inName (by rfl) : c ≠ '=')

/-- Attributes in any forms are read as they were. -/
theorem attributes_append (writes : WritesForms list cs) {rest : List Char}
    (ends : EndsAttribute rest) : attributes (cs ++ rest) = list ++ attributes rest := by
  induction writes with
  | nil => rfl
  | @cons a list blanks written cs nonempty blank writes others ih =>
    have behind := others.endsAttribute_append ends
    rw [List.append_assoc, List.append_assoc, writes.attributes_append blank behind, ih,
      List.cons_append]

theorem attributes_eq (writes : WritesForms list cs) : attributes cs = list := by
  have nothing : EndsAttribute [] := ⟨Text.ends_nil _, by simp⟩
  have none : attributes [] = [] := by rw [attributes]; rfl
  have whole := writes.attributes_append nothing
  rwa [none, List.append_nil, List.append_nil] at whole

end WritesForms

/-! ### The end of the tag -/

theorem AreBlanks.passes {cs : List Char} (blank : AreBlanks cs) : Passes cs := by
  refine passes_of_plain fun c mem => ?_
  have isBlank := blank c mem
  refine ⟨?_, ?_, ?_⟩ <;> rintro rfl <;> contradiction

theorem IsTagName.passes {name : List Char} (isName : IsTagName name) : Passes name := by
  refine passes_of_plain fun c mem => ?_
  have inName := isName.parts c mem
  exact ⟨ne_of_isNameChar inName rfl, ne_of_isNameChar inName rfl, ne_of_isNameChar inName rfl⟩

theorem WritesValue.passes {value written : List Char} (writes : WritesValue value written) :
    Passes written := by
  cases writes with
  | quoted isQuote _ inside => exact passes_quoted isQuote inside
  | bare _ isBare => exact passes_of_plain isBare.plain

theorem WritesAttribute.passes {a : Attribute} {written : List Char}
    (writes : WritesAttribute a written) : Passes written := by
  cases writes with
  | assigned isName _ blankFront blankBack writes =>
    have equals : Passes ['='] := passes_of_plain (by simp)
    have assignment := equals.append (blankBack.passes.append writes.passes)
    exact isName.passes.append (blankFront.passes.append assignment)
  | alone isName => exact isName.passes

theorem WritesForms.passes {list : List Attribute} {cs : List Char} (writes : WritesForms list cs) :
    Passes cs := by
  induction writes with
  | nil => exact passes_nil
  | cons _ blank writes _ ih => exact blank.passes.append (writes.passes.append ih)

/-- The text ends in a character that is neither blank nor a slash. -/
def EndsSolid (cs : List Char) : Prop :=
  ∃ front c, cs = front ++ [c] ∧ Text.isBlank c = false ∧ c ≠ '/'

theorem EndsSolid.append {back : List Char} (ends : EndsSolid back) (front : List Char) :
    EndsSolid (front ++ back) := by
  obtain ⟨inside, c, rfl, solid⟩ := ends
  exact ⟨front ++ inside, c, by rw [List.append_assoc], solid⟩

theorem endsSolid_of_forall {cs : List Char} (nonempty : cs ≠ [])
    (solid : ∀ c ∈ cs, Text.isBlank c = false) (noSlash : cs.getLast? ≠ some '/') : EndsSolid cs := by
  refine ⟨cs.dropLast, cs.getLast nonempty, (List.dropLast_append_getLast nonempty).symm,
    solid _ (List.getLast_mem nonempty), ?_⟩
  rwa [List.getLast?_eq_some_getLast nonempty, ne_eq, Option.some.injEq] at noSlash

theorem isBlank_eq_false_of_isNameChar {c : Char} (inName : isNameChar c = true) :
    Text.isBlank c = false := by
  simp only [isNameChar, Bool.or_eq_true, beq_iff_eq] at inName
  rcases inName with (((letter | rfl) | rfl) | rfl) | rfl
  · exact Text.isBlank_eq_false_of_isAlphanum letter
  all_goals rfl

theorem IsTagName.endsSolid {name : List Char} (isName : IsTagName name) : EndsSolid name := by
  have nonempty : name ≠ [] := by
    obtain ⟨c, others, rfl, -⟩ := isName.exists_eq_cons
    exact List.cons_ne_nil c others
  refine endsSolid_of_forall nonempty
    (fun c mem => isBlank_eq_false_of_isNameChar (isName.parts c mem)) fun slash => ?_
  exact ne_of_isNameChar (isName.parts _ (List.mem_of_getLast? slash)) (by rfl) rfl

theorem WritesAttribute.endsSolid {a : Attribute} {written : List Char}
    (writes : WritesAttribute a written) : EndsSolid written := by
  cases writes with
  | @assigned name front back value _ _ _ _ writes =>
    have last : EndsSolid value := by
      cases writes with
      | @quoted quote spellings isQuote =>
        refine ⟨quote :: spellings.flatten, quote, rfl, ?_⟩
        rcases isQuote with rfl | rfl <;> decide
      | bare _ isBare => exact endsSolid_of_forall isBare.nonempty isBare.solid isBare.noSlash
    simpa using last.append (name ++ (front ++ '=' :: back))
  | alone isName => exact isName.endsSolid

namespace WritesForms

variable {list : List Attribute} {cs : List Char}

theorem eq_nil_or_endsSolid (writes : WritesForms list cs) : cs = [] ∨ EndsSolid cs := by
  induction writes with
  | nil => exact .inl rfl
  | @cons a list blanks written cs _ _ writes _ ih =>
    right
    rcases ih with rfl | ends
    · rw [List.append_nil]
      exact writes.endsSolid.append blanks
    · exact (ends.append written).append blanks

theorem isSelfClosing_eq_false (writes : WritesForms list cs) : isSelfClosing cs = false := by
  rcases writes.eq_nil_or_endsSolid with rfl | ⟨front, c, rfl, solid, noSlash⟩
  · rfl
  · rw [isSelfClosing_concat solid, beq_eq_false_iff_ne]
    exact noSlash

theorem ends_append (writes : WritesForms list cs) {rest : List Char}
    (ends : Text.Ends isNameChar rest) : Text.Ends isNameChar (cs ++ rest) := by
  cases writes with
  | nil => exact ends
  | @cons a list blanks written cs nonempty blank _ _ =>
    obtain ⟨d, blanks, rfl⟩ := List.exists_cons_of_ne_nil nonempty
    have isBlank := blank d List.mem_cons_self
    rw [List.cons_append, List.cons_append, Text.ends_cons, Bool.eq_false_iff]
    intro inName
    rw [not_isTagBlank_of_isNameChar inName] at isBlank
    contradiction

end WritesForms

/-! ### Values in double quotes -/

theorem isTagName_of_lower_eq {name : String} (named : isName name = true) {written : List Char}
    (writes : lower written = name) : IsTagName written := by
  have parts := forall_isNameChar_of_lower_eq named writes
  obtain ⟨c, others, rfl, letter, -⟩ := exists_of_lower_eq named writes
  exact ⟨⟨c, rfl, letter⟩, parts⟩

/-- Double quotes around escaped values, with a space in front of each name, are one of the forms. -/
theorem WritesAttributes.writesForms {list : List Attribute} {cs : List Char}
    (writes : WritesAttributes list cs) (names : ∀ a ∈ list, isName a.name = true) :
    WritesForms list cs := by
  induction writes with
  | nil => exact .nil
  | @cons a name list cs written _ ih =>
    obtain ⟨named, names⟩ := List.forall_mem_cons.mp names
    have ampersand : '&' ∈ ['&', '"'] := List.mem_cons_self
    obtain ⟨spellings, spelled, same⟩ := exists_spellings_escape ampersand a.value.toList
    have inside : '"' ∉ spellings.flatten := same ▸ not_mem_escape (.inr rfl) (by simp) a.value.toList
    have value := WritesValue.quoted (.inl rfl) spelled inside
    have first := WritesAttribute.assigned (isTagName_of_lower_eq named written) written
      (List.forall_mem_nil _) (List.forall_mem_nil _) value
    have whole := WritesForms.cons (List.cons_ne_nil ' ' []) (List.forall_mem_singleton.mpr rfl)
      first (ih names)
    simpa [same] using whole

/-! ### Tags -/

def slashIf (selfClosing : Bool) : List Char :=
  if selfClosing then [' ', '/'] else []

theorem endsAttribute_slashIf (selfClosing : Bool) : EndsAttribute (slashIf selfClosing) := by
  cases selfClosing with
  | false => exact ⟨Text.ends_nil _, by simp [slashIf]⟩
  | true => exact ⟨by simp [slashIf, Text.isTagBlank], by decide⟩

theorem attributes_slashIf (selfClosing : Bool) : attributes (slashIf selfClosing) = [] := by
  cases selfClosing <;> rw [attributes] <;> rfl

theorem passes_slashIf (selfClosing : Bool) : Passes (slashIf selfClosing) := by
  cases selfClosing <;> exact passes_of_plain (by simp [slashIf])

theorem WritesForms.isSelfClosing_append {list : List Attribute} {cs : List Char}
    (writes : WritesForms list cs) (selfClosing : Bool) :
    isSelfClosing (cs ++ slashIf selfClosing) = selfClosing := by
  cases selfClosing with
  | false => rw [slashIf, if_neg Bool.false_ne_true, List.append_nil, writes.isSelfClosing_eq_false]
  | true =>
    have split : cs ++ slashIf true = cs ++ [' '] ++ ['/'] := by simp [slashIf]
    rw [split, isSelfClosing_concat rfl]
    rfl

namespace Reader

variable {r : Reader}

theorem readMarkup_of_event? {c : Char} {cs : List Char} (unread : r.unread = c :: cs)
    {event : Event} (given : (firstPiece c cs).1.event? r.position = some event) :
    r.readMarkup = (some event, r.pass (firstPiece c cs).1 (firstPiece c cs).2) := by
  rw [readMarkup]
  split
  next atEnd =>
    rw [unread] at atEnd
    contradiction
  next d ds same =>
    obtain ⟨rfl, rfl⟩ := List.cons.inj (same.symm.trans unread)
    simp only [event?_counted, given]

/-- A start tag whose attributes are written in any forms is read up to its end, and gives its
attributes as they were. -/
theorem next_writtenTag (empty : r.pushedBack? = none) (markup : r.rawText? = none)
    {name inside rest : List Char} {list : List Attribute} (isName : IsTagName name)
    (writes : WritesForms list inside) (selfClosing : Bool)
    (unread : r.unread = '<' :: (name ++ (inside ++ slashIf selfClosing ++ '>' :: rest))) :
    r.next.1 = some (.opening ⟨lower name, list, r.position, selfClosing⟩) ∧
      r.next.2.unread = rest := by
  have body : attributes (inside ++ slashIf selfClosing) = list := by
    rw [writes.attributes_append (endsAttribute_slashIf selfClosing), attributes_slashIf,
      List.append_nil]
  have ends : Text.Ends isNameChar (inside ++ slashIf selfClosing) :=
    writes.ends_append (by cases selfClosing <;> simp [slashIf, isNameChar, Char.isAlphanum])
  have passes := writes.passes.append (passes_slashIf selfClosing)
  obtain ⟨c, others, rfl, letter, parts⟩ := isName.exists_eq_cons
  have first := firstPiece_startTag letter isName.parts ends passes rest
  have given : (firstPiece '<' (c :: others ++ (inside ++ slashIf selfClosing ++ '>' :: rest))).1.event?
      r.position = some (.opening ⟨lower (c :: others), list, r.position, selfClosing⟩) := by
    rw [first, Piece.event?, body, writes.isSelfClosing_append]
  have next : r.next = r.readMarkup := by
    unfold Reader.next
    rw [empty, markup]
  rw [next, readMarkup_of_event? unread given, first]
  exact ⟨rfl, rfl⟩

/-- A value with the sign that would end the tag, one that is a reference, and a name alone. -/
theorem next_writtenTag_mixedForms :
    let inside := " HREF = 'a>'\tx=&amp; CHECKED".toList
    let list : List Attribute := [⟨"href", "a>"⟩, ⟨"x", "&"⟩, ⟨"checked", ""⟩]
    let document := '<' :: ("Br".toList ++ (inside ++ slashIf true ++ '>' :: "t".toList))
    WritesForms list inside ∧
      (Reader.start document).next.1 = some (.opening ⟨"br", list, 0, true⟩) ∧
      (Reader.start document).next.2.unread = "t".toList := by
  intro inside list document
  have quoted : WritesValue "a>".toList "'a>'".toList :=
    .quoted (.inr rfl) (.cons (.self (by decide)) (.cons (.self (by decide)) .nil)) (by decide)
  have ampersand : Spells '&' "&amp;".toList :=
    .reference (@RefersTo.name _ "amp" (by decide)) (by decide)
  have bare : WritesValue "&".toList "&amp;".toList :=
    .bare (.cons ampersand .nil) ⟨by decide, by simp [Text.isBlank], by simp, by decide⟩
  have named (name : String) (first : ∃ c ∈ name.toList.head?, c.isAlpha = true)
      (parts : name.toList.all isNameChar = true) : IsTagName name.toList :=
    ⟨first, List.all_eq_true.mp parts⟩
  have space : AreBlanks [' '] := List.forall_mem_singleton.mpr rfl
  have tab : AreBlanks ['\t'] := List.forall_mem_singleton.mpr rfl
  have href : WritesAttribute ⟨"href", "a>"⟩ "HREF = 'a>'".toList :=
    @WritesAttribute.assigned _ "HREF".toList [' '] [' '] _ (named "HREF" ⟨'H', rfl, rfl⟩ rfl)
      (by decide +kernel) space space quoted
  have x : WritesAttribute ⟨"x", "&"⟩ "x=&amp;".toList :=
    @WritesAttribute.assigned _ ['x'] [] [] _ (named "x" ⟨'x', rfl, rfl⟩ rfl)
      (by decide +kernel) (List.forall_mem_nil _) (List.forall_mem_nil _) bare
  have checked : WritesAttribute ⟨"checked", ""⟩ "CHECKED".toList :=
    .alone (named "CHECKED" ⟨'C', rfl, rfl⟩ rfl) (by decide +kernel) rfl
  have writes : WritesForms list inside :=
    @WritesForms.cons _ _ [' '] _ _ (by decide) space href <|
      @WritesForms.cons _ _ ['\t'] _ _ (by decide) tab x <|
        @WritesForms.cons _ _ [' '] _ _ (by decide) space checked .nil
  have isName := named "Br" ⟨'B', rfl, rfl⟩ rfl
  exact ⟨writes, next_writtenTag rfl rfl isName writes true rfl⟩

end Reader

end DocIndex.Markup
