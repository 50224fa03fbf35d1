import DocIndex.Markup.Piece
import DocIndex.Proofs.Markup.Reference

/-!
# Written tags

Names in letters of any case, and attributes with their values in double quotes. A start tag ends
where it is written to end if no greater-than sign before it stands outside of quotes
(`firstPiece_startTag`), and an attribute is read behind its name (`attributes_name`).
-/

namespace DocIndex.Markup

/-! ### Names -/

/-- What a name consists of behind its first letter. -/
def isNamePart (c : Char) : Bool :=
  c.isLower || c.isDigit || c == '.' || c == '_' || c == ':' || c == '-'

/-- A name as it is read: in small letters, with a letter first. -/
def isName (name : String) : Bool :=
  match name.toList with
  | [] => false
  | c :: cs => c.isLower && cs.all isNamePart

theorem toNat_lt_of_isNamePart {c : Char} (part : isNamePart c = true) : c.toNat < 128 := by
  simp only [isNamePart, Bool.or_eq_true, beq_iff_eq] at part
  rcases part with ((((small | digit) | rfl) | rfl) | rfl) | rfl
  · have letter : c.isAlpha = true := Bool.or_eq_true_iff.mpr (.inr small)
    exact Text.toNat_lt_of_isAlphanum (by simp [Char.isAlphanum, letter])
  · exact Text.toNat_lt_of_isAlphanum (by simp [Char.isAlphanum, digit])
  all_goals decide

theorem toLower_of_isNamePart {c : Char} (part : isNamePart c = true) : c.toLower = c :=
  Text.forall_ascii (P := fun c => isNamePart c = true → c.toLower = c) (by decide +kernel)
    (toNat_lt_of_isNamePart part) part

theorem lower_toList {name : String} (named : isName name = true) : lower name.toList = name := by
  have parts : ∀ c ∈ name.toList, isNamePart c = true := by
    rw [isName] at named
    split at named
    · contradiction
    · next c cs letters =>
      obtain ⟨letter, others⟩ := Bool.and_eq_true_iff.mp named
      rw [letters, List.forall_mem_cons]
      exact ⟨by simp [isNamePart, letter], List.all_eq_true.mp others⟩
  have same : name.toList.map Char.toLower = name.toList.map id :=
    List.map_congr_left fun c mem => toLower_of_isNamePart (parts c mem)
  rw [lower, same, List.map_id, String.ofList_toList]

theorem isAlpha_of_toLower {c : Char} (letter : c.toLower.isLower = true) : c.isAlpha = true := by
  cases capital : c.isUpper with
  | true => exact Bool.or_eq_true_iff.mpr (.inl capital)
  | false =>
    rw [Text.toLower_eq_self capital] at letter
    exact Bool.or_eq_true_iff.mpr (.inr letter)

theorem isNameChar_of_isAlpha {c : Char} (letter : c.isAlpha = true) : isNameChar c = true := by
  simp [isNameChar, Char.isAlphanum, letter]

theorem isNameChar_of_toLower {c : Char} (part : isNamePart c.toLower = true) :
    isNameChar c = true := by
  cases capital : c.isUpper with
  | true => exact isNameChar_of_isAlpha (Bool.or_eq_true_iff.mpr (.inl capital))
  | false =>
    rw [Text.toLower_eq_self capital] at part
    cases small : c.isLower with
    | true => exact isNameChar_of_isAlpha (Bool.or_eq_true_iff.mpr (.inr small))
    | false =>
      simp only [isNamePart, small, Bool.false_or, Bool.or_eq_true] at part
      simp only [isNameChar, Char.isAlphanum, Bool.or_eq_true]
      grind

theorem exists_of_lower_eq {name : String} (named : isName name = true) {written : List Char}
    (writes : lower written = name) :
    ∃ c cs, written = c :: cs ∧ c.isAlpha = true ∧ ∀ d ∈ cs, isNameChar d = true := by
  have letters : written.map Char.toLower = name.toList := by
    rw [← writes, lower, String.toList_ofList]
  rw [isName, ← letters] at named
  cases written with
  | nil => contradiction
  | cons c cs =>
    obtain ⟨letter, parts⟩ := Bool.and_eq_true_iff.mp named
    refine ⟨c, cs, rfl, isAlpha_of_toLower letter, ?_⟩
    intro d mem
    exact isNameChar_of_toLower (List.all_eq_true.mp parts _ (List.mem_map_of_mem mem))

theorem forall_isNameChar_of_lower_eq {name : String} (named : isName name = true) {written : List Char}
    (writes : lower written = name) : ∀ c ∈ written, isNameChar c = true := by
  obtain ⟨c, cs, rfl, letter, others⟩ := exists_of_lower_eq named writes
  simp only [List.mem_cons, forall_eq_or_imp]
  exact ⟨isNameChar_of_isAlpha letter, others⟩

theorem ne_of_isNameChar {c d : Char} (inName : isNameChar c = true) (sign : isNameChar d = false) :
    c ≠ d := by
  rintro rfl
  rw [inName] at sign
  contradiction

/-! ### The end of a tag -/

/-- What has no quote open at its end and no end of a tag within. -/
def Passes (cs : List Char) : Prop :=
  ∀ rest, splitTag none (cs ++ rest) =
    (cs ++ (splitTag none rest).1, (splitTag none rest).2)

theorem passes_nil : Passes [] :=
  fun _ => rfl

theorem Passes.append {front back : List Char} (first : Passes front) (second : Passes back) :
    Passes (front ++ back) := by
  intro rest
  rw [List.append_assoc, first, second, List.append_assoc]

theorem passes_of_plain {cs : List Char}
    (plain : ∀ c ∈ cs, c ≠ '>' ∧ c ≠ '"' ∧ c ≠ '\'') : Passes cs := by
  intro rest
  induction cs with
  | nil => rfl
  | cons c cs ih =>
    obtain ⟨notEnd, notQuote, notApostrophe⟩ := plain c List.mem_cons_self
    simp only [List.cons_append, splitTag, notEnd, notQuote, notApostrophe, or_self, if_false,
      ih fun d mem => plain d (List.mem_cons_of_mem c mem)]

theorem splitTag_quoted {quote : Char} {cs : List Char} (inside : quote ∉ cs)
    (rest : List Char) :
    splitTag (some quote) (cs ++ quote :: rest) =
      (cs ++ quote :: (splitTag none rest).1, (splitTag none rest).2) := by
  induction cs with
  | nil => simp only [List.nil_append, splitTag, if_true]
  | cons c cs ih =>
    rw [List.mem_cons, not_or] at inside
    simp only [List.cons_append, splitTag, if_neg (Ne.symm inside.1), ih inside.2]

theorem passes_quoted {quote : Char} (isQuote : quote = '"' ∨ quote = '\'') {cs : List Char}
    (inside : quote ∉ cs) : Passes (quote :: (cs ++ [quote])) := by
  intro rest
  have open_ : splitTag none (quote :: (cs ++ quote :: rest)) =
      (quote :: (splitTag (some quote) (cs ++ quote :: rest)).1,
        (splitTag (some quote) (cs ++ quote :: rest)).2) := by
    rcases isQuote with rfl | rfl <;> rfl
  simp only [List.cons_append, List.append_assoc, List.nil_append, open_, splitTag_quoted inside]

theorem ends_append_greaterThan {body : List Char} (ends : Text.Ends isNameChar body)
    (rest : List Char) : Text.Ends isNameChar (body ++ '>' :: rest) := by
  cases body with
  | nil => simp [isNameChar, Char.isAlphanum]
  | cons c body => simpa using ends

theorem markupPiece?_of_isAlpha {c : Char} (letter : c.isAlpha = true) (cs : List Char) :
    markupPiece? (c :: cs) = some (startTagPiece (c :: cs)) := by
  unfold markupPiece?
  -- All other markup begins with a sign, which is no letter.
  split <;> rename_i same <;> cases same
  any_goals contradiction
  exact if_pos letter

/-- A start tag ends where nothing hides its end. -/
theorem firstPiece_startTag {c : Char} {name inside : List Char} (letter : c.isAlpha = true)
    (inName : ∀ d ∈ c :: name, isNameChar d = true) (ends : Text.Ends isNameChar inside)
    (passes : Passes inside) (rest : List Char) :
    firstPiece '<' (c :: name ++ (inside ++ '>' :: rest)) =
      (.startTag (c :: name) inside true, rest) := by
  have nameEnds := ends_append_greaterThan ends rest
  have tagEnd : splitTag none (inside ++ '>' :: rest) = (inside, '>' :: rest) := by
    rw [passes, splitTag, if_pos rfl, List.append_nil]
  rw [firstPiece, if_pos rfl, List.cons_append, markupPiece?_of_isAlpha letter,
    Option.getD_some, ← List.cons_append, startTagPiece,
    Text.takeWhile_append_of_ends inName nameEnds, Text.dropWhile_append_of_ends inName nameEnds,
    tagEnd]
  rfl

/-! ### Attributes -/

theorem not_isTagBlank_of_isNameChar {c : Char} (inName : isNameChar c = true) :
    Text.isTagBlank c = false := by
  have other (d : Char) (sign : isNameChar d = false) : (c == d) = false :=
    beq_eq_false_iff_ne.mpr (ne_of_isNameChar inName sign)
  simp only [Text.isTagBlank, other ' ' rfl, other '\t' rfl, other '\n' rfl, other '\x0c' rfl,
    other '\r' rfl, Bool.or_self]

theorem not_endsAttributeName {c : Char} (inName : isNameChar c = true) :
    endsAttributeName c = false := by
  have notEquals : (c == '=') = false := beq_eq_false_iff_ne.mpr (ne_of_isNameChar inName rfl)
  have notSlash : (c == '/') = false := beq_eq_false_iff_ne.mpr (ne_of_isNameChar inName rfl)
  simp only [endsAttributeName, not_isTagBlank_of_isNameChar inName, notEquals, notSlash,
    Bool.or_self]

theorem attributeValue_quoted {quote : Char} (isQuote : quote = '"' ∨ quote = '\'')
    {value : List Char} (inside : quote ∉ value) (rest : List Char) :
    attributeValue (quote :: (value ++ quote :: rest)) = (value, rest) := by
  have before := Text.forall_bne inside
  have ends : Text.Ends (· != quote) (quote :: rest) := by simp
  simp only [attributeValue, if_pos isQuote, Text.takeWhile_append_of_ends before ends,
    Text.dropWhile_append_of_ends before ends, List.drop_succ_cons, List.drop_zero]

/-- A name behind blanks is read as it is, whatever ends it, and what follows it is its value. -/
theorem attributes_name {blanks : List Char} (blank : ∀ d ∈ blanks, Text.isTagBlank d = true)
    {c : Char} {name tail : List Char} (first : c.isAlpha = true)
    (others : ∀ d ∈ name, isNameChar d = true) (ends : Text.Ends (!endsAttributeName ·) tail) :
    attributes (blanks ++ c :: (name ++ tail)) =
      ⟨lower (c :: name), String.ofList (decode (attributeAssignment tail).1)⟩ ::
        attributes (attributeAssignment tail).2 := by
  have inName := isNameChar_of_isAlpha first
  have notSlash : (c == '/') = false := beq_eq_false_iff_ne.mpr (ne_of_isNameChar inName rfl)
  have notEquals : c ≠ '=' := ne_of_isNameChar inName rfl
  have parts : ∀ d ∈ name, (!endsAttributeName d) = true := by
    intro d mem
    rw [not_endsAttributeName (others d mem), Bool.not_false]
  have start : (blanks ++ c :: (name ++ tail)).dropWhile (fun c => Text.isTagBlank c || c == '/') =
      c :: (name ++ tail) := by
    refine Text.dropWhile_append_of_ends (fun d mem => by simp [blank d mem]) ?_
    simp [not_isTagBlank_of_isNameChar inName, notSlash]
  rw [attributes]
  split
  next dropped =>
    rw [start] at dropped
    contradiction
  next d after dropped =>
    rw [start] at dropped
    cases dropped
    simp only [if_neg notEquals, Text.takeWhile_append_of_ends parts ends,
      Text.dropWhile_append_of_ends parts ends]

theorem isSelfClosing_concat {c : Char} (notBlank : Text.isBlank c = false) (front : List Char) :
    isSelfClosing (front ++ [c]) = (c == '/') := by
  have trimmed : Text.trimEnd (front ++ [c]) = front ++ [c] := by
    rw [Text.trimEnd, List.reverse_append, List.reverse_singleton, List.singleton_append,
      List.dropWhile_cons_of_neg (by simp [notBlank]), List.reverse_cons, List.reverse_reverse]
  rw [isSelfClosing, trimmed, List.getLast?_concat]
  rfl

/-- Attributes as they are written: each behind a space, its name in letters of any case and its
value in double quotes. -/
inductive WritesAttributes : List Attribute → List Char → Prop where
  | nil : WritesAttributes [] []
  | cons {a : Attribute} {name : List Char} {list : List Attribute} {cs : List Char} :
      lower name = a.name →
      WritesAttributes list cs →
      WritesAttributes (a :: list)
        (' ' :: (name ++ '=' :: '"' :: (escape ['&', '"'] a.value.toList ++ '"' :: cs)))

theorem WritesAttributes.exists_of_names {list : List Attribute}
    (names : ∀ a ∈ list, isName a.name = true) : ∃ cs, WritesAttributes list cs := by
  induction list with
  | nil => exact ⟨[], .nil⟩
  | cons a list ih =>
    obtain ⟨named, others⟩ := List.forall_mem_cons.mp names
    obtain ⟨cs, written⟩ := ih others
    exact ⟨_, .cons (lower_toList named) written⟩

end DocIndex.Markup
