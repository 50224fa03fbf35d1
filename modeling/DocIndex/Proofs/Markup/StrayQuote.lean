import DocIndex.Proofs.Markup.Splitting
import DocIndex.Proofs.Markup.TagBody

/-!
# Stray quotes

Any quote in a start tag keeps the next greater-than sign from ending the tag, but the attributes
are read with quotes around values only. So the two agree on what is quoted just if no quote stands
elsewhere, and then no greater-than sign stands in a name or in a bare value.
-/

namespace DocIndex.Markup

/-! ### Quotes that hide the end of a tag -/

def quoteAfter : Option Char → Char → Option Char
  | some quote, c => if c = quote then none else some quote
  | none, c => if IsQuote c then some c else none

/-- The quote that is open behind this part of a body, for the end of the tag: the one with which
`splitTag` goes on (`splitTag_append_of_isPrefix`). -/
def openQuote (cs : List Char) : Option Char :=
  cs.foldl quoteAfter none

theorem openQuote_concat (cs : List Char) (c : Char) :
    openQuote (cs ++ [c]) = quoteAfter (openQuote cs) c := by
  rw [openQuote, List.foldl_append]
  rfl

theorem splitTag_append_of_isPrefix {quote : Option Char} {cs front : List Char}
    (part : front <+: (splitTag quote cs).1) (rest : List Char) :
    splitTag quote (front ++ rest) =
      (front ++ (splitTag (front.foldl quoteAfter quote) rest).1,
        (splitTag (front.foldl quoteAfter quote) rest).2) := by
  induction front generalizing quote cs with
  | nil => rfl
  | cons c front ih =>
    cases cs with
    | nil => cases quote <;> simp [splitTag] at part
    | cons d cs =>
      cases quote with
      | some quote =>
        obtain ⟨rfl, inside⟩ := List.cons_prefix_cons.mp part
        rw [List.cons_append, splitTag, ih inside]
        rfl
      | none =>
        simp only [splitTag] at part
        split at part
        · simp at part
        next notEnd =>
          obtain ⟨rfl, inside⟩ := List.cons_prefix_cons.mp part
          rw [List.cons_append, splitTag, if_neg notEnd, ih inside]
          rfl

theorem openQuote_ne_none {cs front back : List Char}
    (passed : (splitTag none cs).1 = front ++ '>' :: back) : openQuote front ≠ none := by
  intro nothing
  have part : front <+: (splitTag none cs).1 := ⟨_, passed.symm⟩
  have whole := splitTag_append_of_isPrefix part ('>' :: back ++ (splitTag none cs).2)
  rw [← List.append_assoc, ← passed, splitTag_append, ← openQuote, nothing] at whole
  have body := passed.symm.trans (congrArg Prod.fst whole)
  simp [splitTag] at body

/-- A greater-than sign in the body of a start tag stands in quotes, so that it does not end the
tag. -/
def Piece.HidesSigns : Piece → Prop
  | startTag _ body _ => ∀ front back, body = front ++ '>' :: back → openQuote front ≠ none
  | _ => True

theorem hidesSigns_startTagPiece (cs : List Char) : (startTagPiece cs).1.HidesSigns :=
  fun _ _ => openQuote_ne_none

theorem exists_startTagPiece {c : Char} {cs name body : List Char} {closed : Bool}
    (read : (firstPiece c cs).1 = .startTag name body closed) :
    ∃ after, (startTagPiece after).1 = .startTag name body closed := by
  unfold firstPiece markupPiece? at read
  split at read
  · split at read
    · cases read
    · cases read
    · cases read
    · split at read <;> cases read
    · split at read
      · exact ⟨_, read⟩
      · cases read
    · cases read
  · cases read

theorem hidesSigns_firstPiece (c : Char) (cs : List Char) : (firstPiece c cs).1.HidesSigns := by
  cases read : (firstPiece c cs).1 with
  | startTag name body closed =>
    obtain ⟨after, same⟩ := exists_startTagPiece read
    exact same ▸ hidesSigns_startTagPiece after
  | comment | declaration | endTag | text | rawText => trivial

theorem hidesSigns_of_mem_pieces {document : List Char} {piece : Piece}
    (mem : piece ∈ pieces document) : piece.HidesSigns := by
  fun_induction pieces document with
  | case1 => contradiction
  | case2 c cs first _ ih =>
    rcases List.mem_cons.mp mem with rfl | mem
    · exact hidesSigns_firstPiece c cs
    · exact ih mem
  | case3 c cs first _ _ raw ih =>
    rcases List.mem_cons.mp mem with rfl | mem
    · exact hidesSigns_firstPiece c cs
    · rcases List.mem_cons.mp mem with rfl | mem
      · trivial
      · exact ih mem

/-! ### Quotes around values -/

namespace Scan

def takesQuote : Scan → Bool
  | behindEquals _ => true
  | quoted .. => true
  | _ => false

/-- A quote that belongs to a quoted value, and any other character, changes for attributes what it
changes for the end of the tag. -/
theorem quote?_step {scan : Scan} {c : Char} (taken : IsQuote c → scan.takesQuote = true) :
    (scan.step c).quote? = quoteAfter scan.quote? c := by
  have notQuote (bare : scan.takesQuote = false) : ¬IsQuote c := by
    intro isQuote
    rw [taken isQuote] at bare
    contradiction
  cases scan with
  | between | behindName n =>
    have plain := notQuote rfl
    grind [step, quote?, quoteAfter, quote?_start]
  | name n | bare n v =>
    have plain := notQuote rfl
    grind [step, quote?, quoteAfter]
  | behindEquals n =>
    have notBlank : IsQuote c → Text.isTagBlank c = false := by
      rintro (rfl | rfl) <;> rfl
    grind [step, quote?, quoteAfter]
  | quoted n q v => grind [step, quote?, quoteAfter]

/-- A quote that belongs to no quoted value opens quotes for the end of the tag only. -/
theorem quote?_step_ne {scan : Scan} {c : Char} (isQuote : IsQuote c)
    (stray : scan.takesQuote = false) : (scan.step c).quote? ≠ quoteAfter scan.quote? c := by
  cases scan with
  | between | behindName n => grind [step, quote?, quoteAfter, quote?_start]
  | name n | bare n v => grind [step, quote?, quoteAfter]
  | behindEquals n | quoted n q v => contradiction

/-- What is being read of a name, or of a name and a bare value. -/
def unquoted : Scan → List Char
  | between => []
  | name n => n
  | behindName n => n
  | behindEquals n => n
  | bare n v => n ++ v
  | quoted n _ _ => n

theorem mem_unquoted_step {scan : Scan} {c d : Char} (mem : d ∈ (scan.step c).unquoted) :
    d ∈ scan.unquoted ∨ d = c ∧ scan.quote? = none := by
  cases scan with
  | between => grind [step, start, unquoted, quote?]
  | name n | bare n v => grind [step, unquoted, quote?]
  | behindName n => grind [step, start, unquoted, quote?]
  | behindEquals n => grind [step, unquoted, quote?]
  | quoted n q v => grind [step, unquoted, quote?]

end Scan

/-- A quote stands in this part of a body where it belongs to no quoted value. -/
def HasStrayQuote (cs : List Char) : Prop :=
  ∃ front quote back, cs = front ++ quote :: back ∧ IsQuote quote ∧
    (Scan.after front).takesQuote = false

instance (cs : List Char) : Decidable (HasStrayQuote cs) :=
  decidable_of_iff (∃ n : Fin cs.length,
      IsQuote cs[n] ∧ (Scan.after (cs.take n)).takesQuote = false) <| by
    constructor
    · rintro ⟨n, isQuote, untaken⟩
      exact ⟨cs.take n, cs[n], cs.drop (n + 1), by simp, isQuote, untaken⟩
    · rintro ⟨front, quote, back, rfl, isQuote, untaken⟩
      exact ⟨⟨front.length, by simp⟩, by simpa using isQuote, by simpa using untaken⟩

/-- What is quoted for the end of the tag is quoted for its attributes, at every place of a body. -/
def QuotesAgree (body : List Char) : Prop :=
  ∀ front, front <+: body → openQuote front = (Scan.after front).quote?

theorem HasStrayQuote.of_isPrefix {front cs : List Char} (part : front <+: cs)
    (stray : HasStrayQuote front) : HasStrayQuote cs := by
  obtain ⟨back, rfl⟩ := part
  obtain ⟨before, quote, behind, rfl, isQuote, untaken⟩ := stray
  exact ⟨before, quote, behind ++ back, by simp, isQuote, untaken⟩

theorem openQuote_eq_quote?_after {cs : List Char} (noStray : ¬HasStrayQuote cs) :
    openQuote cs = (Scan.after cs).quote? := by
  induction cs using List.reverseRecOn with
  | nil => rfl
  | append_singleton front c ih =>
    have taken : IsQuote c → (Scan.after front).takesQuote = true := by
      intro isQuote
      rw [← Bool.not_eq_false]
      intro untaken
      exact noStray ⟨front, c, [], rfl, isQuote, untaken⟩
    rw [openQuote_concat, Scan.after_concat, Scan.quote?_step taken,
      ih fun stray => noStray (stray.of_isPrefix (List.prefix_append ..))]

theorem quotesAgree_iff (body : List Char) : QuotesAgree body ↔ ¬HasStrayQuote body := by
  constructor
  · rintro agree ⟨front, quote, back, rfl, isQuote, untaken⟩
    have before := agree front (List.prefix_append ..)
    have behind := agree (front ++ [quote]) ⟨back, by simp⟩
    rw [openQuote_concat, Scan.after_concat, before] at behind
    exact Scan.quote?_step_ne isQuote untaken behind.symm
  · intro noStray front part
    exact openQuote_eq_quote?_after fun stray => noStray (stray.of_isPrefix part)

section
variable {document name body front back : List Char} {closed : Bool}

theorem quoted_of_greaterThan (mem : .startTag name body closed ∈ pieces document)
    (split : body = front ++ '>' :: back) (noStray : ¬HasStrayQuote front) :
    ∃ label quote value, Scan.after front = .quoted label quote value ∧ quote ≠ '>' := by
  have hidden := hidesSigns_of_mem_pieces mem front back split
  rw [openQuote_eq_quote?_after noStray] at hidden
  have isQuote : ∀ quote, (Scan.after front).quote? = some quote → IsQuote quote :=
    fun _ => Scan.isQuote_of_quote?_after
  cases reading : Scan.after front with
  | quoted label quote value =>
    rw [reading] at isQuote
    refine ⟨label, quote, value, rfl, ?_⟩
    rintro rfl
    exact absurd (isQuote '>' rfl) (by decide)
  | between | name | behindName | behindEquals | bare =>
    rw [reading] at hidden
    contradiction

theorem greaterThan_not_mem_unquoted (mem : .startTag name body closed ∈ pieces document)
    (noStray : ¬HasStrayQuote body) (part : front <+: body) :
    '>' ∉ (Scan.after front).unquoted := by
  induction front using List.reverseRecOn with
  | nil => exact List.not_mem_nil
  | append_singleton front c ih =>
    have before : front <+: body := (List.prefix_append ..).trans part
    rw [Scan.after_concat]
    intro sign
    rcases Scan.mem_unquoted_step sign with sign | ⟨rfl, bare⟩
    · exact ih before sign
    · obtain ⟨back, split⟩ := part
      rw [List.append_assoc] at split
      have noneBefore : ¬HasStrayQuote front := fun stray => noStray (stray.of_isPrefix before)
      obtain ⟨label, quote, value, reading, -⟩ := quoted_of_greaterThan mem split.symm noneBefore
      rw [reading] at bare
      contradiction

/-- The end of a start tag and its attributes agree on what is quoted just if no quote is stray. A
greater-than sign that has no stray quote before it lies within a quoted value, and without stray
quotes none is read as part of a name or of a bare value. -/
theorem startTag_quotesAgree_iff (mem : .startTag name body closed ∈ pieces document) :
    (QuotesAgree body ↔ ¬HasStrayQuote body) ∧
      (∀ front back, body = front ++ '>' :: back → ¬HasStrayQuote front →
        ∃ label quote value, Scan.after front = .quoted label quote value ∧
          attributes body = Scan.between.completed front ++
            .ofWritten label (value ++ '>' :: back.takeWhile (· != quote)) ::
              attributes ((back.dropWhile (· != quote)).drop 1)) ∧
      (¬HasStrayQuote body → ∀ front, front <+: body → '>' ∉ (Scan.after front).unquoted) := by
  refine ⟨quotesAgree_iff body, ?_, fun noStray _ => greaterThan_not_mem_unquoted mem noStray⟩
  intro front back split noStray
  obtain ⟨label, quote, value, reading, notQuote⟩ := quoted_of_greaterThan mem split noStray
  refine ⟨label, quote, value, reading, ?_⟩
  have inside : ('>' != quote) = true := bne_iff_ne.mpr notQuote.symm
  have taken : ('>' :: back).takeWhile (· != quote) = '>' :: back.takeWhile (· != quote) :=
    List.takeWhile_cons_of_pos inside
  have left : ('>' :: back).dropWhile (· != quote) = back.dropWhile (· != quote) :=
    List.dropWhile_cons_of_pos inside
  rw [split, attributes_append, reading, Scan.resume, taken, left]

end

/-- A greater-than sign in quotes is read into the value, and an apostrophe beside it too. -/
theorem startTag_quotesAgree_iff_signInQuotes :
    let document := "<a title=\"it's>x\" b>".toList
    let front := " title=\"it's".toList
    let body := front ++ '>' :: "x\" b".toList
    .startTag ['a'] body true ∈ pieces document ∧ ¬HasStrayQuote front ∧ QuotesAgree body ∧
      (∃ label quote value, Scan.after front = .quoted label quote value ∧
        attributes body = Scan.between.completed front ++
          .ofWritten label (value ++ '>' :: "x\" b".toList.takeWhile (· != quote)) ::
            attributes (("x\" b".toList.dropWhile (· != quote)).drop 1)) ∧
      '>' ∉ (Scan.after body).unquoted := by
  intro document front body
  have mem : .startTag ['a'] body true ∈ pieces document := by decide +kernel
  have noneBefore : ¬HasStrayQuote front := by decide +kernel
  have none : ¬HasStrayQuote body := by decide +kernel
  obtain ⟨agree, signs, unquoted⟩ := startTag_quotesAgree_iff mem
  exact ⟨mem, noneBefore, agree.mpr none, signs front _ rfl noneBefore,
    unquoted none body (List.prefix_refl body)⟩

/-- The apostrophe in a bare value hides the end of the tag, which is then read into the value. -/
theorem not_quotesAgree_apostrophe :
    let document := "<a title=it's>x' b>".toList
    let front := " title=it's".toList
    let body := front ++ '>' :: "x' b".toList
    pieces document = [.startTag ['a'] body true] ∧ ¬QuotesAgree body ∧
      Scan.after front = .bare "title".toList "it's".toList ∧
      attributes body = [⟨"title", "it's>x'"⟩, ⟨"b", ""⟩] := by
  refine ⟨by decide +kernel, ?_, by decide +kernel, by decide +kernel⟩
  rw [quotesAgree_iff, not_not]
  decide +kernel

end DocIndex.Markup
