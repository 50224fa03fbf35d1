import DocIndex.Markup.Element

/-!
# First sentences

A sentence ends at a period that a blank or the end of the text follows. The summary of an element
is the first sentence of the text below it, with blanks normalized. It is read off the tree, one
character after the other, and reading stops where the sentence ends: what is read is the first
sentence of the text of the tree (`summary_eq`).
-/

namespace DocIndex

/-- The characters that end a sentence, in several scripts. -/
def periods : List Char :=
  ['.', '!', '?', '\u0589', '\u06d4', '\u0964', '\u0965', '\u203c', '\u2047', '\u2048', '\u2049',
   '\u3002', '\ufe52', '\uff01', '\uff0e', '\uff1f', '\uff61']

def isPeriod (c : Char) : Bool :=
  periods.contains c

/-- What has been read of a sentence. -/
structure Sentence where
  /-- The last character first. -/
  captured : List Char
  /-- The last character is a period, so that a blank ends the sentence. -/
  afterPeriod : Bool
  ended : Bool

namespace Sentence

def start : Sentence := ⟨[], false, false⟩

def readText (sentence : Sentence) : List Char → Sentence
  | [] => sentence
  | c :: cs =>
    if sentence.afterPeriod && Text.isBlank c then { sentence with ended := true }
    else readText ⟨c :: sentence.captured, isPeriod c, false⟩ cs

end Sentence

namespace Markup

mutual

/-- Reads on in the text of a node and of all below it. -/
def Node.readSentence (sentence : Sentence) : Node → Sentence
  | .element _ _ children => readSentenceIn sentence children
  | .text data => sentence.readText data.toList
  | .comment _ => sentence

/-- Reads on in nodes, up to the one in which the sentence ends. -/
def readSentenceIn (sentence : Sentence) : List Node → Sentence
  | [] => sentence
  | node :: rest =>
    let next := node.readSentence sentence
    if next.ended then next else readSentenceIn next rest

end

def Element.summary (e : Element) : String :=
  String.ofList (Text.normalize (readSentenceIn .start e.children).captured.reverse)

end Markup

/-! ### Sentences of a text -/

/-- Whether a sentence ends between a character and what follows it. -/
def endsSentence (c : Char) (rest : List Char) : Bool :=
  isPeriod c && (rest.head?.any Text.isBlank)

/-- A text up to its first period that a blank follows. -/
def firstSentence : List Char → List Char
  | [] => []
  | c :: cs => if endsSentence c cs then [c] else c :: firstSentence cs

namespace Sentence

theorem readText_append {sentence : Sentence} (goesOn : sentence.ended = false)
    (front back : List Char) :
    sentence.readText (front ++ back) =
      if (sentence.readText front).ended then sentence.readText front
      else (sentence.readText front).readText back := by
  induction front generalizing sentence with
  | nil => simp [readText, goesOn]
  | cons c front ih =>
    simp only [List.cons_append, readText]
    split
    · rfl
    · exact ih rfl

theorem captured_readText_of_ends {sentence : Sentence} {cs : List Char}
    (ends : (sentence.afterPeriod && cs.head?.any Text.isBlank) = true) :
    (sentence.readText cs).captured = sentence.captured := by
  cases cs with
  | nil => rfl
  | cons c cs => rw [readText, if_pos (by simpa using ends)]

/-- What is read of a text is its first sentence, if no blank ends the sentence right there. -/
theorem captured_readText {sentence : Sentence} {cs : List Char}
    (goesOn : (sentence.afterPeriod && cs.head?.any Text.isBlank) = false) :
    (sentence.readText cs).captured.reverse = sentence.captured.reverse ++ firstSentence cs := by
  induction cs generalizing sentence with
  | nil => simp [readText, firstSentence]
  | cons c cs ih =>
    have here : sentence.readText (c :: cs) =
        readText ⟨c :: sentence.captured, isPeriod c, false⟩ cs := by
      rw [readText, if_neg (by simpa using goesOn)]
    rw [here, firstSentence]
    cases ends : endsSentence c cs with
    | true =>
      rw [@captured_readText_of_ends ⟨_, isPeriod c, _⟩ cs ends, List.reverse_cons]
      rfl
    | false =>
      rw [@ih ⟨_, isPeriod c, _⟩ ends, List.reverse_cons, List.append_assoc]
      rfl

end Sentence

namespace Markup

mutual

theorem Node.readSentence_eq {sentence : Sentence} (goesOn : sentence.ended = false) :
    (node : Node) → node.readSentence sentence = sentence.readText node.rawText
  | .element _ _ children => by
    rw [Node.readSentence, Node.rawText, readSentenceIn_eq goesOn children]
  | .text _ => by rw [Node.readSentence, Node.rawText]
  | .comment _ => by rw [Node.readSentence, Node.rawText, Sentence.readText]

/-- Where reading stops in a tree, it stops in the text of the tree. -/
theorem readSentenceIn_eq {sentence : Sentence} (goesOn : sentence.ended = false) :
    (nodes : List Node) → readSentenceIn sentence nodes = sentence.readText (rawTextOf nodes)
  | [] => by rw [readSentenceIn, rawTextOf, Sentence.readText]
  | node :: rest => by
    rw [readSentenceIn, rawTextOf, Sentence.readText_append goesOn,
      Node.readSentence_eq goesOn node]
    split
    · rfl
    next more => exact readSentenceIn_eq (Bool.eq_false_iff.mpr more) rest

end

theorem Element.summary_eq (e : Element) :
    e.summary = String.ofList (Text.normalize (firstSentence e.rawText)) := by
  rw [summary, readSentenceIn_eq rfl, Sentence.captured_readText rfl]
  rfl

end Markup

end DocIndex
