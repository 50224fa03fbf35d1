import DocIndex.Text.Alphabetic
import DocIndex.Text.Blank
import DocIndex.Text.Digits
import DocIndex.Text.Lowercase
import DocIndex.Text.Numeric
import DocIndex.Text.Quoted

/-!
# Tokens of a snapshot line

A line is a sequence of tokens with blanks between them. Atoms and strings may be quoted; within
quotes a backslash escapes the next character and a quote written twice stands for itself.
-/

namespace DocIndex.Snapshot

inductive Token where
  | atom (text : String)
  | var (name : String)
  | int (value : Nat)
  | string (text : String)
  | lparen
  | rparen
  | comma
  | colon
  | slash
  | doubleSlash
  /-- The dot that ends a record. -/
  | stop
deriving DecidableEq, Repr

/-- How messages name a token. -/
def Token.description : Token → String
  | atom text => "Atom(" ++ Text.quoted text ++ ")"
  | var name => "Var(" ++ Text.quoted name ++ ")"
  | int value => "Int(" ++ String.ofList (Text.decimal value) ++ ")"
  | string text => "Str(" ++ Text.quoted text ++ ")"
  | lparen => "Open"
  | rparen => "Close"
  | comma => "Comma"
  | colon => "Colon"
  | slash => "Slash"
  | doubleSlash => "DoubleSlash"
  | stop => "End"

/-- Why no token can be read. -/
inductive LexicalError where
  | unterminatedQuote
  | integerRange
  | unexpected (c : Char)
deriving DecidableEq, Repr

def LexicalError.message : LexicalError → String
  | unterminatedQuote => "unterminated quoted text"
  | integerRange => "integer out of range"
  | unexpected c => "unexpected character " ++ Text.quotedChar c

def isWordStart (c : Char) : Bool :=
  Text.isAlphabetic c || c == '_'

def isWordPart (c : Char) : Bool :=
  Text.isAlphabetic c || Text.isNumeric c || c == '_'

def unescape (c : Char) : Char :=
  if c = 'n' then '\n' else if c = 't' then '\t' else if c = 'r' then '\r' else c

/-- Reads on behind an opening quote: the text, and what follows the closing quote. -/
def readQuoted? (quote : Char) : List Char → Option (List Char × List Char)
  | [] => none
  | c :: cs =>
    if c = '\\' then
      match cs with
      | [] => none
      | d :: rest => (readQuoted? quote rest).map fun read => (unescape d :: read.1, read.2)
    else if c = quote then
      match cs with
      | [] => some ([], [])
      | d :: rest =>
        if d = quote then (readQuoted? quote rest).map fun read => (quote :: read.1, read.2)
        else some ([], d :: rest)
    else (readQuoted? quote cs).map fun read => (c :: read.1, read.2)

theorem length_of_readQuoted? {quote : Char} {cs : List Char} {read : List Char × List Char}
    (h : readQuoted? quote cs = some read) : read.2.length < cs.length := by
  fun_induction readQuoted? quote cs generalizing read with
  | case1 => contradiction
  | case2 => contradiction
  | case3 d rest ih =>
    obtain ⟨inner, found, rfl⟩ := Option.map_eq_some_iff.mp h
    have := ih found
    simp only [List.length_cons]
    omega
  | case4 => simp [← Option.some.inj h]
  | case5 rest _ ih =>
    obtain ⟨inner, found, rfl⟩ := Option.map_eq_some_iff.mp h
    have := ih found
    simp only [List.length_cons]
    omega
  | case6 => simp [← Option.some.inj h]
  | case7 d rest _ _ ih =>
    obtain ⟨inner, found, rfl⟩ := Option.map_eq_some_iff.mp h
    have := ih found
    simp only [List.length_cons]
    omega

/-- The tokens of one character that nothing else begins with. -/
def punctuation? (c : Char) : Option Token :=
  match c with
  | '(' => some .lparen
  | ')' => some .rparen
  | ',' => some .comma
  | ':' => some .colon
  | _ => none

def slashToken : List Char → Token × List Char
  | '/' :: rest => (.doubleSlash, rest)
  | cs => (.slash, cs)

/-- The token of quoted text: a string in double quotes, an atom in single ones. -/
def quotedToken (quote : Char) (text : List Char) : Token :=
  if quote = '"' then .string (String.ofList text) else .atom (String.ofList text)

def integerToken? (digits : List Char) : Option Token :=
  (Text.decimal? digits).bind fun n => if n < UInt64.size then some (.int n) else none

/-- The token of a word: an atom if it begins with a small letter. -/
def wordToken (word : List Char) : Token :=
  if word.head?.any Text.isLowercase then .atom (String.ofList word)
  else .var (String.ofList word)

/-- The token that begins with a character that is not blank, and what follows it. -/
def firstToken (c : Char) (cs : List Char) : Except LexicalError (Token × List Char) :=
  match punctuation? c with
  | some token => .ok (token, cs)
  | none =>
    if c = '/' then .ok (slashToken cs)
    else if c = '.' ∧ cs.head?.all Text.isBlank then .ok (.stop, cs)
    else if c = '\'' ∨ c = '"' then
      match readQuoted? c cs with
      | some read => .ok (quotedToken c read.1, read.2)
      | none => .error .unterminatedQuote
    else if c.isDigit then
      match integerToken? (c :: cs.takeWhile Char.isDigit) with
      | some token => .ok (token, cs.dropWhile Char.isDigit)
      | none => .error .integerRange
    else if isWordStart c then
      .ok (wordToken (c :: cs.takeWhile isWordPart), cs.dropWhile isWordPart)
    else .error (.unexpected c)

theorem length_slashToken_le (cs : List Char) : (slashToken cs).2.length ≤ cs.length := by
  unfold slashToken
  split
  · exact Nat.le_succ _
  · exact Nat.le_refl _

theorem length_firstToken_le {c : Char} {cs : List Char} {read : Token × List Char}
    (h : firstToken c cs = .ok read) : read.2.length ≤ cs.length := by
  unfold firstToken at h
  split at h
  · exact Except.ok.inj h ▸ Nat.le_refl _
  · split at h
    · exact Except.ok.inj h ▸ length_slashToken_le cs
    split at h
    · exact Except.ok.inj h ▸ Nat.le_refl _
    split at h
    · split at h
      next quoted => exact Except.ok.inj h ▸ Nat.le_of_lt (length_of_readQuoted? quoted)
      next => contradiction
    split at h
    · split at h
      · exact Except.ok.inj h ▸ Text.length_dropWhile_le _ _
      · contradiction
    split at h
    · exact Except.ok.inj h ▸ Text.length_dropWhile_le _ _
    · contradiction

/-- The tokens of a text that begins behind this many characters of the line, each with the number
of characters before it; an error comes with the number of characters before it. -/
def tokensFrom (before : Nat) (cs : List Char) :
    Except (Nat × LexicalError) (List (Nat × Token)) :=
  match cs with
  | [] => .ok []
  | c :: cs =>
    if Text.isBlank c then tokensFrom (before + 1) cs
    else
      match _h : firstToken c cs with
      | .error e => .error (before, e)
      | .ok read =>
        (tokensFrom (before + (cs.length + 1 - read.2.length)) read.2).map ((before, read.1) :: ·)
termination_by cs.length
decreasing_by
  · simp
  · have := length_firstToken_le _h
    simp only [List.length_cons]
    omega

def tokens (line : List Char) : Except (Nat × LexicalError) (List (Nat × Token)) :=
  tokensFrom 0 line

end DocIndex.Snapshot
