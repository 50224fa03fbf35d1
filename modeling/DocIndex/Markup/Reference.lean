import DocIndex.Text.Digits
import DocIndex.Text.Blank

/-!
# Character references

A reference stands between an ampersand and a semicolon and names one character: by a name of a
fixed table, or by its code point in decimal or hexadecimal digits. Decoding replaces references
and keeps everything else as it is, unknown references included.
-/

namespace DocIndex.Markup

def referenceNames : List (String × Char) :=
  [("lt", '<'), ("gt", '>'), ("amp", '&'), ("quot", '"'), ("apos", '\''), ("nbsp", '\u00a0'),
   ("copy", '\u00a9'), ("reg", '\u00ae'), ("trade", '\u2122'), ("deg", '\u00b0'),
   ("times", '\u00d7'), ("middot", '\u00b7'), ("bull", '\u2022'), ("hellip", '\u2026'),
   ("ndash", '\u2013'), ("mdash", '\u2014'), ("lsquo", '\u2018'), ("rsquo", '\u2019'),
   ("ldquo", '\u201c'), ("rdquo", '\u201d'), ("laquo", '\u00ab'), ("raquo", '\u00bb'),
   ("larr", '\u2190'), ("rarr", '\u2192')]

/-- The most bytes that may stand between the ampersand and the semicolon. -/
def maxReferenceSize : Nat := 32

def byteSize : List Char → Nat
  | [] => 0
  | c :: cs => c.utf8Size + byteSize cs

def signedNumeral? (base : Nat) : List Char → Option Nat
  | '+' :: digits => Text.numeral? base digits
  | digits => Text.numeral? base digits

/-- The character with this code point, which is none for surrogates and beyond the last one. -/
def charAt? (code : Nat) : Option Char :=
  if code.isValidChar then some (Char.ofNat code) else none

/-- The character that a reference names, given what stands between its ends. -/
def referenced? : List Char → Option Char
  | '#' :: 'x' :: hex => (signedNumeral? 16 hex).bind charAt?
  | '#' :: 'X' :: hex => (signedNumeral? 16 hex).bind charAt?
  | '#' :: decimal => (signedNumeral? 10 decimal).bind charAt?
  | name => referenceNames.lookup (String.ofList name)

/-- Reads a reference behind its ampersand: the character and what follows the semicolon. -/
def reference? (cs : List Char) : Option (Char × List Char) :=
  let body := (cs.take (maxReferenceSize + 1)).takeWhile (· != ';')
  match cs.drop body.length with
  | ';' :: rest =>
    if byteSize body ≤ maxReferenceSize then (referenced? body).map (·, rest) else none
  | _ => none

theorem length_of_reference? {cs rest : List Char} {c : Char}
    (h : reference? cs = some (c, rest)) : rest.length < cs.length := by
  simp only [reference?] at h
  split at h
  next after dropped =>
    have shorter := congrArg List.length dropped
    rw [List.length_drop, List.length_cons] at shorter
    split at h
    · obtain ⟨_, _, same⟩ := Option.map_eq_some_iff.mp h
      have : after = rest := congrArg Prod.snd same
      subst this
      omega
    · contradiction
  next => contradiction

def decode (cs : List Char) : List Char :=
  match cs with
  | [] => []
  | c :: cs =>
    if c = '&' then
      match _h : reference? cs with
      | some (d, rest) => d :: decode rest
      | none => c :: decode cs
    else c :: decode cs
termination_by cs.length
decreasing_by
  · have := length_of_reference? _h; simp only [List.length_cons]; omega
  · simp
  · simp

end DocIndex.Markup
