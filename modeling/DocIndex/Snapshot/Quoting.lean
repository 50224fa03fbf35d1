/-!
# Quoted atoms and strings

Atoms and strings as a snapshot writes them. A plain atom is a word of ASCII letters, digits and
underscores that begins with a small letter, and needs no quotes.
-/

namespace DocIndex.Snapshot

def escape (quote c : Char) : List Char :=
  if c = '\\' then ['\\', '\\']
  else if c = '\n' then ['\\', 'n']
  else if c = '\t' then ['\\', 't']
  else if c = '\r' then ['\\', 'r']
  else if c = quote then ['\\', c]
  else [c]

def quoteWith (quote : Char) (cs : List Char) : List Char :=
  quote :: cs.flatMap (escape quote) ++ [quote]

def isPlainAtom : List Char → Bool
  | [] => false
  | c :: cs => c.isLower && cs.all fun c => c.isAlphanum || c == '_'

/-- An atom, in quotes unless it is plain. -/
def quoteAtom (cs : List Char) : List Char :=
  if isPlainAtom cs then cs else quoteWith '\'' cs

def quoteString (cs : List Char) : List Char :=
  quoteWith '"' cs

end DocIndex.Snapshot
