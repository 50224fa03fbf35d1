import DocIndex.Text.Blank

/-!
# Lines

A line ends at a line feed, which a carriage return may precede; the last line may lack its end.
-/

namespace DocIndex.Text

/-- Drops one carriage return from the end of a line. -/
def chomp (line : List Char) : List Char :=
  if line.getLast? = some '\r' then line.dropLast else line

/-- The lines of a text without their ends. A text that ends in a line feed has no empty line
behind it. -/
def lines (cs : List Char) : List (List Char) :=
  match cs with
  | [] => []
  | c :: rest =>
    let line := (c :: rest).takeWhile (· != '\n')
    match _h : (c :: rest).dropWhile (· != '\n') with
    | [] => [line]
    | _ :: after => chomp line :: lines after
termination_by cs.length
decreasing_by
  have dropped := length_dropWhile_le (· != '\n') (c :: rest)
  simp_all only [List.length_cons]
  omega

def lineTexts (s : String) : List String :=
  (lines s.toList).map String.ofList

end DocIndex.Text
