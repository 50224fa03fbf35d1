import DocIndex.Snapshot.Line
import DocIndex.Text.Lines

/-!
# Snapshots

A snapshot is two lines of comment and one line for each record. When it is read, blank lines and
comments count for nothing but the numbers of the lines behind them, and one bad line spoils the
whole.
-/

namespace DocIndex.Snapshot

def header : List String :=
  ["% Generated by manindex; do not edit.", "% record(Object, Summary, File, Class, Offset)."]

def isIgnorable (line : List Char) : Bool :=
  match Text.trim line with
  | [] => true
  | c :: _ => c == '%'

/-- A line that is no record, by its number from 1. -/
structure BadLine where
  line : Nat
  cause : InvalidLine
deriving DecidableEq, Repr

def write (records : List Record) : List Char :=
  (header.map String.toList ++ records.map writeRecord).flatMap (· ++ ['\n'])

def readLines (number : Nat) : List (List Char) → Except BadLine (List Record)
  | [] => .ok []
  | line :: rest =>
    if isIgnorable line then readLines (number + 1) rest
    else
      match readRecord line with
      | .error cause => .error ⟨number, cause⟩
      | .ok record => (readLines (number + 1) rest).map (record :: ·)

def read (text : List Char) : Except BadLine (List Record) :=
  readLines 1 (Text.lines text)

end DocIndex.Snapshot
