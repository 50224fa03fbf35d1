import DocIndex.Warning

/-!
# Log

What is reported of the work: its warnings, and for a reader who asks for more its progress.
`Log.warnings` is the view that callers act on. The notes stand in the order of the work.
-/

namespace DocIndex

/-- A step of the work that went well. -/
inductive Progress where
  | indexing (pages : Nat) (pageClass : PageClass) (directory : Path)
  | indexed (page : Path) (records : Nat)
  | built (records : Nat)
  | loaded (records : Nat) (snapshot : Path)
  | noSnapshot (snapshot : Path)
  | removed (snapshot : Path)
  | written (snapshot : Path)
deriving DecidableEq, Repr

namespace Progress

def countOf (records : Nat) : String :=
  String.ofList (Text.decimal records) ++ " records"

def message : Progress → String
  | indexing pages pageClass directory =>
    "indexing " ++ String.ofList (Text.decimal pages) ++ " " ++ pageClass.name ++
      " pages under " ++ directory.text
  | indexed page records => page.text ++ ": " ++ countOf records
  | built records => "index holds " ++ countOf records
  | loaded records snapshot => "loaded " ++ countOf records ++ " from " ++ snapshot.text
  | noSnapshot snapshot => "no snapshot at " ++ snapshot.text
  | removed snapshot => "removed " ++ snapshot.text
  | written snapshot => "wrote " ++ snapshot.text

def isDetail : Progress → Bool
  | indexed .. | noSnapshot _ | removed _ => true
  | _ => false

end Progress

inductive Verbosity where
  | warnings
  | progress
  | details
deriving DecidableEq, Repr

/-- How much is asked for by this number of requests for more. -/
def Verbosity.ofCount : Nat → Verbosity
  | 0 => warnings
  | 1 => progress
  | _ => details

inductive Note where
  | warning (warning : Warning)
  | progress (step : Progress)
deriving DecidableEq, Repr

namespace Note

def message : Note → String
  | warning w => w.message
  | progress step => step.message

def warning? : Note → Option Warning
  | warning w => some w
  | progress _ => none

def isShown (verbosity : Verbosity) : Note → Bool
  | warning _ => true
  | progress step =>
    match verbosity with
    | .warnings => false
    | .progress => !step.isDetail
    | .details => true

end Note

abbrev Log := List Note

namespace Log

def warnings (log : Log) : List Warning :=
  log.filterMap Note.warning?

end Log

end DocIndex
