import DocIndex.Command.Arguments
import DocIndex.Service

/-!
# The command line

What a call of the program prints, how it ends, and what it leaves on the disk.
-/

namespace DocIndex.Command

structure Ending where
  status : Nat
  output : String
  /-- What is printed for the reader of errors, behind the log. -/
  errors : String
  log : Log
  disk : Disk

def defaultSnapshot : Path := "manindex.db"

def configOf (working : Path) (values : Values) : Config :=
  let root (option : ValueOption) (pageClass : PageClass) : Option Root :=
    (values.lookup option).map fun directory => Root.make working pageClass directory
  { roots := [root .manual .manual, root .packages .packages, root .misc .misc].filterMap id
    snapshot := ((values.lookup .index).map Path.ofText).getD defaultSnapshot }

/-- A record on one line: its object, its place and its summary. A section goes by its label. -/
def recordLine (record : Record) : String :=
  let name := match record.object with
    | .heading _ _ label _ => label
    | object => object.surface
  name ++ "\t" ++ record.file.text ++ ":" ++ String.ofList (Text.decimal record.offset) ++ "\t" ++
    record.summary

def printLines (lines : List String) : String :=
  String.join (lines.map (· ++ "\n"))

/-- The summary of the object that a text identifies, or else of the section with that label. -/
def summaryOf? (store : Store) (text : String) : Option String :=
  ((Object.ofIdentifier text).toOption.bind store.summary?).or
    ((store.find (Pattern.labelled text)).head?.map Record.summary)

def success (output : String) (outcome : Outcome Held) : Ending :=
  ⟨0, output, "", outcome.log, outcome.disk⟩

def reportSize (outcome : Outcome Held) : Ending :=
  success (printLines [String.ofList (Text.decimal outcome.result.store.size) ++ " records"])
    outcome

def find (service : Service) (disk : Disk) (text : String) : Ending :=
  match Pattern.ofText text with
  | .error failure =>
    ⟨1, "", printLines
      ["Error: invalid pattern: " ++ text, "", "Caused by:", "    " ++ failure.message], [], disk⟩
  | .ok pattern =>
    let outcome := service.loadOrBuild disk
    let found := outcome.result.store.find pattern
    { success (printLines (found.map recordLine)) outcome with
      status := if found.isEmpty then 1 else 0 }

def summary (service : Service) (disk : Disk) (text : String) : Ending :=
  let outcome := service.loadOrBuild disk
  match summaryOf? outcome.result.store text with
  | some summary => success (printLines [summary]) outcome
  | none =>
    ⟨1, "", printLines ["manindex: " ++ text ++ " is not documented"], outcome.log,
      outcome.disk⟩

def checkIds (service : Service) (disk : Disk) : Ending :=
  let outcome := service.checkIds disk
  ⟨if outcome.result.isEmpty then 0 else 1, printLines outcome.result, "", outcome.log,
    outcome.disk⟩

def file (service : Service) (disk : Disk) (page : Path) (pageClass : PageClass) : Ending :=
  if disk.isFile page then
    let absolute := (Path.absolute? disk.workingPath page).getD page
    let found := indexFile disk service.config.roots pageClass absolute
    ⟨0, printLines (found.records.map recordLine), "", found.log, disk⟩
  else ⟨1, "", printLines ["Error: no such file: " ++ page.text], [], disk⟩

def answer (service : Service) (disk : Disk) : Request → Ending
  | .build => reportSize (service.loadOrBuild disk)
  | .rebuild => reportSize (service.rebuild disk)
  | .find pattern => find service disk pattern
  | .summary object => summary service disk object
  | .checkIds => checkIds service disk
  | .dump =>
    let outcome := service.loadOrBuild disk
    success outcome.result.store.snapshot outcome
  | .file page pageClass => file service disk page pageClass

def helpText : String :=
  printLines
    ["Index HTML reference manuals by documented predicate, function and section", "",
     "Usage: manindex [OPTIONS] <COMMAND>", "",
     "Commands:",
     "  build      Load the snapshot or scan the roots, then report the record count",
     "  rebuild    Delete the snapshot and scan the roots again",
     "  find       List records matching a pattern",
     "  summary    Print the summary of one object or section id",
     "  check-ids  Report section ids used more than once",
     "  dump       Write the index in snapshot format",
     "  file       Index a single page and print its records", "",
     "Options:",
     "      --manual <MANUAL>      Root of the core manual pages",
     "      --packages <PACKAGES>  Root of the package documentation pages",
     "      --misc <MISC>          Root of any other pages",
     "      --index <INDEX>        Snapshot file",
     "  -v, --verbose              Report progress, and twice also details",
     "  -h, --help                 Print help"]

/-- The answer to a call, which finds pages as the caller says. -/
def run (glob : Glob) (disk : Disk) (environment : String → Option String)
    (arguments : List String) : Ending :=
  match readCall arguments environment with
  | .error .help => ⟨0, helpText, "", [], disk⟩
  | .error (.usage error) => ⟨2, "", printLines ["error: " ++ error.message], [], disk⟩
  | .ok call =>
    let ending := answer (Service.make glob (configOf disk.workingPath call.values)) disk call.request
    { ending with log := ending.log.filter (·.isShown call.verbosity) }

end DocIndex.Command
