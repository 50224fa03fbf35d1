import DocIndex.Command.Pages
import DocIndex.Command.Run

/-!
# The program

The outer layer: it copies the part of the machine's disk that a call can touch, runs the call on
the copy, prints what it answers, and writes back what it changed. The copy has what links lead to in
their place, and nothing is refused on it.
-/

namespace DocIndex

def pathOf (location : Location) : String :=
  "/" ++ "/".intercalate (location.map FileName.text)

/-- What the machine has at a location; of the content of files only that of pages is read below a
root. -/
def readEntry (location : Location) (readsContent : Bool) : IO (Option Entry) := do
  let file := (← IO.currentDir) / pathOf location
  if ← file.isDir then return some .directory
  else if ← file.pathExists then
    return some (.file (← if readsContent then IO.FS.readBinFile file else pure ByteArray.empty))
  else return none

/-- The directories and files below a location of the machine. -/
partial def readTree (location : Location) : IO (List (Location × Entry)) := do
  match ← readEntry location (location.getLast?.any Command.isPageName) with
  | none => return []
  | some .directory =>
    let directory := (← IO.currentDir) / pathOf location
    let names := (← directory.readDir).toList.map (·.fileName)
    let below ← names.mapM fun name => readTree (location ++ [.ofText name])
    return (location, .directory) :: below.flatten
  | some file => return [(location, file)]

/-- The locations on the way along the parts of a path. -/
def onTheWay (location : Location) : List FileName → List Location
  | [] => [location]
  | part :: rest =>
    match Disk.step location part with
    | .ok next => location :: onTheWay next rest
    | .error _ => [location]

def waypoints (working : Location) (path : Path) : List Location :=
  onTheWay (if path.isAbsolute then [] else working) path.parts

/-- The paths at which a request reads one file. -/
def Command.Request.files : Command.Request → List Path
  | .file page _ => [page]
  | _ => []

/-- Copies what a call can touch. -/
def readDisk (working : Location) (call : Command.Call) : IO Disk := do
  let config := Command.configOf (pathOf working) call.values
  let files := [config.snapshot, config.snapshot.temporary] ++ call.request.files
  let directories := config.roots.map Root.directory
  let shallow := onTheWay [] working ++ (files ++ directories).flatMap (waypoints working)
  let near ← shallow.filterMapM fun location => do
    return (← readEntry location true).map (location, ·)
  let deep ← directories.mapM fun directory =>
    readTree ((waypoints working directory).getLast?.getD [])
  let entries := (near ++ deep.flatten).filter (!·.1.isEmpty)
  return entries.foldr (fun entry disk => disk.put entry.1 entry.2) (.free [] working)

/-- Writes back one entry that a call changed. -/
def writeEntry (before : Disk) (location : Location) (entry : Entry) : IO Unit := do
  let path := pathOf location
  match entry.content?, (before.get? location).map Entry.content? with
  | none, some none => return
  | none, _ => IO.FS.createDirAll path
  | some content, some (some old) =>
    if content == old then return else IO.FS.writeBinFile path content
  | some content, _ => IO.FS.writeBinFile path content

def writeDisk (before after : Disk) : IO Unit := do
  for (location, entry) in after.entries.reverse do
    writeEntry before location entry
  for (location, _) in before.entries do
    if (after.get? location).isNone then IO.FS.removeFile (pathOf location)

/-- The variables of the environment that options may be taken from. -/
def readEnvironment : IO (List (String × String)) :=
  (Command.ValueOption.general.filterMap Command.ValueOption.variableName?).filterMapM fun name => do
    return (← IO.getEnv name).map (name, ·)

def runProgram (arguments : List String) : IO UInt32 := do
  let settings ← readEnvironment
  let environment (name : String) := settings.lookup name
  let working := (Path.ofText (← IO.currentDir).toString).parts
  let before ← match Command.readCall arguments environment with
    | .ok call => readDisk working call
    | .error _ => pure (.free [] working)
  let ending := Command.run Command.htmlBelow before environment arguments
  writeDisk before ending.disk
  for note in ending.log do
    IO.eprintln note.message
  IO.eprint ending.errors
  IO.print ending.output
  return UInt32.ofNat ending.status

end DocIndex

def main (arguments : List String) : IO UInt32 :=
  DocIndex.runProgram arguments
