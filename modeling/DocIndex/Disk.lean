import DocIndex.Path

/-!
# A disk

A tree of directories and files, and what happens when a program asks for something at a path. Each
operation finds its way along the parts of the path, each of which but the last must lead to a
directory, and either succeeds or gives the fault for which it did not.

A file may have several names, and what is written under one of them is read under all. The system
may refuse whatever it likes, at each location for itself, and a file may run out of room while it is
written. There are no symbolic links.
-/

namespace DocIndex

/-- Why a file or a directory cannot be used. -/
inductive Fault where
  | notFound
  | refused
  | busy
  | alreadyThere
  | notDirectory
  | isDirectory
  | noRoom
  | nameTooLong
  | invalidText
  | zeroCharacter
deriving DecidableEq, Repr

def Fault.message : Fault → String
  | notFound => "No such file or directory (os error 2)"
  | refused => "Permission denied (os error 13)"
  | busy => "Device or resource busy (os error 16)"
  | alreadyThere => "File exists (os error 17)"
  | notDirectory => "Not a directory (os error 20)"
  | isDirectory => "Is a directory (os error 21)"
  | noRoom => "No space left on device (os error 28)"
  | nameTooLong => "File name too long (os error 36)"
  | invalidText => "stream did not contain valid UTF-8"
  | zeroCharacter => "file name contained an unexpected NUL byte"

/-- The names on the way from the root of the disk. -/
abbrev Location := List FileName

/-- What stands under a name. The names of one file have a number in common. -/
inductive Entry where
  | directory
  | file (content : ByteArray)
  | shared (number : Nat) (content : ByteArray)

namespace Entry

def content? : Entry → Option ByteArray
  | directory => none
  | file content | shared _ content => some content

def isSameFile : Entry → Entry → Bool
  | shared number _, shared other _ => number = other
  | _, _ => false

def rewrite (number : Nat) (content : ByteArray) : Entry → Entry
  | shared n old => if n = number then shared n content else shared n old
  | entry => entry

end Entry

/-- What a program may do at a location. -/
inductive Action where
  /-- To go through a directory. -/
  | search
  | read
  /-- To make a file or a directory. -/
  | make
  | write
  /-- To move a file away or to put a file that is moved here. -/
  | move
  | remove
deriving DecidableEq, Repr

/-- What the system does not let a program do, whatever stands on the disk. -/
structure Limits where
  refuses : Action → Location → Bool
  /-- How many bytes a file takes, if there is an end to it. -/
  room : Option Nat

namespace Limits

def none : Limits := ⟨fun _ _ => false, .none⟩

/-- As much of a content as there is room for, and the fault if that is not all. -/
def cut (limits : Limits) (content : ByteArray) : ByteArray × Option Fault :=
  match limits.room with
  | .none => (content, .none)
  | some room =>
    if content.size ≤ room then (content, .none) else (content.extract 0 room, some .noRoom)

theorem cut_of_whole {limits : Limits} {content : ByteArray}
    (whole : (limits.cut content).2 = .none) : (limits.cut content).1 = content := by
  unfold cut at whole ⊢
  split
  next => rfl
  next room isRoom =>
    rw [isRoom] at whole
    split
    next => rfl
    next more => simp [more] at whole

end Limits

/-- The entries of a disk below its root, and the working directory. -/
structure Disk where
  entries : List (Location × Entry)
  working : Location
  limits : Limits

namespace Disk

/-- A disk on which nothing is refused. -/
def free (entries : List (Location × Entry)) (working : Location) : Disk :=
  ⟨entries, working, .none⟩

/-- What stands at a location. The root is always there. -/
def get? (disk : Disk) (location : Location) : Option Entry :=
  if location = [] then some .directory else disk.entries.lookup location

def erase (disk : Disk) (location : Location) : Disk :=
  { disk with entries := disk.entries.filter (·.1 ≠ location) }

def put (disk : Disk) (location : Location) (entry : Entry) : Disk :=
  { disk with entries := (location, entry) :: (disk.erase location).entries }

/-- Gives the file at a location this content, under all its names. -/
def fill (disk : Disk) (location : Location) (content : ByteArray) : Disk :=
  match disk.get? location with
  | some (.shared number _) =>
    { disk with entries := disk.entries.map fun (place, entry) =>
        (place, entry.rewrite number content) }
  | _ => disk.put location (.file content)

@[simp] theorem get?_root (disk : Disk) : disk.get? [] = some .directory := rfl

theorem get?_erase_self {location : Location} (named : location ≠ []) (disk : Disk) :
    (disk.erase location).get? location = none := by
  have absent : (disk.erase location).entries.lookup location = none := by
    simp only [erase, List.lookup_eq_none_iff, List.mem_filter]
    intro entry kept
    exact bne_iff_ne.mpr (Ne.symm (of_decide_eq_true kept.2))
  simp only [get?, named, if_false, absent]

theorem get?_erase_of_ne {location other : Location} (distinct : other ≠ location)
    (disk : Disk) : (disk.erase location).get? other = disk.get? other := by
  have kept : (disk.erase location).entries.lookup other = disk.entries.lookup other := by
    simp only [erase]
    induction disk.entries with
    | nil => rfl
    | cons entry rest ih =>
      obtain ⟨place, entry⟩ := entry
      by_cases here : place = location
      · subst here
        simpa [List.lookup_cons, beq_eq_false_iff_ne.mpr distinct] using ih
      · simp_all [List.lookup_cons]
  simp only [get?, kept]

theorem get?_put_self {location : Location} (named : location ≠ []) (disk : Disk)
    (entry : Entry) : (disk.put location entry).get? location = some entry := by
  simp [get?, put, named]

theorem get?_put_of_ne {location other : Location} (distinct : other ≠ location) (disk : Disk)
    (entry : Entry) : (disk.put location entry).get? other = disk.get? other := by
  rw [← get?_erase_of_ne distinct disk]
  simp [get?, put, List.lookup_cons, beq_eq_false_iff_ne.mpr distinct]

def workingPath (disk : Disk) : Path :=
  ⟨Path.slash :: [Path.slash].intercalate disk.working⟩

/-! ### Finding the way -/

def maxNameSize : Nat := 255

def maxPathSize : Nat := 4095

/-- Whether the system lets a program do this at a location. -/
def permit (disk : Disk) (action : Action) (location : Location) : Except Fault Unit :=
  if disk.limits.refuses action location then .error .refused else .ok ()

/-- A directory is at this location, and may be gone through. -/
def enter (disk : Disk) (location : Location) : Except Fault Unit :=
  match disk.get? location with
  | none => .error .notFound
  | some .directory => disk.permit .search location
  | some _ => .error .notDirectory

/-- The location to which one part of a path leads from a directory. -/
def step (location : Location) (part : FileName) : Except Fault Location :=
  if part = .here then .ok location
  else if part = .parent then .ok location.dropLast
  else if part.length ≤ maxNameSize then .ok (location ++ [part])
  else .error .nameTooLong

def follow (disk : Disk) (location : Location) : List FileName → Except Fault Location
  | [] => .ok location
  | part :: rest => do
    disk.enter location
    follow disk (← step location part) rest

/-- A path that the operating system takes at all. -/
def check (path : Path) : Except Fault Unit :=
  if path.bytes.contains 0 then .error .zeroCharacter
  else if path.bytes.isEmpty then .error .notFound
  else if path.bytes.length ≤ maxPathSize then .ok ()
  else .error .nameTooLong

def start (disk : Disk) (path : Path) : Location :=
  if path.isAbsolute then [] else disk.working

/-- What a path leads to. A slash at the end asks for a directory. -/
def find (disk : Disk) (path : Path) : Except Fault (Location × Entry) := do
  check path
  let location ← disk.follow (disk.start path) path.parts
  match disk.get? location with
  | none => throw .notFound
  | some .directory => return (location, .directory)
  | some entry => if path.endsInSlash then throw .notDirectory else return (location, entry)

def lastName? (path : Path) : Option FileName :=
  path.parts.getLast?.filter fun part => part ≠ .here && part ≠ .parent

/-- The directory in which the last part of a path stands. -/
def findParent (disk : Disk) (path : Path) : Except Fault Location := do
  check path
  let location ← disk.follow (disk.start path) path.parts.dropLast
  disk.enter location
  return location

def isFile (disk : Disk) (path : Path) : Bool :=
  match disk.find path with
  | .ok (_, entry) => entry.content?.isSome
  | .error _ => false

def isDirectory (disk : Disk) (path : Path) : Bool :=
  match disk.find path with
  | .ok (_, .directory) => true
  | _ => false

def has (disk : Disk) (path : Path) : Bool :=
  (disk.find path).isOk

/-! ### Reading -/

def readBytes (disk : Disk) (path : Path) : Except Fault ByteArray := do
  let (location, entry) ← disk.find path
  disk.permit .read location
  match entry.content? with
  | some content => return content
  | none => throw .isDirectory

/-- The text of a file, which must be UTF-8. -/
def readText (disk : Disk) (path : Path) : Except Fault String := do
  match String.fromUTF8? (← disk.readBytes path) with
  | some text => return text
  | none => throw .invalidText

def filesBelow (disk : Disk) (location : Location) : List Location :=
  disk.entries.filterMap fun entry =>
    match entry.2 with
    | .directory => none
    | .file _ | .shared .. =>
      if location.isPrefixOf entry.1 then some (entry.1.drop location.length) else none

/-! ### Writing -/

/-- Makes a directory in one that is there. -/
def makeDirectory (disk : Disk) (path : Path) : Except Fault Disk := do
  let parent ← disk.findParent path
  match lastName? path with
  | none => throw .alreadyThere
  | some name =>
    let location ← step parent name
    match disk.get? location with
    | some _ => throw .alreadyThere
    | none =>
      disk.permit .make location
      return disk.put location .directory

/-- Opens a file for writing, which need not be there: its location. -/
def openFile (disk : Disk) (path : Path) : Except Fault Location := do
  let parent ← disk.findParent path
  match lastName? path with
  | none => throw .isDirectory
  | some name =>
    if path.endsInSlash then throw .isDirectory
    else
      let location ← step parent name
      match disk.get? location with
      | some .directory => throw .isDirectory
      | some _ =>
        disk.permit .write location
        return location
      | none =>
        disk.permit .make location
        return location

/-- Writes a file. When there is no room for all of it, the beginning stays. -/
def writeFile (disk : Disk) (path : Path) (content : ByteArray) : Disk × Option Fault :=
  match disk.openFile path with
  | .error fault => (disk, some fault)
  | .ok location =>
    let written := disk.limits.cut content
    (disk.fill location written.1, written.2)

def removeFile (disk : Disk) (path : Path) : Except Fault Disk := do
  let parent ← disk.findParent path
  match lastName? path with
  | none => throw .isDirectory
  | some name =>
    let location ← step parent name
    match disk.get? location with
    | none => throw .notFound
    | some .directory => throw .isDirectory
    | some _ =>
      if path.endsInSlash then throw .notDirectory
      else
        disk.permit .remove location
        return disk.erase location

/-- Removes one name of a file, if that can be done. -/
def discard (disk : Disk) (path : Path) : Disk :=
  (disk.removeFile path).toOption.getD disk

/-- Moves a file to a path, where it takes the place of a file. Two names of one file both stay. -/
def moveFile (disk : Disk) (source target : Path) : Except Fault Disk := do
  let sourceParent ← disk.findParent source
  let targetParent ← disk.findParent target
  match lastName? source, lastName? target with
  | some sourceName, some targetName =>
    let sourceLocation ← step sourceParent sourceName
    let targetLocation ← step targetParent targetName
    match disk.get? sourceLocation, disk.get? targetLocation with
    | none, _ => throw .notFound
    | some .directory, _ => throw .isDirectory
    | some entry, existing =>
      if source.endsInSlash || target.endsInSlash then throw .notDirectory
      else if existing.any entry.isSameFile then return disk
      else
        match existing with
        | some .directory => throw .isDirectory
        | _ =>
          disk.permit .move sourceLocation
          disk.permit .move targetLocation
          return (disk.erase sourceLocation).put targetLocation entry
  | _, _ => throw .busy

/-- Makes the directory at the first of these paths, the others of which lead to it. What was made
stays when a fault ends the work. -/
def makeDirectoriesAlong (disk : Disk) : List Path → Disk × Option Fault
  | [] => (disk, none)
  | path :: front =>
    match disk.makeDirectory path with
    | .ok made => (made, none)
    | .error .notFound =>
      match disk.makeDirectoriesAlong front with
      | (made, some fault) => (made, some fault)
      | (made, none) =>
        match made.makeDirectory path with
        | .ok whole => (whole, none)
        | .error fault => (made, if made.isDirectory path then none else some fault)
    | .error fault => (disk, if disk.isDirectory path then none else some fault)

def makeDirectories (disk : Disk) (path : Path) : Disk × Option Fault :=
  disk.makeDirectoriesAlong path.along

def makeParents (disk : Disk) (path : Path) : Disk × Option Fault :=
  disk.makeDirectoriesAlong path.along.tail

/-- Removes what a path leads to, with everything below it. -/
def removeAll (disk : Disk) (path : Path) : Disk :=
  match disk.find path with
  | .error _ => disk
  | .ok (location, _) =>
    { disk with entries := disk.entries.filter (!location.isPrefixOf ·.1) }

end Disk

end DocIndex
