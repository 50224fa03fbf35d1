import DocIndex.Text.Utf8

/-!
# Paths

A path is what the operating system takes: bytes, which need not be UTF-8, with slashes between the
names. It is held as given and denotes a list of components: doubled slashes, a slash at the end and
dots behind the first component make no difference to it. Paths are ordered by their components.
Where a path is shown, what is not UTF-8 in it is replaced.
-/

namespace DocIndex

/-- A name in a directory, as the system has it. -/
abbrev FileName := List UInt8

namespace FileName

def ofText (text : String) : FileName :=
  Text.toBytes text.toList

def text (name : FileName) : String :=
  String.ofList (Text.ofBytes name)

/-- The name of a directory in itself. -/
def here : FileName := [0x2E]

/-- The name that leads to the directory in which a directory stands. -/
def parent : FileName := [0x2E, 0x2E]

end FileName

structure Path where
  bytes : List UInt8
deriving DecidableEq, Repr

inductive Component where
  | root
  | here
  | parent
  | name (name : FileName)
deriving DecidableEq, Repr

namespace Component

def text : Component → String
  | root => "/"
  | here => "."
  | parent => ".."
  | .name s => FileName.text s

def compare : Component → Component → Ordering
  | root, root => .eq
  | root, _ => .lt
  | here, root => .gt
  | here, here => .eq
  | here, _ => .lt
  | parent, name _ => .lt
  | parent, parent => .eq
  | parent, _ => .gt
  | name a, name b => Ord.compare a b
  | name _, _ => .gt

/-- The component that a part of a path between slashes denotes, if it is not a dot. -/
def ofPart? (part : FileName) : Option Component :=
  if part = .here then none else if part = .parent then some parent else some (name part)

end Component

namespace Path

def slash : UInt8 := 0x2F

def ofText (text : String) : Path :=
  ⟨FileName.ofText text⟩

instance : Coe String Path := ⟨ofText⟩

/-- The path as it is shown. -/
def text (path : Path) : String :=
  FileName.text path.bytes

/-- What stands between the slashes of a path, the empty names at doubled slashes too. -/
def segments (path : Path) : List FileName :=
  path.bytes.splitOnP (· == slash)

def ofSegments (segments : List FileName) : Path :=
  ⟨[slash].intercalate segments⟩

def parts (path : Path) : List FileName :=
  path.segments.filter (!·.isEmpty)

def isAbsolute (path : Path) : Bool :=
  path.bytes.head? == some slash

def endsInSlash (path : Path) : Bool :=
  path.bytes.getLast? == some slash

/-- The components that a path denotes. A dot counts at the start of a relative path only. -/
def components (path : Path) : List Component :=
  let behind := path.parts.filterMap Component.ofPart?
  if path.isAbsolute then .root :: behind
  else if path.parts.head? = some .here then .here :: behind
  else behind

def same (a b : Path) : Bool :=
  a.components = b.components

/-- The order of the components, the first difference deciding. -/
def compare (a b : Path) : Ordering :=
  compareLists a.components b.components
where
  compareLists : List Component → List Component → Ordering
    | [], [] => .eq
    | [], _ :: _ => .lt
    | _ :: _, [] => .gt
    | a :: as, b :: bs => (a.compare b).then (compareLists as bs)

/-- The paths that end behind one of these segments, which stand in reverse. Those that end behind an
empty segment or a dot are no others. -/
def alongSegments : List FileName → List Path
  | [] => []
  | segment :: front =>
    if segment = [] ∨ segment = .here then alongSegments front
    else ofSegments (segment :: front).reverse :: alongSegments front

/-- A path without what its last part has behind it, and the paths on the way to it. The last comes
first, and each is a part of what was given. -/
def along (path : Path) : List Path :=
  alongSegments path.segments.reverse

/-- The path with more parts behind it, which no bytes make a slash at the end. -/
def join (path : Path) (behind : List UInt8) : Path :=
  if path.endsInSlash then ⟨path.bytes ++ behind⟩ else ⟨path.bytes ++ slash :: behind⟩

/-- What the parts of an absolute path are joined to. Two slashes at the start are not the same as
one or as three. -/
def rootPath (path : Path) : Path :=
  if path.bytes.takeWhile (· == slash) = [slash, slash] then ⟨[slash, slash]⟩ else ⟨[slash]⟩

/-- The path made absolute in a working directory. Parent components stay, and so does a slash at
the end. The empty path has no absolute form. -/
def absolute? (directory path : Path) : Option Path :=
  if path.bytes.isEmpty then none
  else
    let start := if path.isAbsolute then path.rootPath else directory
    let whole := (path.parts.filter (· ≠ .here)).foldl join start
    some (if path.endsInSlash && !whole.endsInSlash then whole.join [] else whole)

end Path

/-- The text of a path, which is all that a record keeps of it. -/
structure PathText where
  text : String
deriving DecidableEq, Repr

/-- Whether two texts spell the same components. -/
def PathText.same (a b : PathText) : Bool :=
  (Path.ofText a.text).same (Path.ofText b.text)

def Path.shown (path : Path) : PathText :=
  ⟨path.text⟩

end DocIndex
