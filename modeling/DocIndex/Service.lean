import DocIndex.Corpus

/-!
# The index service

A service holds the index once it is needed: it reads the snapshot file or, when that cannot be
done, scans all pages and writes the snapshot. What it holds it gives to every caller until it is
reset or rebuilds. The file of a snapshot is written beside its place first and moved there when
it is whole.
-/

namespace DocIndex

/-- The path at which a snapshot is written before it is moved to its place. -/
def Path.temporary (path : Path) : Path :=
  ⟨path.bytes ++ FileName.ofText ".tmp"⟩

namespace Store

def load (disk : Disk) (path : Path) : Except SnapshotError Store :=
  match disk.readText path with
  | .error fault => .error (.access path fault)
  | .ok text =>
    match ofSnapshot text with
    | .error bad => .error (.invalid path bad)
    | .ok store => .ok store

/-- Writes a snapshot file in a directory that is there. When that fails, the file beside its place is
discarded. -/
def replaceFile (disk : Disk) (path : Path) (content : ByteArray) : Disk × Option Fault :=
  match disk.writeFile path.temporary content with
  | (written, some fault) => (written.discard path.temporary, some fault)
  | (written, none) =>
    match written.moveFile path.temporary path with
    | .error fault => (written.discard path.temporary, some fault)
    | .ok moved => (moved, none)

/-- Writes a snapshot file, and the directories on the way to it. -/
def persist (store : Store) (disk : Disk) (path : Path) : Disk × Except SnapshotError Unit :=
  match disk.makeParents path with
  | (made, some fault) => (made, .error (.access path fault))
  | (made, none) =>
    match replaceFile made path store.snapshot.toUTF8 with
    | (after, some fault) => (after, .error (.access path fault))
    | (after, none) => (after, .ok ())

end Store

/-- Where the pages are and where the snapshot is. -/
structure Config where
  roots : List Root
  snapshot : Path

/-- A store that a service holds. Two are the same object only if their serial numbers agree. -/
structure Held where
  serial : Nat
  store : Store

structure Service where
  config : Config
  /-- How it finds pages. -/
  glob : Glob
  held : Option Held
  /-- The number of full scans so far. -/
  scans : Nat
  /-- The number of stores so far. -/
  issued : Nat

/-- What a call of a service gives, and what it leaves behind. -/
structure Outcome (α : Type) where
  result : α
  service : Service
  disk : Disk
  log : Log

namespace Service

def make (glob : Glob) (config : Config) : Service :=
  ⟨config, glob, none, 0, 0⟩

def hold (service : Service) (store : Store) : Held × Service :=
  let held : Held := ⟨service.issued, store⟩
  (held, { service with held := some held, issued := service.issued + 1 })

/-- Forgets what is held. The snapshot file stays. -/
def reset (service : Service) : Service :=
  { service with held := none }

/-- Scans all pages, writes the snapshot if that can be done, and holds the records. -/
def scan (service : Service) (disk : Disk) : Outcome Held :=
  let found := buildIndex service.glob disk service.config.roots
  let store : Store := ⟨found.records⟩
  let (disk, written) := store.persist disk service.config.snapshot
  let ending : Note := match written with
    | .ok () => .progress (.written service.config.snapshot)
    | .error error => .warning (.unwrittenSnapshot error)
  let (held, service) := { service with scans := service.scans + 1 }.hold store
  ⟨held, service, disk, found.log ++ [ending]⟩

/-- The store that is held, or else the one of the snapshot file, or else that of a scan. -/
def loadOrBuild (service : Service) (disk : Disk) : Outcome Held :=
  match service.held with
  | some held => ⟨held, service, disk, []⟩
  | none =>
    match Store.load disk service.config.snapshot with
    | .ok store =>
      let (held, service) := service.hold store
      ⟨held, service, disk, [.progress (.loaded store.size service.config.snapshot)]⟩
    | .error error =>
      let outcome := service.scan disk
      let reason : Note :=
        if error.isNotFound then .progress (.noSnapshot service.config.snapshot)
        else .warning (.ignoredSnapshot error)
      { outcome with log := reason :: outcome.log }

def rebuild (service : Service) (disk : Disk) : Outcome Held :=
  let path := service.config.snapshot
  let (cleared, notes) : Disk × Log := match disk.removeFile path with
    | .ok removed => (removed, [.progress (.removed path)])
    | .error .notFound => (disk, [])
    | .error fault => (disk, [.warning (.unremovedSnapshot path fault)])
  let outcome := service.reset.scan cleared
  { outcome with log := notes ++ outcome.log }

/-- The labels that several sections have, each with a warning. -/
def checkIds (service : Service) (disk : Disk) : Outcome (List String) :=
  let outcome := service.loadOrBuild disk
  let labels := outcome.result.store.duplicateLabels
  ⟨labels, outcome.service, outcome.disk, outcome.log ++ labels.map (.warning <| .duplicateId ·)⟩

end Service

end DocIndex
