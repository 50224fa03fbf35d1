import DocIndex.Disk
import DocIndex.Heading
import DocIndex.Snapshot.Document

/-!
# Warnings

What can go wrong with a snapshot file, and the warnings about it and about pages. A warning never
ends the work.
-/

namespace DocIndex

/-- Why a snapshot file cannot be read or written. -/
inductive SnapshotError where
  | access (path : Path) (fault : Fault)
  | invalid (path : Path) (bad : Snapshot.BadLine)
deriving DecidableEq, Repr

namespace SnapshotError

def message : SnapshotError → String
  | access path fault => "cannot access snapshot " ++ path.text ++ ": " ++ fault.message
  | invalid path bad =>
    path.text ++ ":" ++ String.ofList (Text.decimal bad.line) ++ ": " ++ bad.cause.message

def isNotFound : SnapshotError → Bool
  | access _ .notFound => true
  | _ => false

end SnapshotError

/-- A pattern by which no files can be found. -/
structure BadPattern where
  pattern : String
  reason : String
deriving DecidableEq, Repr

inductive Warning where
  | madeId (notice : MadeId)
  | noDirectory (directory : Path)
  | badPattern (bad : BadPattern)
  | skippedFile (file : Path) (fault : Fault)
  | ignoredSnapshot (error : SnapshotError)
  | unwrittenSnapshot (error : SnapshotError)
  | unremovedSnapshot (path : Path) (fault : Fault)
  | duplicateId (id : String)
deriving DecidableEq, Repr

def Warning.message : Warning → String
  | madeId notice => notice.message
  | noDirectory directory => "no such directory: " ++ directory.text
  | badPattern bad => "invalid glob pattern " ++ bad.pattern ++ ": " ++ bad.reason
  | skippedFile file fault => "skipping " ++ file.text ++ ": " ++ fault.message
  | ignoredSnapshot error => "ignoring snapshot: " ++ error.message
  | unwrittenSnapshot error => error.message
  | unremovedSnapshot path fault =>
    "cannot remove snapshot " ++ path.text ++ ": " ++ fault.message
  | duplicateId id => "duplicate section id: " ++ id

end DocIndex
