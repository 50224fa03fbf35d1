import DocIndex.Log
import DocIndex.Page
import DocIndex.Root
import DocIndex.Store
import DocIndex.Text.Utf8

/-!
# The pages of a documentation

The pages below the roots of a documentation, and the records of all of them. Roots come in their
own order, the pages of a root in the order of their paths. How pages are found on the disk is left
to the caller.
-/

namespace DocIndex

/-- Records, and the log of how they were found. -/
structure Findings where
  records : List Record
  log : Log

namespace Findings

def append (first second : Findings) : Findings :=
  ⟨first.records ++ second.records, first.log ++ second.log⟩

def join (findings : List Findings) : Findings :=
  findings.foldr append ⟨[], []⟩

end Findings

/-- How files are found by a pattern: the paths of all files and directories below the directory with
this text whose names end in `.html`, or why that is no pattern. -/
abbrev Glob := Disk → String → Except BadPattern (List Path)

def pagesBelow (glob : Glob) (disk : Disk) (directory : Path) : List Path × List Warning :=
  if disk.isDirectory directory then
    match glob disk directory.text with
    | .error bad => ([], [.badPattern bad])
    | .ok paths =>
      let sorted := (paths.filter disk.isFile).mergeSort fun a b => (a.compare b).isLE
      (sorted.eraseRepsBy Path.same, [])
  else ([], [.noDirectory directory])

/-- The records of one page. A page that cannot be read has none. -/
def indexFile (disk : Disk) (roots : List Root) (pageClass : PageClass) (file : Path) : Findings :=
  match disk.readBytes file with
  | .error fault => ⟨[], [.warning (.skippedFile file fault)]⟩
  | .ok content =>
    let page : Page := ⟨file.shown, pageClass, localPath roots pageClass file⟩
    let pass := page.index (String.ofList (Text.ofBytes content.toList))
    ⟨pass.records,
      pass.notices.map (.warning <| .madeId ·) ++ [.progress (.indexed file pass.records.length)]⟩

def indexRoot (glob : Glob) (disk : Disk) (roots : List Root) (root : Root) : Findings :=
  let pages := pagesBelow glob disk root.directory
  let found := Findings.join (pages.1.map (indexFile disk roots root.pageClass))
  ⟨found.records,
    pages.2.map .warning ++
      .progress (.indexing pages.1.length root.pageClass root.directory) :: found.log⟩

def buildIndex (glob : Glob) (disk : Disk) (roots : List Root) : Findings :=
  let found := Findings.join (roots.map (indexRoot glob disk roots))
  { found with log := found.log ++ [.progress (.built found.records.length)] }

end DocIndex
