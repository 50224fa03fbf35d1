import DocIndex.Corpus

/-!
# The pages of a call

How a call of the program finds pages: it looks through all directories below the given one.
-/

namespace DocIndex.Command

def isPageName (name : FileName) : Bool :=
  (FileName.ofText ".html").isSuffixOf name

def pathBelow (directory : Path) (below : Location) : Path :=
  ⟨(if directory.isAbsolute then [Path.slash] else []) ++
    [Path.slash].intercalate (directory.parts ++ below)⟩

def htmlBelow : Glob := fun disk directory =>
  match disk.find directory with
  | .ok (location, .directory) =>
    let names := (disk.filesBelow location).filter fun below => below.getLast?.any isPageName
    .ok (names.map (pathBelow directory))
  | _ => .ok []

end DocIndex.Command
