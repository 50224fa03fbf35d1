import DocIndex.Record

/-!
# Roots and local paths

The pages of a class lie below the roots of that class. The local path of a page is its path below
the root, behind the namespace of the class; it does not depend on where the pages are installed.
-/

namespace DocIndex

/-- A directory of pages of one class. -/
structure Root where
  pageClass : PageClass
  directory : Path
deriving DecidableEq, Repr

namespace Root

/-- The root of a directory, made absolute in the working directory if that can be done. -/
def make (working : Path) (pageClass : PageClass) (directory : Path) : Root :=
  ⟨pageClass, (Path.absolute? working directory).getD directory⟩

end Root

/-- What is left of a list behind another that it begins with. -/
def behind? {α : Type} [DecidableEq α] : List α → List α → Option (List α)
  | [], rest => some rest
  | _ :: _, [] => none
  | a :: front, b :: rest => if a = b then behind? front rest else none

def joinLocal (namespaceName : String) (components : List Component) : String :=
  String.join (namespaceName :: components.map fun component => "/" ++ component.text)

/-- The local path of a page: by the first root of its class that it lies below. A page below none,
or of a class without a namespace, keeps its path. -/
def localPath (roots : List Root) (pageClass : PageClass) (file : Path) : String :=
  match pageClass.namespace? with
  | none => file.text
  | some namespaceName =>
    let below? (root : Root) : Option (List Component) :=
      if root.pageClass = pageClass then behind? root.directory.components file.components
      else none
    match roots.findSome? below? with
    | some components => joinLocal namespaceName components
    | none => file.text

end DocIndex
