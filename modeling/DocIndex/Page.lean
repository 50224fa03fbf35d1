import DocIndex.Heading
import DocIndex.Markup.Reader
import DocIndex.Object.Identifier
import DocIndex.Record
import DocIndex.Sentence

/-!
# The records of a page

One pass over the events of a page gives its records. A public definition term adds the object of
its first anchor to those that wait for their description; a description gives one record to each
object that waits, all with the place of the first term. The title block of a page and its headings
give one record each.
-/

namespace DocIndex

/-- What the records of a page say about the page. -/
structure Page where
  file : PathText
  pageClass : PageClass
  /-- The label of the page's title. -/
  localPath : String

/-- An object that waits for its description, and the place of its term. -/
structure Term where
  object : Object
  offset : Nat
deriving DecidableEq, Repr

/-- The attributes of an anchor that may hold an identifier, the most specific one first. -/
def anchorAttributes : List String :=
  ["data-obj", "id", "name"]

def isAnchor (e : Markup.Element) : Bool :=
  e.name = "a" && anchorAttributes.any fun name => (e.attribute? name).isSome

/-- The object that the first anchor in a term names: by its first attribute that holds an
identifier. -/
def termObject? (term : Markup.Element) : Option Object :=
  (term.find? isAnchor).bind fun anchor =>
    (anchorAttributes.filterMap anchor.attribute?).findSome? fun text =>
      (Object.ofIdentifier text).toOption

/-- The elements that a page is indexed by. -/
inductive Role where
  /-- A public definition term. -/
  | term
  /-- The description of the terms before it. -/
  | description
  /-- The title of the page. -/
  | title
  | heading (level : UInt8)
deriving DecidableEq, Repr

/-- The state of the pass over a page. -/
structure Pass where
  pending : List Term
  records : List Record
  notices : List MadeId

namespace Pass

def start : Pass := ⟨[], [], []⟩

/-- Adds a term's object to those that wait, unless it waits already. -/
def addTerm (pass : Pass) (term : Markup.Element) (offset : Nat) : Pass :=
  match termObject? term with
  | none => pass
  | some object =>
    if pass.pending.any (·.object = object) then pass
    else { pass with pending := pass.pending ++ [⟨object, offset⟩] }

/-- The records of the objects that wait, with the place of the first of them. -/
def describe (page : Page) (summary : String) : List Term → List Record
  | [] => []
  | first :: rest =>
    (first :: rest).map fun term =>
      ⟨term.object, summary, page.file, page.pageClass, first.offset⟩

def addDescription (page : Page) (pass : Pass) (description : Markup.Element) : Pass :=
  { pass with
    pending := []
    records := pass.records ++ describe page description.summary pass.pending }

def addTitle (page : Page) (pass : Pass) (title : Markup.Element) (offset : Nat) : Pass :=
  let object := Object.heading 0 "0" page.localPath page.file.text
  { pass with
    records := pass.records ++ [⟨object, title.flatten, page.file, page.pageClass, offset⟩] }

def addHeading (page : Page) (pass : Pass) (level : UInt8) (element : Markup.Element)
    (offset : Nat) : Pass :=
  let (heading, notice) := Heading.ofElement element level
  let object := Object.heading heading.level heading.number heading.id page.file.text
  { pass with
    records := pass.records ++ [⟨object, heading.title, page.file, page.pageClass, offset⟩]
    notices := pass.notices ++ notice.toList }

/-- What the pass does with the element of a start tag. -/
def role? (pass : Pass) (tag : Markup.StartTag) : Option Role :=
  if tag.name = "dt" && Markup.hasClass tag.attributes "pubdef" then some .term
  else if tag.name = "dd" && !pass.pending.isEmpty then some .description
  else if tag.name = "div" && Markup.hasClass tag.attributes "title" then some .title
  else (Heading.levelOf? tag.name).map .heading

/-- Takes an element in its role. -/
def add (page : Page) (pass : Pass) (element : Markup.Element) (offset : Nat) : Role → Pass
  | .term => pass.addTerm element offset
  | .description => pass.addDescription page element
  | .title => pass.addTitle page element offset
  | .heading level => pass.addHeading page level element offset

/-- What a start tag leads to, given the events behind it: the pass goes on with the events that
are left. -/
def onOpening (page : Page) (pass : Pass) (tag : Markup.StartTag) (rest : List Markup.Event) :
    Pass × List Markup.Event :=
  match pass.role? tag with
  | none => (pass, rest)
  | some role =>
    let tree := tag.subtree rest
    (pass.add page tree.1 tag.offset role, tree.2)

theorem length_onOpening_le (page : Page) (pass : Pass) (tag : Markup.StartTag)
    (rest : List Markup.Event) : (pass.onOpening page tag rest).2.length ≤ rest.length := by
  unfold onOpening
  split
  · exact Nat.le_refl _
  · exact tag.length_subtree_le rest

def run (page : Page) (pass : Pass) (events : List Markup.Event) : Pass :=
  match events with
  | [] => pass
  | .opening tag :: rest =>
    let next := pass.onOpening page tag rest
    run page next.1 next.2
  | _ :: rest => run page pass rest
termination_by events.length
decreasing_by
  · exact Nat.lt_succ_of_le (length_onOpening_le page pass tag rest)
  · exact Nat.lt_succ_self _

def visit (page : Page) (pass : Pass) (tag : Markup.StartTag) (reader : Markup.Reader) :
    Pass × Markup.Reader :=
  match pass.role? tag with
  | none => (pass, reader)
  | some role =>
    let tree := reader.subtree tag
    (pass.add page tree.1 tag.offset role, tree.2)

theorem visit_eq (page : Page) (pass : Pass) (tag : Markup.StartTag) (reader : Markup.Reader) :
    (pass.visit page tag reader).1 = (pass.onOpening page tag reader.left).1 ∧
      (pass.visit page tag reader).2.left = (pass.onOpening page tag reader.left).2 := by
  unfold visit onOpening
  cases pass.role? tag with
  | none => exact ⟨rfl, rfl⟩
  | some role =>
    simp only [Markup.Reader.subtree_fst, Markup.Reader.left_subtree, and_self]

/-- The pass over what a reader still has to give. -/
def read (page : Page) (pass : Pass) (reader : Markup.Reader) : Pass :=
  match _h : reader.next with
  | (none, _) => pass
  | (some (.opening tag), rest) =>
    let next := pass.visit page tag rest
    read page next.1 next.2
  | (some _, rest) => read page pass rest
termination_by reader.left.length
decreasing_by
  · have shorter := Markup.Reader.length_left_next_lt (congrArg Prod.fst _h)
    rw [_h] at shorter
    rw [(visit_eq page pass tag rest).2]
    exact Nat.lt_of_le_of_lt (length_onOpening_le page pass tag rest.left) shorter
  · have shorter := Markup.Reader.length_left_next_lt (congrArg Prod.fst _h)
    rw [_h] at shorter
    exact shorter

/-- The pass over a reader is the pass over its events. -/
theorem read_eq_run (page : Page) (pass : Pass) (reader : Markup.Reader) :
    pass.read page reader = pass.run page reader.left := by
  fun_induction read page pass reader with
  | case1 pass reader rest atEnd =>
    rw [Markup.Reader.left_eq_nil (congrArg Prod.fst atEnd), run]
  | case2 pass reader tag rest given next ih =>
    rw [Markup.Reader.left_eq_cons (congrArg Prod.fst given), given, run, ih]
    rw [(visit_eq page pass tag rest).1, (visit_eq page pass tag rest).2]
  | case3 pass reader event rest notOpening given ih =>
    rw [Markup.Reader.left_eq_cons (congrArg Prod.fst given), given, run, ih]
    exact notOpening

end Pass

def Page.index (page : Page) (text : String) : Pass :=
  Pass.start.read page (Markup.Reader.start text.toList)

theorem Page.index_eq (page : Page) (text : String) :
    page.index text = Pass.start.run page (Markup.events text.toList) :=
  Pass.start.read_eq_run page _

end DocIndex
