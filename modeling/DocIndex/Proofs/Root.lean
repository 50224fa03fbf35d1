import DocIndex.Proofs.Path.Along
import DocIndex.Proofs.Text.Run
import DocIndex.Proofs.Text.Utf8

/-!
# Pages and their local paths

A page below a root has the components of the root in front of its own ones (`components_join`), so
that what its local path is made of does not depend on where the root is. The texts of the components
can be read off the local path again, since no slash stands in one (`map_text_of_flatMap_text`), but
a name that is not UTF-8 has a text in common with others (`localPath_shared`). Only the roots of a
page's own class count (`localPath_rootsOf`).
-/

namespace DocIndex

theorem behind?_eq_some_iff {α : Type} [DecidableEq α] {front whole rest : List α} :
    behind? front whole = some rest ↔ whole = front ++ rest := by
  induction front generalizing whole with
  | nil => simp [behind?]
  | cons a front ih =>
    cases whole with
    | nil => simp [behind?]
    | cons b whole =>
      rw [behind?]
      split
      next same => simp [same, ih]
      next other => simp [Ne.symm other]

theorem intercalate_cons (separator : Char) (first : List Char) (others : List (List Char)) :
    [separator].intercalate (first :: others) = first ++ others.flatMap (separator :: ·) := by
  induction others generalizing first with
  | nil => simp
  | cons second others ih =>
    rw [List.intercalate_cons_cons, ih, List.flatMap_cons]
    simp

/-! ### Paths below a directory -/

namespace Path

theorem parts_join (path : Path) (behind : List UInt8) :
    (path.join behind).parts = path.parts ++ (Path.mk behind).parts := by
  have divided (front back : List UInt8) : (front ++ slash :: back).splitOnP (· == slash) =
      front.splitOnP (· == slash) ++ back.splitOnP (· == slash) :=
    List.splitOnP_append_cons front back rfl
  simp only [parts, segments, join]
  split
  next ends =>
    obtain ⟨front, ends⟩ := List.getLast?_eq_some_iff.mp (eq_of_beq ends)
    simp [ends, divided]
  next =>
    simp [divided]

theorem isAbsolute_join {path : Path} (absolute : path.isAbsolute = true) (behind : List UInt8) :
    (path.join behind).isAbsolute = true := by
  have named : path.bytes ≠ [] := by
    intro empty
    simp [isAbsolute, empty] at absolute
  rw [← absolute, join]
  split
  next => exact isAbsolute_of_append named rfl
  next => exact isAbsolute_of_append named rfl

theorem isAbsolute_foldl_join {path : Path} (absolute : path.isAbsolute = true)
    (parts : List FileName) : (parts.foldl join path).isAbsolute = true := by
  induction parts generalizing path with
  | nil => exact absolute
  | cons part parts ih => exact ih (isAbsolute_join absolute part)

theorem components_of_isAbsolute {path : Path} (absolute : path.isAbsolute = true) :
    path.components = .root :: path.parts.filterMap Component.ofPart? := by
  rw [components, if_pos absolute]

theorem filterMap_parts_of_names {path : Path} {names : List FileName}
    (ordinary : path.components = names.map .name) :
    path.parts.filterMap Component.ofPart? = names.map .name := by
  rw [components] at ordinary
  split at ordinary
  · cases names <;> cases ordinary
  split at ordinary
  · cases names <;> cases ordinary
  · exact ordinary

theorem components_join {path below : Path} {names : List FileName}
    (absolute : path.isAbsolute = true) (ordinary : below.components = names.map .name) :
    (path.join below.bytes).components = path.components ++ names.map .name := by
  rw [components_of_isAbsolute (isAbsolute_join absolute _), components_of_isAbsolute absolute,
    parts_join, List.filterMap_append, filterMap_parts_of_names ordinary, List.cons_append]

theorem isAbsolute_absolute? {working path whole : Path} (absolute : working.isAbsolute = true)
    (made : absolute? working path = some whole) : whole.isAbsolute = true := by
  have start : (if path.isAbsolute then path.rootPath else working).isAbsolute = true := by
    split
    · rw [rootPath]
      split <;> rfl
    · exact absolute
  have joined := isAbsolute_foldl_join start (path.parts.filter (· ≠ .here))
  rw [absolute?, Option.ite_none_left_eq_some] at made
  obtain ⟨-, made⟩ := made
  rw [← Option.some.inj made, apply_ite Path.isAbsolute, isAbsolute_join joined, joined, ite_self]

end Path

theorem Root.isAbsolute_make {working directory : Path} (absolute : working.isAbsolute = true)
    (named : directory.bytes ≠ []) (pageClass : PageClass) :
    (Root.make working pageClass directory).directory.isAbsolute = true := by
  rw [Root.make]
  cases made : Path.absolute? working directory with
  | none =>
    rw [Path.absolute?, if_neg (by simpa using named)] at made
    contradiction
  | some whole => exact Path.isAbsolute_absolute? absolute made

/-! ### Components read back -/

/-- A component that stands between slashes and is told from the others. -/
def Component.IsSpelled : Component → Prop
  | .name s => s ≠ [] ∧ Path.slash ∉ s ∧ s ≠ .here ∧ s ≠ .parent
  | _ => True

theorem Path.isSpelled_of_mem_components {path : Path} {c : Component}
    (mem : c ∈ path.components) : c.IsSpelled := by
  have behind : ∀ c ∈ path.parts.filterMap Component.ofPart?, c.IsSpelled := by
    intro c mem
    obtain ⟨part, isPart, denotes⟩ := List.mem_filterMap.mp mem
    obtain ⟨isSegment, notEmpty⟩ := List.mem_filter.mp isPart
    rw [Component.ofPart?, Option.ite_none_left_eq_some] at denotes
    obtain ⟨notHere, denotes⟩ := denotes
    split at denotes
    next =>
      cases denotes
      trivial
    next notParent =>
      cases denotes
      exact ⟨by simpa using notEmpty, not_mem_of_mem_segments isSegment, notHere, notParent⟩
  rw [Path.components] at mem
  split at mem
  · rcases List.mem_cons.mp mem with rfl | mem
    · trivial
    · exact behind c mem
  split at mem
  · rcases List.mem_cons.mp mem with rfl | mem
    · trivial
    · exact behind c mem
  · exact behind c mem

namespace FileName

theorem toList_text (name : FileName) : (text name).toList = Text.ofBytes name :=
  String.toList_ofList

theorem text_ofText (text : String) : FileName.text (ofText text) = text := by
  rw [FileName.text, ofText, Text.ofBytes_toBytes, String.ofList_toList]

theorem eq_ofText_of_ascii {name : FileName} {shown : String} (same : text name = shown)
    (ascii : ∀ c ∈ shown.toList, c.toNat < 0x80) : name = ofText shown := by
  rw [← same, toList_text] at ascii
  rw [ofText, ← same, toList_text]
  exact Text.eq_toBytes_of_ascii ascii

end FileName

namespace Component

def IsUtf8 : Component → Prop
  | .name s => ∃ text, s = FileName.ofText text
  | _ => True

def ofText (text : String) : Component :=
  if text = "/" then root
  else if text = "." then here
  else if text = ".." then parent
  else .name (.ofText text)

theorem ofText_text {c : Component} (spelled : c.IsSpelled) (utf8 : c.IsUtf8) :
    ofText c.text = c := by
  cases c with
  | root | here | parent => rfl
  | name s =>
    obtain ⟨text, rfl⟩ := utf8
    obtain ⟨-, noSlash, notHere, notParent⟩ := spelled
    have notRoot : text ≠ "/" := by
      rintro rfl
      exact noSlash (by decide)
    rw [Component.text, FileName.text_ofText, ofText, if_neg notRoot,
      if_neg fun isHere => notHere (congrArg FileName.ofText isHere),
      if_neg fun isParent => notParent (congrArg FileName.ofText isParent)]

/-- What stands in front of a slash is a component's text, unless the slash is the text of the
root. -/
theorem takeWhile_text_append {c : Component} (spelled : c.IsSpelled) {rest : List Char}
    (ends : Text.Ends (· != '/') rest) :
    (c.text.toList ++ rest).takeWhile (· != '/') = if c = .root then [] else c.text.toList := by
  have whole {cs : List Char} (noSlash : '/' ∉ cs) : (cs ++ rest).takeWhile (· != '/') = cs :=
    Text.takeWhile_append_of_ends (Text.forall_bne noSlash) ends
  cases c with
  | root => rfl
  | here | parent => exact whole (by decide)
  | name s =>
    refine whole fun isSlash => spelled.2.1 ?_
    rw [text, FileName.toList_text] at isSlash
    exact Text.mem_of_mem_ofBytes (by decide) isSlash

theorem text_ne_empty {c : Component} (spelled : c.IsSpelled) : c.text.toList ≠ [] := by
  cases c with
  | root | here | parent => decide
  | name s =>
    intro empty
    have nothing := FileName.eq_ofText_of_ascii (String.toList_eq_nil_iff.mp empty) (by simp)
    exact spelled.1 nothing

theorem text_append_inj {c d : Component} (isSpelled : c.IsSpelled) (isSpelled' : d.IsSpelled)
    {rest rest' : List Char} (ends : Text.Ends (· != '/') rest) (ends' : Text.Ends (· != '/') rest')
    (same : c.text.toList ++ rest = d.text.toList ++ rest') : c.text = d.text ∧ rest = rest' := by
  have front := takeWhile_text_append isSpelled ends
  rw [same, takeWhile_text_append isSpelled' ends'] at front
  have texts : c.text = d.text := by
    split at front <;> split at front
    next isRoot isRoot' => rw [isRoot, isRoot']
    next => exact absurd front.symm (text_ne_empty isSpelled)
    next => exact absurd front (text_ne_empty isSpelled')
    next => exact (String.toList_inj.mp front).symm
  rw [texts, List.append_cancel_left_eq] at same
  exact ⟨texts, same⟩

end Component

theorem ends_flatMap_text (components : List Component) :
    Text.Ends (· != '/') (components.flatMap fun c => '/' :: c.text.toList) := by
  cases components <;> simp

theorem map_text_of_flatMap_text {components others : List Component}
    (spelled : ∀ c ∈ components, c.IsSpelled) (spelled' : ∀ c ∈ others, c.IsSpelled)
    (same : components.flatMap (fun c => '/' :: c.text.toList) =
      others.flatMap fun c => '/' :: c.text.toList) :
    components.map Component.text = others.map Component.text := by
  induction components generalizing others with
  | nil =>
    cases others with
    | nil => rfl
    | cons d others => contradiction
  | cons c components ih =>
    cases others with
    | nil => contradiction
    | cons d others =>
      obtain ⟨here, further⟩ := List.forall_mem_cons.mp spelled
      obtain ⟨here', further'⟩ := List.forall_mem_cons.mp spelled'
      simp only [List.flatMap_cons, List.cons_append, List.cons.injEq, true_and] at same
      obtain ⟨first, rest⟩ := Component.text_append_inj here here' (ends_flatMap_text components)
        (ends_flatMap_text others) same
      rw [List.map_cons, List.map_cons, first, ih further further' rest]

/-- Components are told apart by their texts if their names are UTF-8. -/
theorem eq_of_map_text {components others : List Component}
    (spelled : ∀ c ∈ components ++ others, c.IsSpelled) (utf8 : ∀ c ∈ components ++ others, c.IsUtf8)
    (same : components.map Component.text = others.map Component.text) : components = others := by
  have back : ∀ c ∈ components ++ others, Component.ofText c.text = c := fun c mem =>
    Component.ofText_text (spelled c mem) (utf8 c mem)
  have read {cs : List Component} (within : ∀ c ∈ cs, Component.ofText c.text = c) :
      (cs.map Component.text).map Component.ofText = cs := by
    rw [List.map_map]
    exact (List.map_congr_left within).trans (List.map_id _)
  rw [← read fun c mem => back c (List.mem_append_left _ mem), same,
    read fun c mem => back c (List.mem_append_right _ mem)]

/-! ### Local paths -/

theorem toList_joinLocal (namespaceName : String) (components : List Component) :
    (joinLocal namespaceName components).toList =
      namespaceName.toList ++ components.flatMap fun c => '/' :: c.text.toList := by
  simp [joinLocal, String.toList_join, List.flatMap_map]

theorem joinLocal_names (namespaceName : String) (names : List FileName) :
    joinLocal namespaceName (names.map .name) =
      "/".intercalate (namespaceName :: names.map FileName.text) := by
  rw [← String.toList_inj, toList_joinLocal, String.toList_intercalate, List.map_cons,
    List.flatMap_map]
  refine ((intercalate_cons '/' _ _).trans ?_).symm
  rw [List.flatMap_map, List.flatMap_map]
  rfl

def rootsOf (pageClass : PageClass) (roots : List Root) : List Root :=
  roots.filter (·.pageClass = pageClass)

/-- The local path of a page depends on the roots of its class only. -/
theorem localPath_rootsOf (pageClass : PageClass) (roots : List Root) (file : Path) :
    localPath (rootsOf pageClass roots) pageClass file = localPath roots pageClass file := by
  have found (below? : Root → Option (List Component))
      (own : ∀ root : Root, root.pageClass ≠ pageClass → below? root = none) :
      (rootsOf pageClass roots).findSome? below? = roots.findSome? below? := by
    induction roots with
    | nil => rfl
    | cons root roots ih =>
      rw [rootsOf] at ih ⊢
      by_cases isOwn : root.pageClass = pageClass
      · rw [List.filter_cons_of_pos (by simpa using isOwn), List.findSome?_cons, ih,
          List.findSome?_cons]
      · rw [List.filter_cons_of_neg (by simpa using isOwn), List.findSome?_cons, own root isOwn, ih]
  unfold localPath
  cases pageClass.namespace? with
  | none => rfl
  | some namespaceName =>
    dsimp only
    rw [found]
    intro root other
    rw [if_neg other]

theorem localPath_of_rootsOf_eq_singleton {pageClass : PageClass} {namespaceName : String}
    (named : pageClass.namespace? = some namespaceName) {roots : List Root} {root : Root}
    (only : rootsOf pageClass roots = [root]) {file : Path} {below : List Component}
    (inside : file.components = root.directory.components ++ below) :
    localPath roots pageClass file = joinLocal namespaceName below := by
  have own : root.pageClass = pageClass := by
    have mem : root ∈ rootsOf pageClass roots := only ▸ List.mem_singleton_self root
    exact of_decide_eq_true (List.mem_filter.mp mem).2
  rw [← localPath_rootsOf, only]
  simp [localPath, named, own, behind?_eq_some_iff.mpr inside]

/-- A page below the only root of its class has a local path of the class's namespace and the names
that the page has below the root, wherever that is. Pages there have the same local path if the texts
of these names are the same, and if the names are UTF-8, only when the pages are. A class without a
namespace leaves the paths of its pages as they are. The roots of other classes do not count. Roots
are absolute as they are made. -/
theorem localPath_rerooted :
    (∀ (pageClass : PageClass) (namespaceName : String),
      pageClass.namespace? = some namespaceName →
      (∀ (roots roots' : List Root) (root root' : Root) (below : Path) (names : List FileName),
        rootsOf pageClass roots = [root] → rootsOf pageClass roots' = [root'] →
        root.directory.isAbsolute = true → root'.directory.isAbsolute = true →
        below.components = names.map .name →
        localPath roots pageClass (root.directory.join below.bytes) =
            localPath roots' pageClass (root'.directory.join below.bytes) ∧
          localPath roots pageClass (root.directory.join below.bytes) =
            "/".intercalate (namespaceName :: names.map FileName.text)) ∧
      ∀ (roots : List Root) (root : Root), rootsOf pageClass roots = [root] →
        ∀ (file other : Path) (below below' : List Component),
          file.components = root.directory.components ++ below →
          other.components = root.directory.components ++ below' →
          (localPath roots pageClass file = localPath roots pageClass other ↔
            below.map Component.text = below'.map Component.text) ∧
          ((∀ c ∈ below ++ below', c.IsUtf8) →
            localPath roots pageClass file = localPath roots pageClass other →
            file.components = other.components)) ∧
    (∀ (pageClass : PageClass) (roots : List Root) (text text' : String),
      pageClass.namespace? = none →
      localPath roots pageClass text = localPath roots pageClass text' → text = text') ∧
    (∀ (pageClass : PageClass) (roots roots' : List Root) (file : Path),
      rootsOf pageClass roots = rootsOf pageClass roots' →
      localPath roots pageClass file = localPath roots' pageClass file) ∧
    ∀ (working directory : Path) (pageClass : PageClass), working.isAbsolute = true →
      directory.bytes ≠ [] → (Root.make working pageClass directory).directory.isAbsolute = true := by
  refine ⟨fun pageClass namespaceName named => ⟨?_, ?_⟩, ?_, ?_, ?_⟩
  · intro roots roots' root root' below names only only' absolute absolute' ordinary
    have rerooted {roots : List Root} {root : Root} (only : rootsOf pageClass roots = [root])
        (absolute : root.directory.isAbsolute = true) :
        localPath roots pageClass (root.directory.join below.bytes) =
          "/".intercalate (namespaceName :: names.map FileName.text) := by
      rw [localPath_of_rootsOf_eq_singleton named only (Path.components_join absolute ordinary),
        joinLocal_names]
    exact ⟨(rerooted only absolute).trans (rerooted only' absolute').symm, rerooted only absolute⟩
  · intro roots root only file other below below' inside inside'
    have spelled {path : Path} {front back : List Component}
        (split : path.components = front ++ back) : ∀ c ∈ back, c.IsSpelled := fun c mem =>
      Path.isSpelled_of_mem_components (split ▸ List.mem_append_right front mem)
    have sameIff : localPath roots pageClass file = localPath roots pageClass other ↔
        below.map Component.text = below'.map Component.text := by
      rw [localPath_of_rootsOf_eq_singleton named only inside,
        localPath_of_rootsOf_eq_singleton named only inside']
      constructor
      · intro same
        rw [← String.toList_inj, toList_joinLocal, toList_joinLocal,
          List.append_cancel_left_eq] at same
        exact map_text_of_flatMap_text (spelled inside) (spelled inside') same
      · intro same
        have slashed (cs : List Component) : cs.map (fun c => "/" ++ c.text) =
            (cs.map Component.text).map ("/" ++ ·) := by rw [List.map_map]; rfl
        rw [joinLocal, joinLocal, slashed, slashed, same]
    refine ⟨sameIff, fun utf8 same => ?_⟩
    rw [inside, inside', eq_of_map_text _ utf8 (sameIff.mp same)]
    intro c mem
    exact (List.mem_append.mp mem).elim (spelled inside c) (spelled inside' c)
  · intro pageClass roots text text' nameless same
    simp only [localPath, nameless] at same
    simpa [Path.text, Path.ofText, FileName.text_ofText] using same
  · intro pageClass roots roots' file same
    rw [← localPath_rootsOf, same, localPath_rootsOf]
  · intro working directory pageClass absolute named
    exact Root.isAbsolute_make absolute named pageClass

/-- A root that is given relative to the working directory, below a root of another class, and a root
with a way back in it. -/
theorem localPath_rerooted_wayBack :
    let own := Root.make "/home" .manual "doc/./Manual//"
    let moved := Root.make "/" .manual "/opt/../m"
    let roots : List Root := [⟨.packages, "/home/doc"⟩, own]
    own.directory.isAbsolute = true ∧ own.directory.text = "/home/doc/Manual/" ∧
      (localPath roots .manual (own.directory.join (Path.ofText "a/./b").bytes) =
          localPath [moved] .manual (moved.directory.join (Path.ofText "a/./b").bytes) ∧
        localPath roots .manual (own.directory.join (Path.ofText "a/./b").bytes) = "Manual/a/b") ∧
      (Path.ofText "/home/doc/Manual/../c").components =
        (Path.ofText "/home/doc//Manual/.././c/").components ∧
      localPath roots .manual "/home/doc/d" = localPath [own] .manual "/home/doc/d" := by
  intro own moved roots
  obtain ⟨below, -, sameClass, absolute⟩ := localPath_rerooted
  obtain ⟨rerooted, unique⟩ := below .manual "Manual" rfl
  have isAbsolute := absolute "/home" "doc/./Manual//" .manual rfl (by decide)
  have isAbsolute' := absolute "/" "/opt/../m" .manual rfl (by decide)
  obtain ⟨same, named⟩ := rerooted roots [moved] own moved "a/./b" [.ofText "a", .ofText "b"] rfl rfl
    isAbsolute isAbsolute' (by decide +kernel)
  refine ⟨isAbsolute, by decide +kernel, ⟨same, named.trans (by decide +kernel)⟩, ?_,
    sameClass .manual roots [own] _ rfl⟩
  have utf8 : ∀ c ∈ [Component.parent, .name (.ofText "c")], c.IsUtf8 :=
    List.forall_mem_cons.mpr ⟨trivial, List.forall_mem_singleton.mpr ⟨"c", rfl⟩⟩
  exact (unique roots own rfl _ _ [.parent, .name (.ofText "c")] [.parent, .name (.ofText "c")]
    (by decide +kernel) (by decide +kernel)).2
    (fun c mem => (List.mem_append.mp mem).elim (utf8 c) (utf8 c)) (by decide +kernel)

/-- Two pages whose directories have names that are not UTF-8 share a local path. So do two pages
below the root of the disk of which one is given relative to the working directory. -/
theorem localPath_shared :
    let page (name : FileName) : Path := (Path.join "/m" name).join (Path.ofText "a.html").bytes
    let roots : List Root := [Root.make "/" .manual "/m"]
    let top : List Root := [Root.make "/" .manual "/"]
    (page [0xFF]).components =
        (Path.ofText "/m").components ++ [.name [0xFF], .name (.ofText "a.html")] ∧
      (page [0xFE]).components =
        (Path.ofText "/m").components ++ [.name [0xFE], .name (.ofText "a.html")] ∧
      localPath roots .manual (page [0xFF]) = localPath roots .manual (page [0xFE]) ∧
      (page [0xFF]).components ≠ (page [0xFE]).components ∧
      Path.absolute? "/" "Manual/x.html" = some (Path.ofText "/Manual/x.html") ∧
      localPath top .manual "Manual/x.html" = localPath top .manual "/x.html" ∧
      (Path.ofText "Manual/x.html").components ≠ (Path.ofText "/x.html").components := by
  decide +kernel

end DocIndex
