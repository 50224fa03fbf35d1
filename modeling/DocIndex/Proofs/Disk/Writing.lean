import DocIndex.Proofs.Disk.Route

/-!
# Writing

What the operations that change a disk do, seen from outside. A path that ends in a name leads to a
location in a directory that is there (`Disk.Reaches.exists_parent`), and each operation is described
by that location and what stands there. None of them takes a directory away (`Disk.Keeps`), so that
all ways stay open, and a tree stays one.
-/

namespace DocIndex

namespace Disk

variable {disk after later : Disk} {path source target : Path} {location other parent : Location}
  {name : FileName} {content : ByteArray} {entry : Entry}

theorem ne_nil_of_free (free : disk.get? location ≠ some .directory) : location ≠ [] :=
  fun root => free (root ▸ rfl)

theorem free_erase (free : disk.get? location ≠ some .directory) (other : Location) :
    (disk.erase other).get? location ≠ some .directory := by
  by_cases here : location = other
  · rw [here, get?_erase_self (here ▸ ne_nil_of_free free)]
    simp
  · rwa [get?_erase_of_ne here]

/-! ### Files with several names -/

@[simp] theorem limits_fill (disk : Disk) (location : Location) (content : ByteArray) :
    (disk.fill location content).limits = disk.limits := by
  unfold fill
  split <;> rfl

@[simp] theorem working_fill (disk : Disk) (location : Location) (content : ByteArray) :
    (disk.fill location content).working = disk.working := by
  unfold fill
  split <;> rfl

/-- A file with one name is put anew, and one with several names is rewritten under all. -/
theorem fill_cases (disk : Disk) (location : Location) (content : ByteArray) :
    disk.fill location content = disk.put location (.file content) ∨
      ∃ number old, disk.get? location = some (.shared number old) ∧
        ∀ other, (disk.fill location content).get? other =
          (disk.get? other).map (Entry.rewrite number content) := by
  unfold fill
  split
  next number old there =>
    refine .inr ⟨number, old, there, fun other => ?_⟩
    simp only [get?]
    split
    next => rfl
    next =>
      induction disk.entries with
      | nil => rfl
      | cons first rest ih =>
        obtain ⟨place, entry⟩ := first
        rw [List.map_cons, List.lookup_cons, List.lookup_cons]
        cases other == place with
        | true => rfl
        | false => exact ih
  next => exact .inl rfl

theorem get?_fill_self (free : disk.get? location ≠ some .directory) (content : ByteArray) :
    ∃ entry, (disk.fill location content).get? location = some entry ∧
      entry.content? = some content := by
  rcases disk.fill_cases location content with single | ⟨number, old, there, rewritten⟩
  · rw [single, get?_put_self (ne_nil_of_free free)]
    exact ⟨_, rfl, rfl⟩
  · rw [rewritten, there]
    exact ⟨.shared number content, by simp [Entry.rewrite], rfl⟩

def IsAlone (disk : Disk) (location : Location) : Prop :=
  ∀ entry other twin, disk.get? location = some entry → disk.get? other = some twin →
    entry.isSameFile twin = true → other = location

/-- Nothing else is written with a file that has no other name. -/
theorem IsAlone.get?_fill_of_ne (alone : disk.IsAlone location) (distinct : other ≠ location)
    (content : ByteArray) : (disk.fill location content).get? other = disk.get? other := by
  rcases disk.fill_cases location content with single | ⟨number, old, there, rewritten⟩
  · rw [single, get?_put_of_ne distinct]
  · rw [rewritten]
    cases stands : disk.get? other with
    | none => rfl
    | some twin =>
      cases twin with
      | directory | file => rfl
      | shared n content =>
        by_cases same : n = number
        · exact absurd (alone _ other _ there stands (by simp [Entry.isSameFile, same])) distinct
        · simp [Entry.rewrite, same]

theorem IsAlone.fill (alone : disk.IsAlone location)
    (free : disk.get? location ≠ some .directory) (content : ByteArray) :
    (disk.fill location content).IsAlone location := by
  intro entry other twin here stands same
  by_cases distinct : other = location
  · exact distinct
  rw [alone.get?_fill_of_ne distinct] at stands
  rcases disk.fill_cases location content with single | ⟨number, old, there, rewritten⟩
  · rw [single, get?_put_self (ne_nil_of_free free)] at here
    cases here
    cases same
  · rw [rewritten, there] at here
    cases here
    refine alone _ other twin there stands ?_
    cases twin <;> simp_all [Entry.rewrite, Entry.isSameFile]

/-- What has been written under one name of a file is there under all. -/
theorem content?_of_isSameFile {twin : Entry}
    (free : disk.get? location ≠ some .directory)
    (here : (disk.fill location content).get? location = some entry)
    (there : (disk.fill location content).get? other = some twin)
    (same : entry.isSameFile twin = true) : twin.content? = some content := by
  rcases disk.fill_cases location content with single | ⟨number, old, stands, rewritten⟩
  · rw [single, get?_put_self (ne_nil_of_free free)] at here
    cases here
    cases same
  · rw [rewritten, stands] at here
    cases here
    obtain ⟨before, -, rfl⟩ := Option.map_eq_some_iff.mp (rewritten other ▸ there)
    cases before with
    | directory | file => simp [Entry.rewrite, Entry.isSameFile] at same
    | shared n old =>
      by_cases isNumber : n = number
      · simp [Entry.rewrite, isNumber, Entry.content?]
      · simp [Entry.rewrite, Entry.isSameFile, isNumber, Ne.symm isNumber] at same

/-! ### Directories stay -/

/-- All directories are still there, and nothing else is refused. -/
structure Keeps (disk after : Disk) : Prop where
  working : after.working = disk.working
  limits : after.limits = disk.limits
  directory : ∀ location, disk.get? location = some .directory →
    after.get? location = some .directory

theorem Keeps.trans (first : Keeps disk after) (second : Keeps after later) : Keeps disk later :=
  ⟨second.working.trans first.working, second.limits.trans first.limits,
    fun location there => second.directory location (first.directory location there)⟩

theorem Reaches.keeps (reaches : disk.Reaches path location) (keeps : Keeps disk after) :
    after.Reaches path location := by
  refine reaches.of_passes (by rw [start, start, keeps.working]) fun passed mem => ?_
  obtain ⟨directory, permitted⟩ := reaches.opens_of_passes mem
  exact ⟨keeps.directory passed directory, by rwa [keeps.limits]⟩

theorem keeps_put (free : disk.get? location ≠ some .directory) (entry : Entry) :
    Keeps disk (disk.put location entry) := by
  refine ⟨rfl, rfl, fun place there => ?_⟩
  rwa [get?_put_of_ne]
  exact fun here => free (here ▸ there)

theorem keeps_erase (free : disk.get? location ≠ some .directory) :
    Keeps disk (disk.erase location) := by
  refine ⟨rfl, rfl, fun place there => ?_⟩
  rwa [get?_erase_of_ne]
  exact fun here => free (here ▸ there)

theorem keeps_fill (free : disk.get? location ≠ some .directory) (content : ByteArray) :
    Keeps disk (disk.fill location content) := by
  rcases disk.fill_cases location content with single | ⟨number, old, -, rewritten⟩
  · rw [single]
    exact keeps_put free _
  · refine ⟨working_fill .., limits_fill .., fun place directory => ?_⟩
    rw [rewritten, directory]
    rfl

/-! ### Trees -/

theorem IsTree.put (tree : disk.IsTree) (named : location ≠ [])
    (parent : disk.get? location.dropLast = some .directory)
    (free : disk.get? location ≠ some .directory) (entry : Entry) :
    (disk.put location entry).IsTree := by
  intro place some there
  by_cases below : place.dropLast = location
  · -- nothing stands below what was no directory
    have notHere : place ≠ location := fun here => by
      rw [here] at below
      have shorter := congrArg List.length below
      have := List.length_pos_iff.mpr named
      rw [List.length_dropLast] at shorter
      omega
    rw [get?_put_of_ne notHere] at there
    exact absurd (below ▸ tree place some there) free
  · rw [get?_put_of_ne below]
    by_cases here : place = location
    · rwa [here]
    · rw [get?_put_of_ne here] at there
      exact tree place some there

theorem IsTree.erase (tree : disk.IsTree) (free : disk.get? location ≠ some .directory) :
    (disk.erase location).IsTree := by
  intro place some there
  by_cases here : place = location
  · rw [here, get?_erase_self (ne_nil_of_free free)] at there
    exact absurd rfl there
  · rw [get?_erase_of_ne here] at there
    have parent := tree place some there
    rwa [get?_erase_of_ne]
    exact fun same => free (same ▸ parent)

theorem IsTree.fill (tree : disk.IsTree) (named : location ≠ [])
    (parent : disk.get? location.dropLast = some .directory)
    (free : disk.get? location ≠ some .directory) (content : ByteArray) :
    (disk.fill location content).IsTree := by
  rcases disk.fill_cases location content with single | ⟨number, old, -, rewritten⟩
  · rw [single]
    exact tree.put named parent free _
  · intro place some stands
    rw [rewritten, ne_eq, Option.map_eq_none_iff] at stands
    exact (keeps_fill free content).directory _ (tree place some stands)

theorem mem_entries_of_get? {entry : Entry} (named : location ≠ [])
    (there : disk.get? location = some entry) : (location, entry) ∈ disk.entries := by
  rw [get?, if_neg named] at there
  obtain ⟨front, back, shape, -⟩ := List.lookup_eq_some_iff.mp there
  simp [shape]

theorem isTree_of_entries
    (inside : ∀ entry ∈ disk.entries, disk.get? entry.1.dropLast = some .directory) :
    disk.IsTree := by
  intro location named there
  obtain ⟨entry, found⟩ := Option.ne_none_iff_exists'.mp there
  exact inside (location, entry) (mem_entries_of_get? named found)

/-! ### The directory of a path -/

theorem follow_append {front back : List FileName} :
    disk.follow location (front ++ back) = disk.follow location front >>= (disk.follow · back) := by
  induction front generalizing location with
  | nil => rfl
  | cons part rest ih =>
    simp only [List.cons_append, follow, ih, bind_assoc]

theorem findParent_eq_ok_iff :
    disk.findParent path = .ok parent ↔
      check path = .ok () ∧ disk.follow (disk.start path) path.parts.dropLast = .ok parent ∧
        disk.Opens parent := by
  simp only [findParent, bind_eq_ok_iff, ← enter_eq_ok_iff]
  constructor
  · rintro ⟨⟨⟩, taken, found, leads, ⟨⟩, entered, same⟩
    cases same
    exact ⟨taken, leads, entered⟩
  · rintro ⟨taken, leads, entered⟩
    exact ⟨(), taken, parent, leads, (), entered, rfl⟩

theorem parts_eq_of_lastName? (named : lastName? path = some name) :
    path.parts = path.parts.dropLast ++ [name] ∧ name ≠ .here ∧ name ≠ .parent := by
  obtain ⟨last, notDot⟩ := Option.filter_eq_some_iff.mp named
  refine ⟨?_, by simpa using notDot⟩
  obtain ⟨front, shape⟩ := List.getLast?_eq_some_iff.mp last
  rw [shape, List.dropLast_concat]

theorem reaches_iff (named : lastName? path = some name) :
    disk.Reaches path location ↔
      ∃ parent, disk.findParent path = .ok parent ∧ step parent name = .ok location := by
  simp only [Reaches, findParent_eq_ok_iff, and_assoc]
  rw [(parts_eq_of_lastName? named).1, follow_append, List.dropLast_concat]
  simp only [bind_eq_ok_iff, follow]
  constructor
  · rintro ⟨taken, parent, leads, ⟨⟩, entered, found, goes, same⟩
    cases same
    exact ⟨parent, taken, leads, enter_eq_ok_iff.mp entered, goes⟩
  · rintro ⟨parent, taken, leads, opens, goes⟩
    exact ⟨taken, parent, leads, (), enter_eq_ok_iff.mpr opens, location, goes, rfl⟩

/-- What a path with a name leads to stands in a directory. -/
theorem Reaches.exists_parent (reaches : disk.Reaches path location)
    (named : lastName? path = some name) :
    ∃ parent, disk.findParent path = .ok parent ∧ disk.get? parent = some .directory ∧
      location = parent ++ [name] := by
  obtain ⟨parent, found, goes⟩ := (reaches_iff named).mp reaches
  refine ⟨parent, found, (findParent_eq_ok_iff.mp found).2.2.1, ?_⟩
  rw [step_of_name (parts_eq_of_lastName? named).2] at goes
  split at goes
  next => exact (Except.ok.inj goes).symm
  next => cases goes

theorem Reaches.put (reaches : disk.Reaches path location) (named : lastName? path = some name)
    (tree : disk.IsTree) (free : disk.get? location ≠ some .directory) (entry : Entry) :
    (disk.put location entry).IsTree := by
  obtain ⟨parent, -, there, rfl⟩ := reaches.exists_parent named
  exact tree.put (by simp) (by rwa [List.dropLast_concat]) free entry

theorem Reaches.fill (reaches : disk.Reaches path location) (named : lastName? path = some name)
    (tree : disk.IsTree) (free : disk.get? location ≠ some .directory) (content : ByteArray) :
    (disk.fill location content).IsTree := by
  obtain ⟨parent, -, there, rfl⟩ := reaches.exists_parent named
  exact tree.fill (by simp) (by rwa [List.dropLast_concat]) free content

/-! ### The operations -/

structure NamesFile (path : Path) (name : FileName) : Prop where
  last : lastName? path = some name
  plain : path.endsInSlash = false

theorem not_namesFile (nameless : lastName? path = none) : ¬NamesFile path name := by
  intro names
  rw [names.last] at nameless
  cases nameless

theorem makeDirectory_eq_ok (makes : disk.makeDirectory path = .ok after) :
    (lastName? path).isSome ∧ ∃ location, disk.Reaches path location ∧
      disk.get? location = none ∧ after = disk.put location .directory := by
  obtain ⟨parent, found, makes⟩ := bind_eq_ok_iff.mp makes
  split at makes
  next => cases makes
  next name named =>
    obtain ⟨location, goes, makes⟩ := bind_eq_ok_iff.mp makes
    split at makes
    next => cases makes
    next free =>
      obtain ⟨-, -, makes⟩ := bind_eq_ok_iff.mp makes
      exact ⟨by rw [named]; rfl, location, (reaches_iff named).mpr ⟨parent, found, goes⟩, free,
        (Except.ok.inj makes).symm⟩

/-- What can be opened is no directory, and where nothing is a file may be made. -/
theorem openFile_eq_ok (opens : disk.openFile path = .ok location) :
    (∃ name, NamesFile path name) ∧ disk.Reaches path location ∧
      disk.get? location ≠ some .directory ∧
      (disk.get? location = none → disk.limits.refuses .make location = false) := by
  obtain ⟨parent, found, opens⟩ := bind_eq_ok_iff.mp opens
  split at opens
  next => cases opens
  next name named =>
    split at opens
    next => cases opens
    next plain =>
      obtain ⟨place, goes, opens⟩ := bind_eq_ok_iff.mp opens
      have names : NamesFile path name := ⟨named, by simpa using plain⟩
      have reaches := (reaches_iff named).mpr ⟨parent, found, goes⟩
      split at opens
      next => cases opens
      next entry free there =>
        obtain ⟨-, -, opens⟩ := bind_eq_ok_iff.mp opens
        cases opens
        exact ⟨⟨name, names⟩, reaches, by simpa [there] using free, by simp [there]⟩
      next absent =>
        obtain ⟨⟨⟩, permitted, opens⟩ := bind_eq_ok_iff.mp opens
        cases opens
        exact ⟨⟨name, names⟩, reaches, by simp [absent], fun _ => permit_eq_ok_iff.mp permitted⟩

/-- A file that cannot be opened is not written, and one that can holds as much as there is room
for. -/
theorem writeFile_eq {fault? : Option Fault}
    (writes : disk.writeFile path content = (after, fault?)) :
    (after = disk ∧ ∃ fault, fault? = some fault ∧ disk.openFile path = .error fault) ∨
      ∃ location, disk.openFile path = .ok location ∧
        after = disk.fill location (disk.limits.cut content).1 ∧
        fault? = (disk.limits.cut content).2 := by
  rw [writeFile] at writes
  split at writes
  next fault opens =>
    cases writes
    exact .inl ⟨rfl, fault, rfl, opens⟩
  next location opens =>
    cases writes
    exact .inr ⟨location, opens, rfl, rfl⟩

theorem removeFile_eq_ok_iff :
    disk.removeFile path = .ok after ↔
      (∃ name, NamesFile path name) ∧ ∃ location entry, disk.Reaches path location ∧
        disk.get? location = some entry ∧ entry ≠ .directory ∧
        disk.limits.refuses .remove location = false ∧ disk.erase location = after := by
  cases named : lastName? path with
  | none =>
    simp [removeFile, bind_eq_ok_iff, named, not_namesFile, throw, throwThe, MonadExceptOf.throw]
  | some name =>
    simp only [removeFile, bind_eq_ok_iff, reaches_iff named, named]
    constructor
    · rintro ⟨parent, found, location, goes, removed⟩
      split at removed
      next => cases removed
      next => cases removed
      next entry free there =>
        split at removed
        next => cases removed
        next plain =>
          obtain ⟨⟨⟩, permitted, removed⟩ := bind_eq_ok_iff.mp removed
          exact ⟨⟨name, named, by simpa using plain⟩, location, entry, ⟨parent, found, goes⟩,
            there, free, permit_eq_ok_iff.mp permitted, Except.ok.inj removed⟩
    · rintro ⟨⟨_, names⟩, location, entry, ⟨parent, found, goes⟩, there, free, permitted, rfl⟩
      refine ⟨parent, found, location, goes, ?_⟩
      rw [there]
      split
      next none => cases none
      next directory => exact absurd (Option.some.inj directory) free
      next =>
        rw [if_neg (by simp [names.plain]), permit_eq_ok_iff.mpr permitted]
        rfl

/-- A file that is moved is at its new place, unless it has a name there already. -/
theorem moveFile_eq_ok (moves : disk.moveFile source target = .ok after) :
    (∃ name, NamesFile source name) ∧ (∃ name, NamesFile target name) ∧
      ∃ old new entry, disk.Reaches source old ∧ disk.get? old = some entry ∧
        entry ≠ .directory ∧ disk.Reaches target new ∧
        ((∃ twin, disk.get? new = some twin ∧ entry.isSameFile twin = true ∧ after = disk) ∨
          (disk.get? new ≠ some .directory ∧ after = (disk.erase old).put new entry)) := by
  obtain ⟨oldParent, foundOld, moves⟩ := bind_eq_ok_iff.mp moves
  obtain ⟨newParent, foundNew, moves⟩ := bind_eq_ok_iff.mp moves
  split at moves
  next sourceName targetName sourceNamed targetNamed =>
    obtain ⟨old, goesOld, moves⟩ := bind_eq_ok_iff.mp moves
    obtain ⟨new, goesNew, moves⟩ := bind_eq_ok_iff.mp moves
    have reachesOld := (reaches_iff sourceNamed).mpr ⟨oldParent, foundOld, goesOld⟩
    have reachesNew := (reaches_iff targetNamed).mpr ⟨newParent, foundNew, goesNew⟩
    split at moves
    next => cases moves
    next => cases moves
    next existing entry free there =>
      split at moves
      next => cases moves
      next plain =>
        obtain ⟨sourcePlain, targetPlain⟩ := Bool.or_eq_false_iff.mp (by simpa using plain)
        refine ⟨⟨sourceName, sourceNamed, sourcePlain⟩, ⟨targetName, targetNamed, targetPlain⟩,
          old, new, entry, reachesOld, there, free, reachesNew, ?_⟩
        split at moves
        next same =>
          obtain ⟨twin, there, same⟩ := Option.any_eq_true _ _ |>.mp same
          exact .inl ⟨twin, there, same, (Except.ok.inj moves).symm⟩
        next =>
          split at moves
          next => cases moves
          next free =>
            obtain ⟨-, -, moves⟩ := bind_eq_ok_iff.mp moves
            obtain ⟨-, -, moves⟩ := bind_eq_ok_iff.mp moves
            exact .inr ⟨free, (Except.ok.inj moves).symm⟩
  next => cases moves

/-! ### What no operation changes -/

/-- What is so before an operation is so after it. -/
structure Invariant (holds : Disk → Prop) : Prop where
  make {disk after : Disk} {path : Path} : holds disk → disk.makeDirectory path = .ok after →
    holds after
  write {disk : Disk} (path : Path) (content : ByteArray) : holds disk →
    holds (disk.writeFile path content).1
  remove {disk after : Disk} {path : Path} : holds disk → disk.removeFile path = .ok after →
    holds after
  move {disk after : Disk} {source target : Path} : holds disk →
    disk.moveFile source target = .ok after → holds after

theorem invariant_isTree : Invariant IsTree where
  make tree makes := by
    obtain ⟨named, location, reaches, free, rfl⟩ := makeDirectory_eq_ok makes
    obtain ⟨name, named⟩ := Option.isSome_iff_exists.mp named
    exact reaches.put named tree (by simp [free]) _
  write {disk} path content tree := by
    rcases writeFile_eq (Prod.eta (disk.writeFile path content)).symm with
      ⟨same, -⟩ | ⟨location, opens, filled, -⟩
    · rwa [same]
    · obtain ⟨⟨name, names⟩, reaches, free, -⟩ := openFile_eq_ok opens
      exact filled ▸ reaches.fill names.last tree free _
  remove tree removes := by
    obtain ⟨-, location, entry, -, there, free, -, rfl⟩ := removeFile_eq_ok_iff.mp removes
    exact tree.erase (by simpa [there] using free)
  move tree moves := by
    obtain ⟨-, ⟨name, names⟩, old, new, entry, -, there, freeOld, reaches, moved⟩ :=
      moveFile_eq_ok moves
    rcases moved with ⟨-, -, -, rfl⟩ | ⟨free, rfl⟩
    · exact tree
    · have freeOld := mt (Option.some.inj <| there.symm.trans ·) freeOld
      exact (reaches.keeps (keeps_erase freeOld)).put names.last (tree.erase freeOld)
        (free_erase free old) _

/-- The working directory stays, and so does what is refused. -/
theorem invariant_setting (working : Location) (limits : Limits) :
    Invariant fun disk => disk.working = working ∧ disk.limits = limits where
  make same makes := by
    obtain ⟨-, location, -, -, rfl⟩ := makeDirectory_eq_ok makes
    exact same
  write {disk} path content same := by
    rcases writeFile_eq (Prod.eta (disk.writeFile path content)).symm with
      ⟨unwritten, -⟩ | ⟨location, -, filled, -⟩
    · rwa [unwritten]
    · exact filled ▸ ⟨(working_fill ..).trans same.1, (limits_fill ..).trans same.2⟩
  remove same removes := by
    obtain ⟨-, location, entry, -, -, -, -, rfl⟩ := removeFile_eq_ok_iff.mp removes
    exact same
  move same moves := by
    obtain ⟨-, -, old, new, entry, -, -, -, -, moved⟩ := moveFile_eq_ok moves
    rcases moved with ⟨-, -, -, rfl⟩ | ⟨-, rfl⟩ <;> exact same

theorem Invariant.discard {holds : Disk → Prop} (invariant : Invariant holds) (start : holds disk)
    (path : Path) : holds (disk.discard path) := by
  unfold Disk.discard
  cases removes : disk.removeFile path with
  | error => exact start
  | ok => exact invariant.remove start removes

/-! ### Removing what is below a path -/

theorem get?_filter (disk : Disk) (keep : Location → Bool) {location : Location}
    (named : location ≠ []) :
    Disk.get? { disk with entries := disk.entries.filter (keep ·.1) } location =
      if keep location then disk.get? location else none := by
  simp only [get?, if_neg named]
  induction disk.entries with
  | nil => simp
  | cons first rest ih =>
    obtain ⟨place, entry⟩ := first
    rw [List.filter_cons, List.lookup_cons]
    cases same : location == place with
    | true =>
      obtain rfl := beq_iff_eq.mp same
      cases kept : keep location with
      | true => simp
      | false => simp [ih, kept]
    | false =>
      split
      · rw [List.lookup_cons, same]
        exact ih
      · exact ih

theorem get?_removeAll (direct : .parent ∉ path.parts) (apart : ¬disk.place path <+: location) :
    (disk.removeAll path).get? location = disk.get? location := by
  by_cases named : location = []
  · rw [named]
    rfl
  unfold removeAll
  split
  next => rfl
  next top _ found =>
    have isTop : top = disk.place path := (find_eq_ok_iff.mp found).1.eq_place direct
    have kept : (!top.isPrefixOf location) = true := by
      rw [Bool.not_eq_true', Bool.eq_false_iff, ne_eq, List.isPrefixOf_iff_prefix, isTop]
      exact apart
    exact (get?_filter disk (!top.isPrefixOf ·) named).trans (if_pos kept)

theorem IsTree.removeAll (tree : disk.IsTree) (path : Path) : (disk.removeAll path).IsTree := by
  unfold Disk.removeAll
  split
  next => exact tree
  next top _ _ =>
    intro location named there
    rw [get?_filter disk (!top.isPrefixOf ·) named] at there
    split at there
    next kept =>
      have parent := tree location named there
      by_cases root : location.dropLast = []
      · rw [root]
        rfl
      · rw [get?_filter disk (!top.isPrefixOf ·) root, if_pos, parent]
        simp only [Bool.not_eq_true', Bool.eq_false_iff, ne_eq, List.isPrefixOf_iff_prefix] at kept ⊢
        exact fun above => kept (above.trans (List.dropLast_prefix location))
    next => exact absurd rfl there

end Disk

end DocIndex
