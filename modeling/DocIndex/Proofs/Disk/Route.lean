import DocIndex.Disk

/-!
# Where paths lead

Where the parts of a path lead is a matter of their names alone (`Disk.route`); the disk only has to
have the directories on the way (`Disk.passes`). Both together say what `Disk.follow` gives
(`Disk.follow_eq_ok_iff`). In a tree the directories on the way are there if what stands at the end
is, so that a path without parent components is found wherever the same stands at its place
(`Disk.IsTree.find_eq_ok`).
-/

namespace DocIndex

namespace Disk

variable {disk other : Disk} {path : Path} {location target : Location} {entry : Entry}

theorem permit_eq_ok_iff {action : Action} :
    disk.permit action location = .ok () ↔ disk.limits.refuses action location = false := by
  unfold permit
  split <;> simp_all

def Opens (disk : Disk) (location : Location) : Prop :=
  disk.get? location = some .directory ∧ disk.limits.refuses .search location = false

theorem enter_eq_ok_iff : disk.enter location = .ok () ↔ disk.Opens location := by
  unfold enter Opens
  split <;> simp_all [permit_eq_ok_iff]

theorem step_of_name {part : FileName} (named : part ≠ .here ∧ part ≠ .parent) :
    step location part =
      if part.length ≤ maxNameSize then .ok (location ++ [part]) else .error .nameTooLong := by
  rw [step, if_neg named.1, if_neg named.2]

theorem bind_eq_ok_iff {α β : Type} {first : Except Fault α} {next : α → Except Fault β}
    {result : β} :
    (first >>= next) = .ok result ↔ ∃ value, first = .ok value ∧ next value = .ok result := by
  cases first <;> simp [bind, Except.bind]

/-- The location to which parts lead if all directories on the way are there. -/
def route (location : Location) : List FileName → Except Fault Location
  | [] => .ok location
  | part :: rest => do route (← step location part) rest

def passes (location : Location) : List FileName → List Location
  | [] => []
  | part :: rest =>
    location :: match step location part with
      | .ok next => passes next rest
      | .error _ => []

theorem follow_eq_ok_iff {parts : List FileName} :
    disk.follow location parts = .ok target ↔
      route location parts = .ok target ∧
        ∀ passed ∈ passes location parts, disk.Opens passed := by
  induction parts generalizing location with
  | nil => simp [follow, route, passes]
  | cons part rest ih =>
    rw [follow, route, passes, List.forall_mem_cons, ← enter_eq_ok_iff]
    cases disk.enter location with
    | error fault => simp [bind, Except.bind]
    | ok =>
      cases step location part with
      | error fault => simp [bind, Except.bind]
      | ok next => simpa [bind, Except.bind] using ih

/-- Without parent components a way leads down only. -/
theorem route_eq_ok_of_direct {parts : List FileName} (direct : .parent ∉ parts)
    (leads : route location parts = .ok target) :
    target = location ++ parts.filter (· ≠ .here) ∧
      ∀ passed ∈ passes location parts, passed <+: target := by
  induction parts generalizing location with
  | nil =>
    cases leads
    simp [passes]
  | cons part rest ih =>
    obtain ⟨notParent, direct⟩ := not_or.mp (mt List.mem_cons.mpr direct)
    rw [route] at leads
    obtain ⟨next, goes, leads⟩ := bind_eq_ok_iff.mp leads
    obtain ⟨place, passed⟩ := ih direct leads
    have down : next = location ++ [part].filter (· ≠ .here) := by
      rw [step] at goes
      split at goes
      next dot => simp [dot, Except.ok.inj goes]
      next name =>
        rw [if_neg (Ne.symm notParent)] at goes
        split at goes
        next => simp [name, ← Except.ok.inj goes]
        next => cases goes
    have whole : target = location ++ (part :: rest).filter (· ≠ .here) := by
      rw [place, down, List.append_assoc, ← List.filter_append, List.singleton_append]
    rw [passes, goes]
    exact ⟨whole, List.forall_mem_cons.mpr ⟨whole ▸ List.prefix_append _ _, passed⟩⟩

/-! ### Reaching a location -/

/-- A path leads to a location, whatever stands there. -/
def Reaches (disk : Disk) (path : Path) (location : Location) : Prop :=
  check path = .ok () ∧ disk.follow (disk.start path) path.parts = .ok location

/-- Where a path without parent components leads. -/
def place (disk : Disk) (path : Path) : Location :=
  disk.start path ++ path.parts.filter (· ≠ .here)

theorem Reaches.eq (reaches : disk.Reaches path location) (again : disk.Reaches path target) :
    location = target :=
  Except.ok.inj (reaches.2.symm.trans again.2)

theorem Reaches.eq_place (reaches : disk.Reaches path location) (direct : .parent ∉ path.parts) :
    location = disk.place path :=
  (route_eq_ok_of_direct direct (follow_eq_ok_iff.mp reaches.2).1).1

theorem find_eq_ok_iff :
    disk.find path = .ok (location, entry) ↔
      disk.Reaches path location ∧ disk.get? location = some entry ∧
        (path.endsInSlash = true → entry = .directory) := by
  simp only [find, Reaches, bind_eq_ok_iff]
  constructor
  · rintro ⟨⟨⟩, taken, found, leads, stands⟩
    split at stands
    next => cases stands
    next there =>
      cases stands
      exact ⟨⟨taken, leads⟩, there, fun _ => rfl⟩
    next other there =>
      split at stands
      next => cases stands
      next plain =>
        cases stands
        exact ⟨⟨taken, leads⟩, there, fun slash => absurd slash plain⟩
  · rintro ⟨⟨taken, leads⟩, there, slash⟩
    refine ⟨(), taken, location, leads, ?_⟩
    rw [there]
    cases entry with
    | directory => rfl
    | file | shared => exact if_neg fun ends => nomatch slash ends

theorem readBytes_eq_ok_iff {content : ByteArray} :
    disk.readBytes path = .ok content ↔
      ∃ location entry, disk.find path = .ok (location, entry) ∧ entry.content? = some content ∧
        disk.limits.refuses .read location = false := by
  simp only [readBytes, bind_eq_ok_iff]
  constructor
  · rintro ⟨⟨location, entry⟩, found, ⟨⟩, permitted, read⟩
    split at read
    next content isContent =>
      cases read
      exact ⟨location, entry, found, isContent, permit_eq_ok_iff.mp permitted⟩
    next => cases read
  · rintro ⟨location, entry, found, isContent, permitted⟩
    refine ⟨(location, entry), found, (), permit_eq_ok_iff.mpr permitted, ?_⟩
    rw [isContent]
    rfl

theorem readText_of_find {text : String} (found : disk.find path = .ok (location, entry))
    (content : entry.content? = some text.toUTF8)
    (permitted : disk.limits.refuses .read location = false) : disk.readText path = .ok text := by
  have decoded : String.fromUTF8? text.toUTF8 = some text := by
    rw [String.fromUTF8?]
    exact dif_pos text.isValidUTF8
  have bytes := readBytes_eq_ok_iff.mpr ⟨location, entry, found, content, permitted⟩
  simp only [readText, bytes, bind, Except.bind, decoded]
  rfl

/-- A path leads to a location wherever the directories on its way are there and open. -/
theorem Reaches.of_passes (reaches : disk.Reaches path location)
    (start : other.start path = disk.start path)
    (way : ∀ passed ∈ passes (disk.start path) path.parts, other.Opens passed) :
    other.Reaches path location := by
  refine ⟨reaches.1, ?_⟩
  rw [start]
  exact follow_eq_ok_iff.mpr ⟨(follow_eq_ok_iff.mp reaches.2).1, way⟩

theorem Reaches.opens_of_passes (reaches : disk.Reaches path location) {passed : Location}
    (mem : passed ∈ passes (disk.start path) path.parts) : disk.Opens passed :=
  (follow_eq_ok_iff.mp reaches.2).2 passed mem

/-! ### Trees -/

/-- What is there stands in a directory. -/
def IsTree (disk : Disk) : Prop :=
  ∀ location, location ≠ [] → disk.get? location ≠ none →
    disk.get? location.dropLast = some .directory

theorem IsTree.get?_of_isPrefix (tree : disk.IsTree) (there : disk.get? target ≠ none)
    (front : location <+: target) (distinct : location ≠ target) :
    disk.get? location = some .directory := by
  obtain ⟨rest, rfl⟩ := front
  induction rest generalizing location with
  | nil => simp at distinct
  | cons name rest ih =>
    rw [← List.singleton_append, ← List.append_assoc] at there
    have next : disk.get? (location ++ [name]) ≠ none := by
      cases rest with
      | nil => simpa using there
      | cons other rest => simp [ih there (by simp)]
    simpa using tree _ (by simp) next

/-- What a path without parent components leads to is found on every tree where it stands, if the
directories that may be gone through may be so there too. -/
theorem IsTree.find_eq_ok (tree : other.IsTree) (direct : .parent ∉ path.parts)
    (start : other.start path = disk.start path)
    (opens : ∀ passed, disk.limits.refuses .search passed = false →
      other.limits.refuses .search passed = false)
    (found : disk.find path = .ok (location, entry)) (there : other.get? location = some entry) :
    other.find path = .ok (location, entry) := by
  obtain ⟨reaches, stands, slash⟩ := find_eq_ok_iff.mp found
  have down := (route_eq_ok_of_direct direct (follow_eq_ok_iff.mp reaches.2).1).2
  refine find_eq_ok_iff.mpr ⟨reaches.of_passes start fun passed mem => ?_, there, slash⟩
  obtain ⟨directory, permitted⟩ := reaches.opens_of_passes mem
  refine ⟨?_, opens passed permitted⟩
  by_cases here : passed = location
  · rw [here, stands] at directory
    rw [here, there, directory]
  · exact tree.get?_of_isPrefix (by simp [there]) (down passed mem) here

end Disk

end DocIndex
