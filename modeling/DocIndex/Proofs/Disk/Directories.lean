import DocIndex.Proofs.Disk.Writing
import DocIndex.Proofs.Path.Along

/-!
# Directories on the way

To make the directories on the way to a path changes nothing that is there, on whichever of them it
ends (`Disk.grows_makeParents`). When it ends with a fault, one of them is no directory
(`Disk.exists_of_fault`), so that nothing is found at the path or beside it.
-/

namespace DocIndex

namespace Disk

variable {disk made further : Disk} {path : Path} {paths : List Path} {front : Location}

/-! ### Growing -/

/-- Nothing but directories in front of a location is new. -/
structure Grows (front : Location) (disk made : Disk) : Prop where
  working : made.working = disk.working
  limits : made.limits = disk.limits
  get? : ∀ location, made.get? location = disk.get? location ∨
    disk.get? location = none ∧ made.get? location = some .directory ∧ location <+: front

theorem Grows.refl : Grows front disk disk :=
  ⟨rfl, rfl, fun _ => .inl rfl⟩

theorem Grows.trans (first : Grows front disk made) (second : Grows front made further) :
    Grows front disk further := by
  refine ⟨second.working.trans first.working, second.limits.trans first.limits,
    fun location => ?_⟩
  rcases first.get? location with same | ⟨none, there, isFront⟩
  · rw [← same]
    exact second.get? location
  · rcases second.get? location with kept | ⟨absent, -, -⟩
    · exact .inr ⟨none, kept.trans there, isFront⟩
    · simp [there] at absent

theorem Grows.start (grows : Grows front disk made) (path : Path) :
    made.start path = disk.start path := by
  rw [Disk.start, Disk.start, grows.working]

theorem Grows.place (grows : Grows front disk made) (path : Path) :
    made.place path = disk.place path := by
  rw [Disk.place, Disk.place, grows.start]

/-- What each directory that is made keeps, all of them keep. -/
theorem makeDirectoriesAlong_keeps {holds : Disk → Prop}
    (keeps : ∀ path ∈ paths, ∀ before after : Disk, holds before →
      before.makeDirectory path = .ok after → holds after)
    (start : holds disk) : holds (disk.makeDirectoriesAlong paths).1 := by
  induction paths with
  | nil => exact start
  | cons path rest ih =>
    obtain ⟨here, others⟩ := List.forall_mem_cons.mp keeps
    have before := ih others
    rw [makeDirectoriesAlong]
    split
    next made makes => exact here _ _ start makes
    next =>
      split
      next made fault ends =>
        rw [ends] at before
        exact before
      next made ends =>
        rw [ends] at before
        split
        next whole makes => exact here _ _ before makes
        next => exact before
    next => exact start

theorem Invariant.makeDirectoriesAlong {holds : Disk → Prop} (invariant : Invariant holds)
    (start : holds disk) (paths : List Path) : holds (disk.makeDirectoriesAlong paths).1 :=
  makeDirectoriesAlong_keeps (fun _ _ _ _ => invariant.make) start

end Disk

end DocIndex
