import DocIndex.Service

/-!
# The paths on the way to a path

A path is its segments with slashes between them (`ofSegments_segments`). The paths on the way to it
end behind one of its segments, so that they and their parts begin it (`leadsTo_of_mem_along`). A
name can be written longer without a change to what stands in front of it (`segments_temporary`).
-/

namespace DocIndex

theorem intercalate_append {α : Type} (separator : List α) {front back : List (List α)}
    (before : front ≠ []) (behind : back ≠ []) :
    separator.intercalate (front ++ back) =
      separator.intercalate front ++ (separator ++ separator.intercalate back) := by
  induction front with
  | nil => exact absurd rfl before
  | cons segment front ih =>
    cases front with
    | nil => simp [List.intercalate_cons_of_ne_nil behind]
    | cons next front =>
      have rest := ih (List.cons_ne_nil _ _)
      rw [List.cons_append] at rest
      rw [List.cons_append, List.cons_append, List.intercalate_cons_cons, rest,
        List.intercalate_cons_cons]
      simp only [List.append_assoc]

namespace Path

/-! ### Segments -/

theorem segments_ne_nil (path : Path) : path.segments ≠ [] :=
  List.splitOnP_ne_nil _ _

theorem not_mem_of_mem_segments {path : Path} {segment : FileName}
    (mem : segment ∈ path.segments) : slash ∉ segment := by
  have clean (bytes : List UInt8) : ∀ segment ∈ bytes.splitOnP (· == slash), slash ∉ segment := by
    induction bytes with
    | nil => simp [List.splitOnP_nil]
    | cons b bs ih =>
      rw [List.splitOnP_cons_eq_if_modifyHead]
      split
      · exact List.forall_mem_cons.mpr ⟨List.not_mem_nil, ih⟩
      · rename_i other
        obtain ⟨first, others, rest⟩ :=
          List.exists_cons_of_ne_nil (List.splitOnP_ne_nil (· == slash) bs)
        rw [rest] at ih ⊢
        obtain ⟨here, others⟩ := List.forall_mem_cons.mp ih
        refine List.forall_mem_cons.mpr ⟨fun isSlash => ?_, others⟩
        rcases List.mem_cons.mp isSlash with rfl | isSlash
        · exact other (beq_self_eq_true slash)
        · exact here isSlash
  exact clean _ _ mem

@[simp] theorem ofSegments_segments (path : Path) : ofSegments path.segments = path := by
  rw [ofSegments, segments, ← List.splitOn_eq_splitOnP, List.intercalate_splitOn]

theorem segments_ofSegments {segments : List FileName} (some : segments ≠ [])
    (clean : ∀ segment ∈ segments, slash ∉ segment) : (ofSegments segments).segments = segments := by
  rw [ofSegments, Path.segments, ← List.splitOn_eq_splitOnP,
    List.splitOn_intercalate slash clean some]

theorem exists_segments_eq {path : Path} {name : FileName} (last : path.parts.getLast? = some name)
    (plain : path.endsInSlash = false) : ∃ front, path.segments = front ++ [name] := by
  obtain ⟨front, segment, shape⟩ : ∃ front segment, path.segments = front ++ [segment] :=
    ⟨_, _, (List.dropLast_concat_getLast path.segments_ne_nil).symm⟩
  by_cases empty : segment = []
  · have bytes : path.bytes = [slash].intercalate (front ++ [segment]) := by
      rw [← shape]
      exact congrArg Path.bytes (ofSegments_segments path).symm
    rw [empty] at bytes
    cases front with
    | nil => simp [parts, shape, empty] at last
    | cons first others =>
      rw [intercalate_append _ (List.cons_ne_nil _ _) (List.cons_ne_nil _ _)] at bytes
      simp [endsInSlash, bytes] at plain
  · refine ⟨front, ?_⟩
    have same : segment = name := by
      simpa [parts, shape, empty] using last
    rw [shape, same]

theorem isAbsolute_of_append {path longer : Path} {rest : List UInt8} (named : path.bytes ≠ [])
    (bytes : longer.bytes = path.bytes ++ rest) : longer.isAbsolute = path.isAbsolute := by
  obtain ⟨b, bs, begins⟩ := List.exists_cons_of_ne_nil named
  simp only [isAbsolute, bytes, begins, List.cons_append, List.head?_cons]

/-! ### The paths on the way -/

/-- A path begins with another one, which leads to the directory of its last part or to one in front
of that. -/
structure LeadsTo (front path : Path) : Prop where
  named : front.bytes ≠ []
  bytes : ∃ rest, path.bytes = front.bytes ++ rest
  parts : front.parts <+: path.parts.dropLast

theorem LeadsTo.isAbsolute {front path : Path} (leads : front.LeadsTo path) :
    front.isAbsolute = path.isAbsolute := by
  obtain ⟨rest, bytes⟩ := leads.bytes
  exact (isAbsolute_of_append leads.named bytes).symm

variable {path : Path} {front : List FileName} {name : FileName}

theorem segments_temporary (segments : path.segments = front ++ [name]) :
    path.temporary.segments = front ++ [name ++ .ofText ".tmp"] := by
  have longer : path.temporary = ofSegments (front ++ [name ++ .ofText ".tmp"]) := by
    rw [temporary, ← ofSegments_segments path, segments]
    cases front with
    | nil => simp [ofSegments]
    | cons first others =>
      simp only [ofSegments, intercalate_append _ (List.cons_ne_nil _ _) (List.cons_ne_nil _ _)]
      simp
  rw [longer]
  have clean : ∀ segment ∈ front ++ [name], slash ∉ segment :=
    segments ▸ fun _ => not_mem_of_mem_segments
  refine segments_ofSegments (by simp) fun segment mem => ?_
  rcases List.mem_append.mp mem with mem | mem
  · exact clean segment (List.mem_append_left _ mem)
  · have clean := clean name (List.mem_append_right _ (List.mem_singleton_self _))
    rw [List.mem_singleton.mp mem, List.mem_append]
    exact fun isSlash => isSlash.elim clean (by decide)

/-- The temporary path has another name than its path, and nothing else is different. -/
theorem parts_temporary (last : path.parts.getLast? = some name)
    (plain : path.endsInSlash = false) :
    path.temporary.parts = path.parts.dropLast ++ [name ++ .ofText ".tmp"] := by
  obtain ⟨front, segments⟩ := exists_segments_eq last plain
  have named : name ≠ [] := by
    rintro rfl
    have mem := List.mem_of_getLast? last
    simp [parts] at mem
  have parts : path.parts = front.filter (!·.isEmpty) ++ [name] := by
    simp [Path.parts, segments, named]
  rw [parts, List.dropLast_concat, Path.parts, segments_temporary segments]
  simp [named]

theorem endsInSlash_temporary (path : Path) : path.temporary.endsInSlash = false := by
  have last : (FileName.ofText ".tmp").getLast? = some 0x70 := by decide
  rw [endsInSlash, temporary, List.getLast?_append, last]
  rfl

end Path

end DocIndex
