import DocIndex.Command.Pages
import DocIndex.Proofs.Page.Storing
import DocIndex.Proofs.Store.Persisting

/-!
# Reloading a snapshot

What a scan finds is read back from its snapshot as it was (`Store.ofSnapshot_buildIndex`), and a
file stays where it is found as long as its path does (`Disk.Untouched`). So a service that holds
nothing takes the records of an earlier scan from the snapshot, whatever has become of the pages
(`Service.reload_of_written`).
-/

namespace DocIndex

/-! ### The records of a scan -/

namespace Text

theorem length_ofBytes_le (bytes : List UInt8) : (ofBytes bytes).length ≤ bytes.length := by
  fun_induction ofBytes bytes with
  | case1 => exact Nat.le_refl _
  | case2 b bytes ascii ih => exact Nat.succ_le_succ ih
  | case3 b bytes notAscii read ih =>
    exact Nat.succ_le_succ (Nat.le_trans ih (length_characterFrom_le b bytes))

theorem length_toList (bytes : ByteArray) : bytes.toList.length = bytes.size := by
  have loop (i : Nat) (found : List UInt8) :
      (ByteArray.toList.loop bytes i found).length = found.length + (bytes.size - i) := by
    fun_induction ByteArray.toList.loop bytes i found with
    | case1 i found more ih =>
      rw [ih, List.length_cons]
      omega
    | case2 i found done =>
      rw [List.length_reverse]
      omega
  rw [ByteArray.toList, loop]
  simp

end Text

def Entry.size (entry : Entry) : Nat :=
  match entry.content? with
  | none => 0
  | some content => content.size

def Disk.HasWordSizes (disk : Disk) : Prop :=
  ∀ location entry, disk.get? location = some entry → entry.size ≤ UInt64.size

theorem Disk.hasWordSizes_of_entries {disk : Disk}
    (sizes : ∀ entry ∈ disk.entries, entry.2.size ≤ UInt64.size) : disk.HasWordSizes := by
  intro location entry there
  by_cases named : location = []
  · rw [named] at there
    cases there
    exact Nat.zero_le _
  · exact sizes _ (mem_entries_of_get? named there)

theorem Disk.HasWordSizes.removeFile {disk after : Disk} {path : Path} (sizes : disk.HasWordSizes)
    (removes : disk.removeFile path = .ok after) : after.HasWordSizes := by
  obtain ⟨-, removed, _, -, stands, isFile, -, rfl⟩ := removeFile_eq_ok_iff.mp removes
  have free : disk.get? removed ≠ some .directory := by simpa [stands] using isFile
  intro location entry there
  by_cases here : location = removed
  · rw [here, get?_erase_self (ne_nil_of_free free)] at there
    cases there
  · rw [get?_erase_of_ne here] at there
    exact sizes location entry there

theorem Findings.records_join (findings : List Findings) :
    (join findings).records = findings.flatMap Findings.records := by
  induction findings with
  | nil => rfl
  | cons first rest ih => exact congrArg (first.records ++ ·) ih

theorem storable_of_mem_indexFile {disk : Disk} (sizes : disk.HasWordSizes) {roots : List Root}
    {pageClass : PageClass} {file : Path} {record : Record}
    (mem : record ∈ (indexFile disk roots pageClass file).records) :
    record.IsStorable ∧ record.offset < UInt64.size := by
  rw [indexFile] at mem
  split at mem
  next => cases mem
  next content reads =>
    obtain ⟨location, entry, found, isContent, -⟩ := Disk.readBytes_eq_ok_iff.mp reads
    have size := sizes location entry (Disk.find_eq_ok_iff.mp found).2.1
    rw [Entry.size, isContent] at size
    obtain ⟨storable, within⟩ := (Pass.fits_index _ _).records record mem
    refine ⟨storable, Nat.lt_of_lt_of_le within ?_⟩
    calc (String.ofList (Text.ofBytes content.toList)).length
        = (Text.ofBytes content.toList).length := by simp
      _ ≤ content.toList.length := Text.length_ofBytes_le _
      _ = content.size := Text.length_toList content
      _ ≤ UInt64.size := size

/-- The records of all pages are read back from a snapshot as they are. -/
theorem Store.ofSnapshot_buildIndex (glob : Glob) {disk : Disk} (sizes : disk.HasWordSizes)
    (roots : List Root) : ofSnapshot (Store.mk (buildIndex glob disk roots).records).snapshot =
      .ok ⟨(buildIndex glob disk roots).records⟩ := by
  have storable : ∀ record ∈ (buildIndex glob disk roots).records,
      record.IsStorable ∧ record.offset < UInt64.size := by
    intro record mem
    simp only [buildIndex, Findings.records_join, List.mem_flatMap, List.mem_map] at mem
    obtain ⟨_, ⟨root, -, rfl⟩, mem⟩ := mem
    simp only [indexRoot, Findings.records_join, List.mem_flatMap, List.mem_map] at mem
    obtain ⟨_, ⟨page, -, rfl⟩, mem⟩ := mem
    exact storable_of_mem_indexFile sizes mem
  exact ofSnapshot_snapshot (fun record mem => (storable record mem).2)
    (fun record mem => (storable record mem).1)

/-! ### A file that stays -/

namespace Disk

variable {disk later : Disk} {path : Path} {location : Location} {entry : Entry}

/-- What a path leads to is still at its location, on a disk that may be different otherwise. If the
path goes back to a parent, the directories that it leads through are still there too. -/
structure Untouched (path : Path) (disk later : Disk) : Prop where
  start : later.start path = disk.start path
  tree : later.IsTree
  stays : ∀ location entry, disk.find path = .ok (location, entry) →
    later.get? location = some entry
  search : ∀ location, later.limits.refuses .search location = false
  read : ∀ location, later.limits.refuses .read location = false
  way : .parent ∈ path.parts → ∀ passed ∈ passes (disk.start path) path.parts,
    later.get? passed = some .directory

theorem Untouched.find_eq_ok (untouched : Untouched path disk later)
    (found : disk.find path = .ok (location, entry)) : later.find path = .ok (location, entry) := by
  have there := untouched.stays location entry found
  by_cases direct : .parent ∈ path.parts
  · obtain ⟨reaches, -, slash⟩ := find_eq_ok_iff.mp found
    have way : ∀ passed ∈ passes (disk.start path) path.parts, later.Opens passed :=
      fun passed mem => ⟨untouched.way direct passed mem, untouched.search passed⟩
    exact find_eq_ok_iff.mpr ⟨reaches.of_passes untouched.start way, there, slash⟩
  · exact untouched.tree.find_eq_ok direct untouched.start (fun passed _ => untouched.search passed)
      found there

theorem limits_removeAll (disk : Disk) (path : Path) :
    (disk.removeAll path).limits = disk.limits := by
  unfold removeAll
  split <;> rfl

theorem untouched_removeAll (tree : disk.IsTree) (free : disk.limits = .none) {removed : Path}
    (direct : .parent ∉ path.parts) (directRemoved : .parent ∉ removed.parts)
    (apart : ¬disk.place removed <+: disk.place path) :
    Untouched path disk (disk.removeAll removed) where
  start := by
    unfold removeAll
    split <;> rfl
  tree := tree.removeAll removed
  search location := by rw [limits_removeAll, free]; rfl
  read location := by rw [limits_removeAll, free]; rfl
  stays location entry found := by
    obtain ⟨reaches, there, -⟩ := find_eq_ok_iff.mp found
    rw [get?_removeAll directRemoved (reaches.eq_place direct ▸ apart), there]
  way parent := absurd parent direct

end Disk

namespace Service

variable {service : Service} {disk later : Disk} {outcome : Outcome Held} {store : Store}

/-! ### What a scan does not change -/

theorem loadOrBuild_keeps {holds : Disk → Prop} (invariant : Disk.Invariant holds)
    (service : Service) (start : holds disk) : holds (service.loadOrBuild disk).disk := by
  have scanned : holds (service.scan disk).disk := Store.persist_keeps invariant _ start _
  rw [loadOrBuild]
  split
  next => exact start
  next =>
    split
    next => exact start
    next => exact scanned

/-! ### Scans that wrote their snapshot -/

theorem loadOrBuild_of_load (empty : service.held = none)
    (loads : Store.load disk service.config.snapshot = .ok store) :
    (service.loadOrBuild disk).result.store = store ∧
      (service.loadOrBuild disk).service.scans = service.scans ∧
      (service.loadOrBuild disk).log.warnings = [] ∧ (service.loadOrBuild disk).disk = disk := by
  rw [loadOrBuild, empty, loads]
  exact ⟨rfl, rfl, rfl, rfl⟩

theorem getLast?_log_scan (service : Service) (disk : Disk) (notes : Log) :
    (notes ++ (service.scan disk).log).getLast? = (service.scan disk).log.getLast? := by
  rw [scan, ← List.append_assoc, List.getLast?_concat, List.getLast?_concat]

def Wrote (service : Service) (disk : Disk) : Prop :=
  (service.scan disk).log.getLast? = some (.progress (.written service.config.snapshot))

theorem Wrote.persist (wrote : service.Wrote disk) :
    (service.scan disk).result.store.persist disk service.config.snapshot =
      ((service.scan disk).disk, .ok ()) := by
  rw [Wrote, scan, List.getLast?_concat] at wrote
  cases result : (Store.persist ⟨(buildIndex service.glob disk service.config.roots).records⟩ disk
      service.config.snapshot).2 with
  | ok => exact Prod.ext rfl result
  | error error => simp [result] at wrote

/-- A call whose last note is that the snapshot was written has scanned. -/
theorem exists_scan_of_written
    (called : outcome = service.loadOrBuild disk ∨ outcome = service.rebuild disk)
    (written : outcome.log.getLast? = some (.progress (.written service.config.snapshot))) :
    ∃ (scanner : Service) (before : Disk), scanner.config = service.config ∧
      (before = disk ∨ disk.removeFile service.config.snapshot = .ok before) ∧
      scanner.Wrote before ∧ outcome.result = (scanner.scan before).result ∧
      outcome.service.config = service.config ∧ outcome.disk = (scanner.scan before).disk := by
  rcases called with rfl | rfl
  · rw [loadOrBuild] at written ⊢
    split at written
    next => cases written
    next =>
      split at written
      next => cases written
      next =>
        have wrote := (getLast?_log_scan service disk [_]).symm.trans written
        exact ⟨service, disk, rfl, .inl rfl, wrote, rfl, rfl, rfl⟩
  · have wrote := (getLast?_log_scan service.reset _ _).symm.trans written
    refine ⟨service.reset, _, rfl, ?_, wrote, rfl, rfl, rfl⟩
    cases removes : disk.removeFile service.config.snapshot with
    | ok removed => exact .inr rfl
    | error fault => cases fault <;> exact .inl rfl

/-- After a scan that wrote its snapshot, every service with that snapshot that holds nothing takes
the same records from it, in the same order, as long as the snapshot is untouched. It does not scan,
warns of nothing and leaves the disk alone. -/
theorem reload_of_written {other : Service} (sizes : disk.HasWordSizes)
    (called : outcome = service.loadOrBuild disk ∨ outcome = service.rebuild disk)
    (written : outcome.log.getLast? = some (.progress (.written service.config.snapshot)))
    (untouched : Disk.Untouched service.config.snapshot outcome.disk later)
    (same : other.config.snapshot = outcome.service.config.snapshot) (empty : other.held = none) :
    (other.loadOrBuild later).result.store = outcome.result.store ∧
      (other.loadOrBuild later).service.scans = other.scans ∧
      (other.loadOrBuild later).log.warnings = [] ∧ (other.loadOrBuild later).disk = later := by
  obtain ⟨scanner, before, config, isBefore, wrote, result, kept, after⟩ :=
    exists_scan_of_written called written
  have sizesBefore : before.HasWordSizes :=
    isBefore.elim (fun isDisk => isDisk ▸ sizes) sizes.removeFile
  have persists := wrote.persist
  rw [config, ← after] at persists
  obtain ⟨location, entry, found, content⟩ := Store.find_persist persists
  have text := Disk.readText_of_find (untouched.find_eq_ok found) content (untouched.read location)
  have loads : Store.load later other.config.snapshot = .ok outcome.result.store := by
    rw [same, kept, Store.load, text, result]
    have read := Store.ofSnapshot_buildIndex scanner.glob sizesBefore scanner.config.roots
    simp only [scan, hold]
    rw [read]
  exact loadOrBuild_of_load empty loads

/-- The pages are removed after the scan, and a new service has other roots. -/
theorem reload_of_written_rootsRemoved :
    let page := "<h2 id=s>4.1 S</h2><dt class=pubdef><a id=f/1></a><dd>Is. Or not."
    let disk : Disk :=
      .free [([.ofText "m"], .directory), ([.ofText "m", .ofText "a.html"], .file page.toUTF8)] []
    let outcome := (make Command.htmlBelow ⟨[⟨.manual, "/m"⟩], "/c/s"⟩).loadOrBuild disk
    let later := outcome.disk.removeAll "/m"
    let other := make Command.htmlBelow ⟨[⟨.misc, "/x"⟩], "/c/s"⟩
    outcome.log.getLast? = some (.progress (.written "/c/s")) ∧
      outcome.result.store.records =
        [⟨.heading 2 "4.1" "s" "/m/a.html", "S", ⟨"/m/a.html"⟩, .manual, 0⟩,
          ⟨.callable "f" 1, "Is.", ⟨"/m/a.html"⟩, .manual, 19⟩] ∧
      later.has "/m" = false ∧
      (other.loadOrBuild later).result.store = outcome.result.store ∧
      (other.loadOrBuild later).service.scans = 0 ∧
      (outcome.service.reset.loadOrBuild later).result.store = outcome.result.store ∧
      (outcome.service.reset.loadOrBuild later).service.scans = 1 := by
  intro page disk outcome later other
  have tree : disk.IsTree :=
    Disk.isTree_of_entries (by simp [disk, Disk.get?, Disk.free, List.lookup_cons])
  have sizes : disk.HasWordSizes := Disk.hasWordSizes_of_entries (by decide +kernel)
  have written : outcome.log.getLast? = some (.progress (.written "/c/s")) := by decide +kernel
  have free : outcome.disk.limits = .none :=
    (loadOrBuild_keeps (Disk.invariant_setting [] .none) _ ⟨rfl, rfl⟩).2
  have untouched : Disk.Untouched "/c/s" outcome.disk later :=
    Disk.untouched_removeAll (loadOrBuild_keeps Disk.invariant_isTree _ tree) free
      (by decide +kernel) (by decide +kernel) (by decide +kernel)
  have byOther := @reload_of_written _ _ _ _ other sizes (.inl rfl) written untouched rfl rfl
  have afterReset := @reload_of_written _ _ _ _ outcome.service.reset sizes (.inl rfl) written
    untouched (by rw [reset]) (by rw [reset])
  refine ⟨written, by decide +kernel, by decide +kernel, byOther.1, byOther.2.1, afterReset.1, ?_⟩
  rw [afterReset.2.1]
  decide +kernel

/-- A snapshot path that goes back to the parent of a root is lost with the root, though the file is
not: the service scans again, and finds nothing. -/
theorem rescan_through_removed_root :
    let disk : Disk := .free
      [([.ofText "m"], .directory), ([.ofText "m", .ofText "a.html"], .file "<h1 id=s>S".toUTF8)] []
    let outcome := (make Command.htmlBelow ⟨[⟨.manual, "/m"⟩], "/m/../s"⟩).loadOrBuild disk
    let later := outcome.disk.removeAll "/m"
    let again := outcome.service.reset.loadOrBuild later
    outcome.log.getLast? = some (.progress (.written "/m/../s")) ∧
      (outcome.disk.readText "/s").toOption = some outcome.result.store.snapshot ∧
      later.get? [.ofText "s"] = outcome.disk.get? [.ofText "s"] ∧
      again.result.store ≠ outcome.result.store ∧ again.service.scans = 2 ∧
      again.log.warnings = [.noDirectory "/m"] := by
  intro disk outcome later again
  refine ⟨by decide +kernel, by decide +kernel, ?_, by decide +kernel, by decide +kernel,
    by decide +kernel⟩
  exact Disk.get?_removeAll (by decide +kernel) (by decide +kernel)

end Service

end DocIndex
