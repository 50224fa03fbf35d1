import DocIndex.Command.Pages
import DocIndex.Service

/-!
# Callers that share a service

A guard lets one caller at a time use a service, so that what happens to it is a sequence of calls
in whatever order, and between two calls somebody may change the files. The central fact is that a
service which holds a store answers every call from it until a call clears it
(`Shared.step_of_held`), so that all callers in between share one object.
-/

namespace DocIndex

inductive Call where
  | loadOrBuild
  | checkIds
  | reset
  | rebuild
deriving DecidableEq, Repr

def Call.clears : Call → Bool
  | loadOrBuild | checkIds => false
  | reset | rebuild => true

/-- What happens next to a shared service. -/
inductive Turn where
  /-- A caller takes the guard. -/
  | call (caller : Nat) (call : Call)
  /-- The files change. -/
  | change (disk : Disk)

def Turn.clears : Turn → Bool
  | .call _ asked => asked.clears
  | .change _ => false

inductive Reply where
  | store (held : Held)
  | labels (labels : List String)
  | nothing

/-- The answer to a turn that clears nothing, from a store that is held. -/
def Turn.reply (held : Held) : Turn → Reply
  | .call _ .loadOrBuild => .store held
  | .call _ .checkIds => .labels held.store.duplicateLabels
  | _ => .nothing

structure Shared where
  service : Service
  disk : Disk

namespace Shared

def make (glob : Glob) (config : Config) (disk : Disk) : Shared :=
  ⟨Service.make glob config, disk⟩

def ofOutcome {α : Type} (reply : α → Reply) (outcome : Outcome α) : Reply × Shared :=
  (reply outcome.result, ⟨outcome.service, outcome.disk⟩)

def step (shared : Shared) : Turn → Reply × Shared
  | .call _ .loadOrBuild => ofOutcome .store (shared.service.loadOrBuild shared.disk)
  | .call _ .checkIds => ofOutcome .labels (shared.service.checkIds shared.disk)
  | .call _ .reset => (.nothing, ⟨shared.service.reset, shared.disk⟩)
  | .call _ .rebuild => ofOutcome .store (shared.service.rebuild shared.disk)
  | .change disk => (.nothing, ⟨shared.service, disk⟩)

def run (shared : Shared) : List Turn → List Reply × Shared
  | [] => ([], shared)
  | turn :: rest =>
    let first := shared.step turn
    let more := first.2.run rest
    (first.1 :: more.1, more.2)

def after (shared : Shared) (turns : List Turn) : Shared :=
  (shared.run turns).2

def replies (shared : Shared) (turns : List Turn) : List Reply :=
  (shared.run turns).1

@[simp] theorem after_nil (shared : Shared) : shared.after [] = shared := rfl

@[simp] theorem after_cons (shared : Shared) (turn : Turn) (rest : List Turn) :
    shared.after (turn :: rest) = (shared.step turn).2.after rest := rfl

@[simp] theorem replies_nil (shared : Shared) : shared.replies [] = [] := rfl

@[simp] theorem replies_cons (shared : Shared) (turn : Turn) (rest : List Turn) :
    shared.replies (turn :: rest) = (shared.step turn).1 :: (shared.step turn).2.replies rest := rfl

end Shared

/-! ### One turn -/

namespace Service

variable (service : Service) (disk : Disk)

theorem loadOrBuild_of_held {held : Held} (holds : service.held = some held) :
    service.loadOrBuild disk = ⟨held, service, disk, []⟩ := by
  rw [loadOrBuild, holds]

theorem service_rebuild :
    (service.rebuild disk).result.serial = service.issued ∧
      (service.rebuild disk).service = ⟨service.config, service.glob,
        some (service.rebuild disk).result, service.scans + 1, service.issued + 1⟩ :=
  ⟨rfl, rfl⟩

theorem service_loadOrBuild (empty : service.held = none) :
    (service.loadOrBuild disk).result.serial = service.issued ∧
      ∃ scans, service.scans ≤ scans ∧ scans ≤ service.scans + 1 ∧
        (service.loadOrBuild disk).service =
          ⟨service.config, service.glob, some (service.loadOrBuild disk).result, scans,
            service.issued + 1⟩ := by
  rw [loadOrBuild, empty]
  cases Store.load disk service.config.snapshot with
  | ok store => exact ⟨rfl, service.scans, Nat.le_refl _, Nat.le_succ _, rfl⟩
  | error error => exact ⟨rfl, service.scans + 1, Nat.le_succ _, Nat.le_refl _, rfl⟩

end Service

namespace Shared

variable {shared : Shared} {turn : Turn}

/-- A service that holds a store answers from it and stays as it is. -/
theorem step_of_held {held : Held} (holds : shared.service.held = some held)
    (calm : turn.clears = false) :
    (shared.step turn).1 = turn.reply held ∧ (shared.step turn).2.service = shared.service := by
  match turn with
  | .change disk => exact ⟨rfl, rfl⟩
  | .call _ .reset | .call _ .rebuild => cases calm
  | .call _ .loadOrBuild =>
    rw [step, Service.loadOrBuild_of_held _ _ holds]
    exact ⟨rfl, rfl⟩
  | .call _ .checkIds =>
    rw [step, Service.checkIds, Service.loadOrBuild_of_held _ _ holds]
    exact ⟨rfl, rfl⟩

/-- A service that holds nothing is left alone, or it answers from a new object and holds that. -/
theorem step_of_empty (empty : shared.service.held = none) (calm : turn.clears = false) :
    ((shared.step turn).1 = .nothing ∧ (∀ held, turn.reply held = .nothing) ∧
        (shared.step turn).2.service = shared.service) ∨
      ∃ held scans, (shared.step turn).1 = turn.reply held ∧ held.serial = shared.service.issued ∧
        shared.service.scans ≤ scans ∧ scans ≤ shared.service.scans + 1 ∧
        (shared.step turn).2.service =
          ⟨shared.service.config, shared.service.glob, some held, scans,
            shared.service.issued + 1⟩ := by
  match turn with
  | .change disk => exact .inl ⟨rfl, fun _ => rfl, rfl⟩
  | .call _ .reset | .call _ .rebuild => cases calm
  | .call _ .loadOrBuild | .call _ .checkIds =>
    obtain ⟨isNew, scans, least, most, after⟩ := shared.service.service_loadOrBuild shared.disk empty
    exact .inr ⟨_, scans, rfl, isNew, least, most, after⟩

theorem step_rebuild (shared : Shared) (caller : Nat) :
    ∃ held, (shared.step (.call caller .rebuild)).1 = .store held ∧
      held.serial = shared.service.issued ∧
      (shared.step (.call caller .rebuild)).2.service =
        ⟨shared.service.config, shared.service.glob, some held, shared.service.scans + 1,
          shared.service.issued + 1⟩ := by
  obtain ⟨isNew, after⟩ := shared.service.service_rebuild shared.disk
  exact ⟨_, rfl, isNew, after⟩

/-! ### Turns that clear nothing -/

/-- As long as nothing is cleared, a store that is held answers all turns. -/
theorem run_of_held {held : Held} {turns : List Turn} (holds : shared.service.held = some held)
    (calm : ∀ turn ∈ turns, turn.clears = false) :
    shared.replies turns = turns.map (Turn.reply held) ∧
      (shared.after turns).service = shared.service := by
  induction turns generalizing shared with
  | nil => exact ⟨rfl, rfl⟩
  | cons turn rest ih =>
    obtain ⟨calm, others⟩ := List.forall_mem_cons.mp calm
    obtain ⟨reply, same⟩ := step_of_held holds calm
    obtain ⟨replies, after⟩ := ih (same ▸ holds) others
    simp only [replies_cons, after_cons, List.map_cons, reply, replies, after, same, and_self]

/-- So does the first store that is held, which costs one scan at most. -/
theorem run_of_calm {turns : List Turn} (calm : ∀ turn ∈ turns, turn.clears = false) :
    ∃ held, shared.replies turns = turns.map (Turn.reply held) ∧
      shared.service.scans ≤ (shared.after turns).service.scans ∧
      (shared.after turns).service.scans ≤ shared.service.scans + 1 := by
  induction turns generalizing shared with
  | nil => exact ⟨⟨0, Store.empty⟩, rfl, Nat.le_refl _, Nat.le_succ _⟩
  | cons turn rest ih =>
    cases holds : shared.service.held with
    | some held =>
      obtain ⟨replies, after⟩ := run_of_held holds calm
      rw [after]
      exact ⟨held, replies, Nat.le_refl _, Nat.le_succ _⟩
    | none =>
      obtain ⟨calm, others⟩ := List.forall_mem_cons.mp calm
      simp only [replies_cons, after_cons, List.map_cons]
      rcases step_of_empty holds calm with
        ⟨reply, silent, same⟩ | ⟨held, scans, reply, -, least, most, after⟩
      · obtain ⟨held, replies, scans⟩ := @ih (shared.step turn).2 others
        rw [same] at scans
        exact ⟨held, by rw [reply, silent, replies], scans⟩
      · have holds : (shared.step turn).2.service.held = some held := by rw [after]
        obtain ⟨replies, same⟩ := run_of_held holds others
        rw [same, after]
        exact ⟨held, by rw [reply, replies], least, most⟩

/-! ### Serial numbers -/

/-- The store that is held has a serial number from this one on, and new stores get greater ones. -/
structure Numbered (least : Nat) (shared : Shared) : Prop where
  issued : least ≤ shared.service.issued
  held : ∀ held ∈ shared.service.held, least ≤ held.serial ∧ held.serial < shared.service.issued

theorem eq_of_reply_eq_store {held given : Held} (reply : turn.reply held = .store given) :
    given = held := by
  match turn with
  | .call _ .loadOrBuild => exact (Reply.store.inj reply).symm
  | .call _ .checkIds | .call _ .reset | .call _ .rebuild | .change _ => cases reply

/-- A turn gives and keeps nothing but what is held, or a new object. -/
theorem held_step (shared : Shared) (turn : Turn) :
    ((shared.step turn).2.service.issued = shared.service.issued ∧
        (∀ held ∈ (shared.step turn).2.service.held, held ∈ shared.service.held) ∧
        ∀ given, (shared.step turn).1 = .store given → given ∈ shared.service.held) ∨
      ∃ held, held.serial = shared.service.issued ∧
        (shared.step turn).2.service.issued = shared.service.issued + 1 ∧
        (shared.step turn).2.service.held = some held ∧
        ∀ given, (shared.step turn).1 = .store given → given = held := by
  cases calm : turn.clears with
  | true =>
    match turn with
    | .call _ .loadOrBuild | .call _ .checkIds | .change _ => cases calm
    | .call _ .reset => exact .inl ⟨rfl, by simp [step, Service.reset], fun _ reply => by cases reply⟩
    | .call caller .rebuild =>
      obtain ⟨held, reply, isNew, after⟩ := step_rebuild shared caller
      refine .inr ⟨held, isNew, by rw [after], by rw [after], ?_⟩
      intro given isGiven
      exact (Reply.store.inj (reply ▸ isGiven)).symm
  | false =>
    cases holds : shared.service.held with
    | some held =>
      obtain ⟨reply, same⟩ := step_of_held holds calm
      rw [reply, same, holds]
      exact .inl ⟨rfl, fun _ => id, fun given isGiven => eq_of_reply_eq_store isGiven ▸ rfl⟩
    | none =>
      rcases step_of_empty holds calm with
        ⟨reply, -, same⟩ | ⟨held, scans, reply, isNew, -, -, after⟩
      · rw [reply, same, holds]
        exact .inl ⟨rfl, fun _ => id, by simp⟩
      · rw [after]
        exact .inr ⟨held, isNew, rfl, rfl, fun given isGiven => eq_of_reply_eq_store (reply ▸ isGiven)⟩

theorem Numbered.step {least : Nat} (numbered : Numbered least shared) (turn : Turn) :
    Numbered least (shared.step turn).2 ∧
      shared.service.issued ≤ (shared.step turn).2.service.issued ∧
      ∀ given, (shared.step turn).1 = .store given →
        least ≤ given.serial ∧ given.serial < (shared.step turn).2.service.issued := by
  rcases held_step shared turn with ⟨same, kept, only⟩ | ⟨held, isNew, next, isHeld, only⟩
  · rw [same]
    refine ⟨⟨same ▸ numbered.issued, ?_⟩, Nat.le_refl _, fun given reply =>
      numbered.held given (only given reply)⟩
    rw [same]
    exact fun other mem => numbered.held other (kept other mem)
  · have bounds : least ≤ held.serial ∧ held.serial < (shared.step turn).2.service.issued := by
      rw [next, isNew]
      exact ⟨numbered.issued, Nat.lt_succ_self _⟩
    refine ⟨⟨Nat.le_of_lt (Nat.lt_of_le_of_lt bounds.1 bounds.2), ?_⟩, ?_, ?_⟩
    · intro other mem
      rw [isHeld] at mem
      cases mem
      exact bounds
    · exact next ▸ Nat.le_succ _
    · intro given reply
      exact only given reply ▸ bounds

theorem Numbered.run {least : Nat} (numbered : Numbered least shared) (turns : List Turn) :
    shared.service.issued ≤ (shared.after turns).service.issued ∧
      ∀ given, .store given ∈ shared.replies turns →
        least ≤ given.serial ∧ given.serial < (shared.after turns).service.issued := by
  induction turns generalizing shared with
  | nil => exact ⟨Nat.le_refl _, by simp⟩
  | cons turn rest ih =>
    obtain ⟨next, more, first⟩ := numbered.step turn
    obtain ⟨most, others⟩ := ih next
    refine ⟨Nat.le_trans more most, ?_⟩
    intro given mem
    rcases List.mem_cons.mp mem with now | later
    · obtain ⟨low, high⟩ := first given now.symm
      exact ⟨low, Nat.lt_of_lt_of_le high most⟩
    · exact others given later

/-- A call that clears the store does the same whatever is held. -/
theorem step_of_clears {clearing : Turn} (clears : clearing.clears = true) :
    shared.step clearing = step ⟨shared.service.reset, shared.disk⟩ clearing := by
  match clearing with
  | .call _ .loadOrBuild | .call _ .checkIds | .change _ => cases clears
  | .call _ .reset | .call _ .rebuild => rfl

theorem issued_le_serial {clearing : Turn} (clears : clearing.clears = true)
    {later : List Turn} {given : Held} (mem : .store given ∈ shared.replies (clearing :: later)) :
    shared.service.issued ≤ given.serial := by
  have numbered : Numbered shared.service.issued ⟨shared.service.reset, shared.disk⟩ :=
    ⟨Nat.le_refl _, by simp [Service.reset]⟩
  rw [replies_cons, step_of_clears clears, ← replies_cons] at mem
  exact ((numbered.run _).2 given mem).1

/-- Calls that clear nothing are all answered from one store, and cost one scan at most. A rebuild
costs one scan, and all are answered from its store until the next clearing call. A reset costs
none. What is given behind a clearing call is no object that was given before it. -/
theorem one_store_until_cleared (glob : Glob) (config : Config) (disk : Disk)
    (before between : List Turn) (calm : ∀ turn ∈ between, turn.clears = false) :
    let start := (make glob config disk).after before
    (∃ held, start.replies between = between.map (Turn.reply held) ∧
        start.service.scans ≤ (start.after between).service.scans ∧
        (start.after between).service.scans ≤ start.service.scans + 1) ∧
      (∀ caller, ∃ held,
        start.replies (.call caller .rebuild :: between) =
            .store held :: between.map (Turn.reply held) ∧
          (start.after [.call caller .rebuild]).service.scans = start.service.scans + 1 ∧
          (start.after (.call caller .rebuild :: between)).service.scans =
            start.service.scans + 1) ∧
      (∀ caller, (start.after [.call caller .reset]).service.scans = start.service.scans) ∧
      ∀ clearing later old new, clearing.clears = true →
        .store old ∈ (make glob config disk).replies before →
        .store new ∈ start.replies (clearing :: later) → old.serial < new.serial := by
  intro start
  refine ⟨run_of_calm calm, ?_, fun _ => rfl, ?_⟩
  · intro caller
    obtain ⟨held, reply, -, after⟩ := step_rebuild start caller
    have holds : (start.step (.call caller .rebuild)).2.service.held = some held := by rw [after]
    obtain ⟨replies, same⟩ := run_of_held holds calm
    refine ⟨held, ?_, ?_, ?_⟩
    · rw [replies_cons, reply, replies]
    · rw [after_cons, after_nil, after]
    · rw [after_cons, same, after]
  · intro clearing later old new clears given givenLater
    have numbered : Numbered 0 (make glob config disk) := ⟨Nat.le_refl 0, by simp [make, Service.make]⟩
    exact Nat.lt_of_lt_of_le ((numbered.run before).2 old given).2 (issued_le_serial clears givenLater)

/-- Three callers share the one section of a page, though all files are gone after the first call. -/
theorem one_store_until_cleared_threeCallers :
    let page : ByteArray := "<h1 id=s>S".toUTF8
    let start := make Command.htmlBelow ⟨[⟨.manual, "/m"⟩], "/s"⟩
      (.free [([.ofText "m"], .directory), ([.ofText "m", .ofText "a.html"], .file page)] [])
    let turns := [.call 1 .loadOrBuild, .change (.free [] []), .call 2 .checkIds,
      .call 3 .loadOrBuild]
    (∀ turn ∈ turns, turn.clears = false) ∧
      ∃ held, start.replies turns = [.store held, .nothing, .labels [], .store held] ∧
        held.store.records =
          [⟨.heading 1 "" "s" "/m/a.html", "S", ⟨"/m/a.html"⟩, .manual, 0⟩] := by
  intro page start turns
  have calm : ∀ turn ∈ turns, turn.clears = false := by simp [turns, Turn.clears, Call.clears]
  obtain ⟨held, replies, -⟩ := (one_store_until_cleared _ _ _ [] turns calm).1
  have first : held = (start.service.loadOrBuild start.disk).result := by
    have given := congrArg List.head? replies
    exact (Reply.store.inj (Option.some.inj given)).symm
  have records : held.store.records =
      [⟨.heading 1 "" "s" "/m/a.html", "S", ⟨"/m/a.html"⟩, .manual, 0⟩] := by
    rw [first]
    decide +kernel
  refine ⟨calm, held, replies.trans ?_, records⟩
  have labels : held.store.duplicateLabels = [] := by
    rw [Store.duplicateLabels, Store.labels, records]
    decide +kernel
  simp only [turns, List.map_cons, List.map_nil, Turn.reply, labels]

end Shared

end DocIndex
