import DbosRelay.Library.Heartbeats
import DbosRelay.Library.Runs
import DbosRelay.Library.Tables
import DbosRelay.Router.AtMostOnce

/-!
# The directory of instances

The `instances` table as the manager of `internal/ha/instance.go` keeps it, with the
statements of `internal/store/queries/instances.sql`, and what the router finds in it.
An instance registers when it starts, confirms itself with heartbeats and deletes its
row when it stops; the adoption loops of all instances delete rows without a recent
heartbeat.  A heartbeat updates the row if there is one.

The instants of the rows are of the database's clock, the cutoff of a deletion is of
the deleting instance's clock.
-/

namespace DbosRelay.Cluster.Directory

open DbosRelay.Basic
open DbosRelay.Hub (Backend HandOff)
open DbosRelay.Library.Heartbeats
open DbosRelay.Library.Runs
open DbosRelay.Library.Tables
open DbosRelay.Router

/-! ## The table -/

/-- A row of `instances`, less its identifier. -/
structure Instance where
  advertiseAddress : String
  port : Int
  startedAt : Time
  heartbeatAt : Time
deriving DecidableEq, Repr

abbrev InstanceTable := Table UUID Instance

/-- `UpsertInstance`. -/
def upsertInstance (now : Time) (id : UUID) (advertiseAddress : String)
    (port : Int) (table : InstanceTable) : InstanceTable :=
  table.insert id
    { advertiseAddress := advertiseAddress
      port := port
      startedAt := ((table.lookup id).map Instance.startedAt).getD now
      heartbeatAt := now }

/-- `HeartbeatInstance`. -/
def heartbeatInstance (now : Time) (id : UUID) (table : InstanceTable) :
    InstanceTable :=
  modify table id fun row => { row with heartbeatAt := now }

/-- `DeleteInstance`. -/
def deleteInstance (id : UUID) (table : InstanceTable) : InstanceTable :=
  table.erase id

/-- `DeleteStaleInstances`. -/
def deleteStaleInstances (cutoff : Time) (table : InstanceTable) :
    InstanceTable :=
  keepValues (fun row => !decide (row.heartbeatAt < cutoff)) table

/-- `GetInstance`, with the columns the router reads. -/
def getInstance (id : UUID) (table : InstanceTable) : Option PeerInstance :=
  (table.lookup id).map fun row =>
    ⟨row.advertiseAddress, row.port, some row.heartbeatAt⟩

/-! ## The managers -/

/-- `ManagerOptions`, less the intervals of the loops. -/
structure ManagerOptions where
  advertiseAddress : String
  port : Int
  staleThreshold : Duration
  standalone : Bool
deriving DecidableEq, Repr

/-- `NewManager`. -/
def newManager (options : ManagerOptions) : ManagerOptions where
  advertiseAddress :=
    if options.advertiseAddress = "" then "127.0.0.1"
    else options.advertiseAddress
  port := if options.port = 0 then 8090 else options.port
  staleThreshold :=
    if options.staleThreshold ≤ 0 then 120 * second
    else options.staleThreshold
  standalone := options.standalone

/-- The column `port` of an instance; the conversion to `int32` may wrap. -/
def ManagerOptions.portColumn (options : ManagerOptions) : Int :=
  options.port.bmod (2 ^ 32)

/-- The clock of the database, the table, and the managers which have started. -/
structure InstanceSystem where
  now : Time
  table : InstanceTable
  running : Table UUID ManagerOptions

namespace InstanceSystem

/-- No instance has been started. -/
def initial (now : Time) : InstanceSystem := ⟨now, ∅, ∅⟩

/-- The options of an instance whose loops are running. -/
def loops (system : InstanceSystem) (id : UUID) : Option ManagerOptions :=
  (system.running.lookup id).filter fun options => !options.standalone

end InstanceSystem

/-- What happens to the managers. -/
inductive InstanceEvent where
  | passes (time : Duration)
  /-- `Start` of the manager `NewManager` makes; its statement may fail. -/
  | starts (id : UUID) (options : ManagerOptions) (succeeds : Bool)
  /-- A turn of `heartbeatLoop`. -/
  | beats (id : UUID) (succeeds : Bool)
  /-- A turn of `adoptionLoop`, with the clock of its instance. -/
  | sweeps (id : UUID) (clock : Time) (succeeds : Bool)
  /-- `Stop`. -/
  | stops (id : UUID) (succeeds : Bool)
  | crashes (id : UUID)
deriving DecidableEq, Repr

/-- A statement which fails has no effect. -/
def attempt (succeeds : Bool) (statement : InstanceTable → InstanceTable)
    (table : InstanceTable) : InstanceTable :=
  if succeeds then statement table else table

/-- One event. -/
def InstanceSystem.step (system : InstanceSystem) :
    InstanceEvent → Option InstanceSystem
  | .passes time =>
      if 0 ≤ time then some { system with now := system.now + time } else none
  | .starts id options succeeds =>
      if (system.running.lookup id).isSome then none
      else if succeeds then
        some
          { system with
            table :=
              upsertInstance system.now id (newManager options).advertiseAddress
                (newManager options).portColumn system.table
            running := system.running.insert id (newManager options) }
      else some system
  | .beats id succeeds =>
      (system.loops id).map fun _ =>
        { system with
          table :=
            attempt succeeds (heartbeatInstance system.now id) system.table }
  | .sweeps id clock succeeds =>
      (system.loops id).map fun options =>
        { system with
          table :=
            attempt succeeds
              (deleteStaleInstances (clock - options.staleThreshold))
              system.table }
  | .stops id succeeds =>
      (system.running.lookup id).map fun _ =>
        { system with
          table := attempt succeeds (deleteInstance id) system.table
          running := system.running.erase id }
  | .crashes id =>
      (system.running.lookup id).map fun _ =>
        { system with running := system.running.erase id }

/-! ## What the table says of an instance -/

/-- Where an instance is reached. -/
structure AdvertisedAddress where
  address : String
  port : Int
deriving DecidableEq, Repr

/-- Where a manager advertises its instance. -/
def ManagerOptions.advertised (options : ManagerOptions) : AdvertisedAddress :=
  ⟨options.advertiseAddress, options.portColumn⟩

/-- The address and the last heartbeat the table has for an instance. -/
def InstanceSystem.listed (system : InstanceSystem) (id : UUID) :
    Option (AdvertisedAddress × Time) :=
  (system.table.lookup id).map fun row =>
    (⟨row.advertiseAddress, row.port⟩, row.heartbeatAt)

/-- What an event signals about an instance. -/
def InstanceSystem.signal (id : UUID) (system : InstanceSystem) :
    InstanceEvent → Option (Signal AdvertisedAddress Time)
  | .passes _ => none
  | .starts other options succeeds =>
      if other = id ∧ succeeds = true then
        some (.registers (newManager options).advertised system.now)
      else none
  | .beats other succeeds =>
      if other = id ∧ succeeds = true then some (.beats system.now) else none
  | .sweeps sweeper clock succeeds =>
      if succeeds then
        (system.loops sweeper).map fun options =>
          .expires (clock - options.staleThreshold)
      else none
  | .stops other succeeds =>
      if other = id ∧ succeeds = true then some .leaves else none
  | .crashes _ => none

/-- The signals about an instance in a run. -/
def signalsOf (id : UUID) (start : Time) (events : List InstanceEvent) :
    List (Signal AdvertisedAddress Time) :=
  observed InstanceSystem.step (InstanceSystem.signal id) (.initial start) events

section Steps

variable {before after : InstanceSystem} {event : InstanceEvent} {id : UUID}

theorem lookup_upsertInstance (now : Time) (other : UUID)
    (options : ManagerOptions) (table : InstanceTable) :
    (((upsertInstance now other options.advertiseAddress options.portColumn
      table).lookup id).map fun row =>
        (AdvertisedAddress.mk row.advertiseAddress row.port,
          row.heartbeatAt)) =
      if id = other then some (options.advertised, now)
      else (table.lookup id).map fun row =>
        (⟨row.advertiseAddress, row.port⟩, row.heartbeatAt) := by
  rw [upsertInstance, lookup_insert_eq]
  split_ifs <;> rfl

/-- A step changes what the table says of an instance as its signal says. -/
theorem listed_step (taken : before.step event = some after) :
    after.listed id =
      (before.signal id event).elim (before.listed id) fun signal =>
        signal.after (before.listed id) := by
  cases event with
  | passes time =>
      simp only [InstanceSystem.step, Option.ite_none_right_eq_some,
        Option.some.injEq] at taken
      rcases taken with ⟨-, rfl⟩
      rfl
  | starts other options succeeds =>
      simp only [InstanceSystem.step, Option.ite_none_left_eq_some] at taken
      rcases taken with ⟨-, taken⟩
      cases succeeds with
      | false =>
          cases taken
          simp [InstanceSystem.signal]
      | true =>
          cases taken
          simp only [InstanceSystem.listed, lookup_upsertInstance,
            InstanceSystem.signal, and_true, eq_comm]
          split_ifs <;> rfl
  | beats other succeeds =>
      rcases Option.map_eq_some_iff.mp taken with ⟨options, -, rfl⟩
      cases succeeds with
      | false => simp [InstanceSystem.signal, attempt, InstanceSystem.listed]
      | true =>
          simp only [InstanceSystem.listed, attempt, heartbeatInstance,
            lookup_modify_eq, InstanceSystem.signal, and_true, if_true,
            eq_comm]
          split_ifs with same
          · subst same
            cases before.table.lookup id <;> rfl
          · rfl
  | sweeps sweeper clock succeeds =>
      rcases Option.map_eq_some_iff.mp taken with ⟨options, found, rfl⟩
      cases succeeds with
      | false => simp [InstanceSystem.signal, attempt, InstanceSystem.listed]
      | true =>
          simp only [InstanceSystem.listed, attempt, deleteStaleInstances,
            lookup_keepValues, InstanceSystem.signal, found, if_true,
            Option.map_some, Option.elim_some, Signal.after]
          cases before.table.lookup id with
          | none => rfl
          | some row =>
              simp only [Option.filter_some, Option.map_some]
              generalize clock - options.staleThreshold = cutoff
              by_cases stale : row.heartbeatAt < cutoff
              · simp [stale]
              · simp [stale, not_lt.mp stale]
  | stops other succeeds =>
      rcases Option.map_eq_some_iff.mp taken with ⟨options, -, rfl⟩
      cases succeeds with
      | false => simp [InstanceSystem.signal, attempt, InstanceSystem.listed]
      | true =>
          simp only [InstanceSystem.listed, attempt, deleteInstance,
            lookup_erase_eq, InstanceSystem.signal, and_true, if_true,
            eq_comm]
          split_ifs <;> rfl
  | crashes other =>
      rcases Option.map_eq_some_iff.mp taken with ⟨options, -, rfl⟩
      rfl

end Steps

section Runs

variable {start : Time} {events : List InstanceEvent} {system : InstanceSystem}

/-- The table says of an instance what the signals about it say. -/
theorem listed_eq_entry
    (taken : run InstanceSystem.step (.initial start) events = some system)
    (id : UUID) : system.listed id = entry (signalsOf id start events) := by
  apply run_history (fun events system =>
    system.listed id = entry (signalsOf id start events)) ?_ taken rfl
  intro earlier before after event reaches stepTaken held
  rw [signalsOf, observed_append_singleton reaches, listed_step stepTaken, held]
  cases before.signal id event with
  | none => rw [Option.toList_none, List.append_nil, Option.elim_none]; rfl
  | some signal => exact entry_append_singleton.symm

/--
After any run the table has an instance exactly if it has registered, has not stopped
since, and no turn of an adoption loop since has found its last heartbeat older than
the threshold; and it has the address of the last registration and the last heartbeat
after it.
-/
theorem listed_eq_some_iff
    (taken : run InstanceSystem.step (.initial start) events = some system)
    (id : UUID) (advertised : AdvertisedAddress) (beat : Time) :
    system.listed id = some (advertised, beat) ↔
      ∃ earlier registered later,
        signalsOf id start events =
          earlier ++ .registers advertised registered :: later ∧
        Lasts registered later ∧ lastBeat registered later = beat := by
  rw [listed_eq_entry taken, entry_eq_some_iff]

end Runs

/-! ## Timely heartbeats -/

/-- What a deployment keeps to. -/
structure HeartbeatTiming where
  /-- The longest time without a heartbeat of an instance whose loops run. -/
  gap : Duration
  /-- What the clock of an instance may be ahead of the database's. -/
  skew : Duration

/--
Every instance whose loops run has its heartbeats in time, the clocks do not drift
apart, and the thresholds leave room for both.
-/
def HeartbeatTiming.Meets (timing : HeartbeatTiming)
    (system : InstanceSystem) : InstanceEvent → Prop
  | .passes time =>
      ∀ id options advertised beat, system.loops id = some options →
        system.listed id = some (advertised, beat) →
          system.now + time ≤ beat + timing.gap
  | .starts _ options _ =>
      timing.gap + timing.skew ≤ (newManager options).staleThreshold
  | .sweeps _ clock _ => clock ≤ system.now + timing.skew
  | _ => True

/-- Every instance whose loops run is listed with its address and a recent heartbeat. -/
structure InstanceSystem.Present (timing : HeartbeatTiming)
    (system : InstanceSystem) : Prop where
  threshold : ∀ id options, system.running.lookup id = some options →
    timing.gap + timing.skew ≤ options.staleThreshold
  named : ∀ id options, system.running.lookup id = some options →
    options.advertiseAddress ≠ ""
  recent : ∀ id options, system.loops id = some options →
    ∃ beat, system.listed id = some (options.advertised, beat) ∧
      system.now ≤ beat + timing.gap

theorem newManager_advertiseAddress_ne (options : ManagerOptions) :
    (newManager options).advertiseAddress ≠ "" := by
  unfold newManager
  dsimp only
  split_ifs with missing
  · decide
  · exact missing

theorem loops_eq_some_iff {system : InstanceSystem} {id : UUID}
    {options : ManagerOptions} :
    system.loops id = some options ↔
      system.running.lookup id = some options ∧ options.standalone = false := by
  simp [InstanceSystem.loops, Option.filter_eq_some_iff]

theorem present_initial (timing : HeartbeatTiming) (start : Time) :
    (InstanceSystem.initial start).Present timing where
  threshold := fun _ _ running => by cases running
  named := fun _ _ running => by cases running
  recent := fun _ _ loops => by cases loops

section Presence

variable {timing : HeartbeatTiming} {before after : InstanceSystem}
variable {event : InstanceEvent} {id : UUID} {options : ManagerOptions}

/-- An instance which runs after a step was started by it or has been running. -/
theorem running_step (taken : before.step event = some after)
    (running : after.running.lookup id = some options) :
    (∃ given, event = .starts id given true ∧ options = newManager given) ∨
      before.running.lookup id = some options := by
  cases event with
  | passes time =>
      simp only [InstanceSystem.step, Option.ite_none_right_eq_some,
        Option.some.injEq] at taken
      rcases taken with ⟨-, rfl⟩
      exact .inr running
  | starts other given succeeds =>
      simp only [InstanceSystem.step, Option.ite_none_left_eq_some] at taken
      rcases taken with ⟨-, taken⟩
      cases succeeds with
      | false =>
          cases taken
          exact .inr running
      | true =>
          cases taken
          rcases lookup_insert_cases rfl running with ⟨rfl, rfl⟩ | ⟨-, held⟩
          · exact .inl ⟨given, rfl, rfl⟩
          · exact .inr held
  | beats other succeeds =>
      rcases Option.map_eq_some_iff.mp taken with ⟨_, -, rfl⟩
      exact .inr running
  | sweeps sweeper clock succeeds =>
      rcases Option.map_eq_some_iff.mp taken with ⟨_, -, rfl⟩
      exact .inr running
  | stops other succeeds =>
      rcases Option.map_eq_some_iff.mp taken with ⟨_, -, rfl⟩
      rw [lookup_erase_eq] at running
      exact .inr (Option.ite_none_left_eq_some.mp running).2
  | crashes other =>
      rcases Option.map_eq_some_iff.mp taken with ⟨_, -, rfl⟩
      rw [lookup_erase_eq] at running
      exact .inr (Option.ite_none_left_eq_some.mp running).2

/-- A clock within the skew gives no cutoff after a heartbeat within the gap. -/
theorem cutoff_le_beat {now clock beat gap skew threshold : Int}
    (recent : now ≤ beat + gap) (ahead : clock ≤ now + skew)
    (room : gap + skew ≤ threshold) : clock - threshold ≤ beat := by
  omega

/-- A step which keeps an instance running keeps its heartbeat recent. -/
theorem recent_step (timed : 0 ≤ timing.gap) (meets : timing.Meets before event)
    (taken : before.step event = some after) (present : before.Present timing)
    (loops : after.loops id = some options)
    (held : before.running.lookup id = some options) :
    ∃ beat, after.listed id = some (options.advertised, beat) ∧
      after.now ≤ beat + timing.gap := by
  have loopsBefore : before.loops id = some options :=
    loops_eq_some_iff.mpr ⟨held, (loops_eq_some_iff.mp loops).2⟩
  rcases present.recent id options loopsBefore with ⟨beat, isListed, recent⟩
  have listed := @listed_step _ _ _ id taken
  rw [isListed] at listed
  cases event with
  | passes time =>
      simp only [InstanceSystem.step, Option.ite_none_right_eq_some,
        Option.some.injEq] at taken
      rcases taken with ⟨-, rfl⟩
      exact ⟨beat, listed, meets id options _ beat loopsBefore isListed⟩
  | starts other given succeeds =>
      simp only [InstanceSystem.step, Option.ite_none_left_eq_some] at taken
      rcases taken with ⟨notRunning, taken⟩
      have another : other ≠ id := by
        rintro rfl
        exact notRunning (Option.isSome_of_eq_some held)
      have sameTime : after.now = before.now := by
        split_ifs at taken <;> cases taken <;> rfl
      simp only [InstanceSystem.signal, another, false_and, if_false,
        Option.elim_none] at listed
      exact ⟨beat, listed, sameTime ▸ recent⟩
  | beats other succeeds =>
      rcases Option.map_eq_some_iff.mp taken with ⟨_, -, rfl⟩
      simp only [InstanceSystem.signal] at listed
      split_ifs at listed
      · exact ⟨before.now, listed, Int.le_add_of_nonneg_right timed⟩
      · exact ⟨beat, listed, recent⟩
  | sweeps sweeper clock succeeds =>
      rcases Option.map_eq_some_iff.mp taken with ⟨other, sweeps, rfl⟩
      simp only [InstanceSystem.signal, sweeps, Option.map_some] at listed
      split_ifs at listed
      · have threshold := present.threshold sweeper other
          (loops_eq_some_iff.mp sweeps).1
        have spared := cutoff_le_beat recent meets threshold
        refine ⟨beat, ?_, recent⟩
        rw [listed]
        simp only [Option.elim_some, Signal.after, Option.filter_some, spared,
          decide_true, if_true]
      · exact ⟨beat, listed, recent⟩
  | stops other succeeds =>
      rcases Option.map_eq_some_iff.mp taken with ⟨_, -, rfl⟩
      have another : other ≠ id := by
        rintro rfl
        have gone := (loops_eq_some_iff.mp loops).1
        rw [lookup_erase_eq, if_pos rfl] at gone
        cases gone
      simp only [InstanceSystem.signal, another, false_and, if_false,
        Option.elim_none] at listed
      exact ⟨beat, listed, recent⟩
  | crashes other =>
      rcases Option.map_eq_some_iff.mp taken with ⟨_, -, rfl⟩
      exact ⟨beat, listed, recent⟩

/-- An instance which has just been started is listed. -/
theorem listed_of_started {given : ManagerOptions}
    (taken : before.step (.starts id given true) = some after) :
    after.listed id = some ((newManager given).advertised, before.now) ∧
      after.now = before.now := by
  have listed := @listed_step _ _ _ id taken
  simp only [InstanceSystem.step, Option.ite_none_left_eq_some] at taken
  rcases taken with ⟨-, taken⟩
  cases taken
  simp only [InstanceSystem.signal, true_and, if_true, Option.elim_some,
    Signal.after] at listed
  exact ⟨listed, rfl⟩

theorem present_step (timed : 0 ≤ timing.gap)
    (meets : timing.Meets before event) (taken : before.step event = some after)
    (present : before.Present timing) : after.Present timing where
  threshold := by
    intro id options running
    rcases running_step taken running with ⟨given, rfl, rfl⟩ | held
    · exact meets
    · exact present.threshold id options held
  named := by
    intro id options running
    rcases running_step taken running with ⟨given, rfl, rfl⟩ | held
    · exact newManager_advertiseAddress_ne given
    · exact present.named id options held
  recent := by
    intro id options loops
    rcases running_step taken (loops_eq_some_iff.mp loops).1 with
      ⟨given, rfl, rfl⟩ | held
    · rcases listed_of_started taken with ⟨isListed, sameTime⟩
      exact ⟨before.now, isListed,
        sameTime ▸ Int.le_add_of_nonneg_right timed⟩
    · exact recent_step timed meets taken present loops held

end Presence

/--
An instance with timely heartbeats is reachable.  While its loops run, the table has
the address it advertises, with a heartbeat which no router finds too old; whatever
else the instances do, and whichever of them sweep the table.
-/
theorem reachable_of_timely (timing : HeartbeatTiming) (start : Time)
    (events : List InstanceEvent) (system : InstanceSystem)
    (timed : 0 ≤ timing.gap) (fresh : timing.gap + timing.skew ≤ 120 * second)
    (guarded : GuardedRun InstanceSystem.step timing.Meets (.initial start)
      events system)
    (id : UUID) (options : ManagerOptions)
    (loops : system.loops id = some options) (port : 0 < options.portColumn)
    (checkedAt : Time) (close : checkedAt ≤ system.now + timing.skew) :
    ∃ inst, getInstance id system.table = some inst ∧
      inst.advertiseAddress = options.advertiseAddress ∧
      inst.port = options.portColumn ∧ inst.reachable checkedAt = true := by
  have present : system.Present timing :=
    guarded.invariant (InstanceSystem.Present timing) (present_step timed)
      (present_initial timing start)
  rcases present.recent id options loops with ⟨beat, isListed, recent⟩
  rcases Option.map_eq_some_iff.mp isListed with ⟨row, found, same⟩
  have address := congrArg (fun known => known.1.address) same
  have column := congrArg (fun known => known.1.port) same
  have beats : row.heartbeatAt = beat := congrArg Prod.snd same
  have named := present.named id options (loops_eq_some_iff.mp loops).1
  have notOld : timeSub checkedAt beat ≤ 120 * second := by
    apply max_le (by decide)
    apply min_le_of_right_le
    exact sub_le_comm.mp (cutoff_le_beat recent close fresh)
  refine ⟨_, by rw [getInstance, found, Option.map_some], address, column, ?_⟩
  dsimp only [ManagerOptions.advertised] at address column
  simp [PeerInstance.reachable, address, column, beats, named, port, notOld]

/-! ## What a router forwards to -/

/-- The router has looked up the row's owner at some point of the run. -/
def LooksUp (start : Time) (events : List InstanceEvent) (row : PeerRow) : Prop :=
  ∀ owner, row.ownerInstanceID = some owner →
    ∃ earlier later system, events = earlier ++ later ∧
      run InstanceSystem.step (.initial start) earlier = some system ∧
        row.inst = getInstance owner system.table

/-- The peer is the owner of a row, where the row's lookup has it. -/
def OwnsRow (config : PeerConfig) (peer : Backend) (row : PeerRow) : Prop :=
  ∃ owner inst, row.ownerInstanceID = some owner ∧ row.inst = some inst ∧
    inst.reachable row.checkedAt = true ∧
      peer = .peer owner (targetURL config.peerScheme inst config.appID)

/-- A forward in the plan is to the owner of a row. -/
theorem mem_forwardPlan {config : PeerConfig} {seenOwners : List UUID}
    {attempts : Nat} {rows : List PeerRow} {planned : ForwardAttempt}
    (member : planned ∈ forwardPlan config seenOwners attempts rows) :
    ∃ row ∈ rows, OwnsRow config planned.peer row := by
  induction rows generalizing seenOwners attempts with
  | nil => cases member
  | cons row rows induction =>
      rw [List.exists_mem_cons_iff]
      rw [forwardPlan] at member
      by_cases done : row.ctxDone = true
      · rw [if_pos done] at member
        cases member
      by_cases limit : maxPeerForwards ≤ attempts
      · rw [if_neg done, if_pos limit] at member
        cases member
      rw [if_neg done, if_neg limit] at member
      cases owned : row.ownerInstanceID with
      | none =>
          rw [owned] at member
          exact .inr (induction member)
      | some owner =>
          rw [owned] at member
          dsimp only at member
          by_cases skipped : config.localInstanceID = some owner ∨
              row.leaseExpired = true ∨ owner ∈ seenOwners
          · rw [if_pos skipped] at member
            exact .inr (induction member)
          rw [if_neg skipped] at member
          cases found : row.inst with
          | none =>
              rw [found] at member
              exact .inr (induction member)
          | some inst =>
              rw [found] at member
              dsimp only at member
              split_ifs at member with reachable spent
              · cases member
              · rcases List.mem_cons.mp member with rfl | rest
                · exact .inl ⟨owner, inst, owned, found, reachable, rfl⟩
                · exact .inr (induction rest)
              · exact .inr (induction member)

/-- What is handed over is handed over in the plan. -/
theorem mem_runPlan {plan : List ForwardAttempt} {handOff : HandOff}
    (member : handOff ∈ (runPlan plan).2) :
    ∃ planned ∈ plan, planned.peer = handOff.backend := by
  induction plan with
  | nil => cases member
  | cons planned plan induction =>
      rw [List.exists_mem_cons_iff]
      rw [runPlan] at member
      split at member
      · cases List.mem_singleton.mp member
        exact .inl rfl
      · rcases List.mem_cons.mp member with rfl | later
        · exact .inl rfl
        · exact .inr (induction later)

section Forwards

variable {start : Time} {events : List InstanceEvent}
variable {config : PeerConfig} {rows : List PeerRow}

/-- A hand-off is to the owner of a row. -/
theorem mem_forwardToPeers {handOff : HandOff}
    (member : handOff ∈ (forwardToPeers config [] 0 rows).2) :
    ∃ row ∈ rows, OwnsRow config handOff.backend row := by
  rw [forwardToPeers_eq] at member
  rcases mem_runPlan member with ⟨planned, among, same⟩
  exact same ▸ mem_forwardPlan among

/--
Requests are handed over where an instance advertises itself.  If every owner was
looked up at some point of a run, every hand-off goes to the address of the last
registration of its owner before, who had not stopped and had been spared by all
sweeps since, and whose last heartbeat was not more than two minutes old.
-/
theorem forwardToPeers_advertised
    (looksUp : ∀ row ∈ rows, LooksUp start events row) (handOff : HandOff)
    (member : handOff ∈ (forwardToPeers config [] 0 rows).2) :
    ∃ row ∈ rows, ∃ owner earlier advertised registered later rest,
      row.ownerInstanceID = some owner ∧
      signalsOf owner start events =
        earlier ++ .registers advertised registered :: (later ++ rest) ∧
      Lasts registered later ∧
      timeSub row.checkedAt (lastBeat registered later) ≤ 120 * second ∧
      handOff.backend = .peer owner
        (targetURL config.peerScheme
          ⟨advertised.address, advertised.port,
            some (lastBeat registered later)⟩ config.appID) := by
  rcases mem_forwardToPeers member with
    ⟨row, isRow, owner, inst, owned, found, reachable, peer⟩
  rcases looksUp row isRow owner owned with
    ⟨before, after, system, rfl, taken, isInst⟩
  rw [found] at isInst
  rcases Option.map_eq_some_iff.mp isInst.symm with ⟨line, isLine, rfl⟩
  have isListed : system.listed owner =
      some (⟨line.advertiseAddress, line.port⟩, line.heartbeatAt) := by
    rw [InstanceSystem.listed, isLine, Option.map_some]
  rcases (listed_eq_some_iff taken owner _ _).mp isListed with
    ⟨earlier, registered, later, split, lasts, beats⟩
  have whole : signalsOf owner start (before ++ after) =
      signalsOf owner start before ++
        observed InstanceSystem.step (InstanceSystem.signal owner) system
          after :=
    observed_append taken
  refine ⟨row, isRow, owner, earlier, _, registered, later, _, owned,
    by rw [whole, split, List.append_assoc, List.cons_append], lasts, ?_, ?_⟩
  · rw [beats]
    simp only [PeerInstance.reachable, Bool.and_eq_true, decide_eq_true_eq]
      at reachable
    exact reachable.2
  · rw [beats]
    exact peer

/-- Only a start registers an instance. -/
theorem starts_of_isRegistration {system : InstanceSystem}
    {event : InstanceEvent} {id : UUID} {signal : Signal AdvertisedAddress Time}
    (signals : system.signal id event = some signal)
    (registers : signal.isRegistration = true) :
    ∃ options, event = .starts id options true := by
  cases event with
  | passes time => cases signals
  | crashes other => cases signals
  | starts other options succeeds =>
      simp only [InstanceSystem.signal, Option.ite_none_right_eq_some]
        at signals
      rcases signals with ⟨⟨rfl, rfl⟩, -⟩
      exact ⟨options, rfl⟩
  | beats other succeeds =>
      simp only [InstanceSystem.signal, Option.ite_none_right_eq_some,
        Option.some.injEq] at signals
      rcases signals with ⟨-, rfl⟩
      cases registers
  | stops other succeeds =>
      simp only [InstanceSystem.signal, Option.ite_none_right_eq_some,
        Option.some.injEq] at signals
      rcases signals with ⟨-, rfl⟩
      cases registers
  | sweeps sweeper clock succeeds =>
      simp only [InstanceSystem.signal, Option.ite_none_right_eq_some] at signals
      rcases Option.map_eq_some_iff.mp signals.2 with ⟨options, -, rfl⟩
      cases registers

/-- An instance which is not listed stays so until it is started. -/
theorem listed_eq_none_of_absent {earlier later : List InstanceEvent}
    {system reached : InstanceSystem} {id : UUID}
    (taken : run InstanceSystem.step (.initial start) earlier = some system)
    (absent : system.listed id = none)
    (onward : run InstanceSystem.step system later = some reached)
    (notStarted : ∀ options, .starts id options true ∉ later) :
    reached.listed id = none := by
  have whole : run InstanceSystem.step (.initial start) (earlier ++ later) =
      some reached :=
    run_append_eq_some.mpr ⟨system, taken, onward⟩
  have signals : signalsOf id start (earlier ++ later) =
      signalsOf id start earlier ++
        observed InstanceSystem.step (InstanceSystem.signal id) system later :=
    observed_append taken
  rw [listed_eq_entry whole, signals]
  apply entry_append_eq_none ((listed_eq_entry taken id).symm.trans absent)
  intro signal member
  rcases exists_of_mem_observed member with
    ⟨before, event, after, state, rfl, -, signals⟩
  by_contra registers
  rcases starts_of_isRegistration signals (Bool.not_eq_false _ ▸ registers) with
    ⟨options, rfl⟩
  exact notStarted options (List.mem_append_right before List.mem_cons_self)

/--
An instance which has lost its row is never forwarded to again, also while it runs
and all its heartbeats succeed, unless it is started again.
-/
theorem never_forwarded_without_row (earlier later : List InstanceEvent)
    (system : InstanceSystem) (id : UUID)
    (taken : run InstanceSystem.step (.initial start) earlier = some system)
    (absent : system.listed id = none)
    (notStarted : ∀ options, .starts id options true ∉ later)
    (looksUp : ∀ row ∈ rows, ∀ owner, row.ownerInstanceID = some owner →
      ∃ between rest reached, later = between ++ rest ∧
        run InstanceSystem.step system between = some reached ∧
          row.inst = getInstance owner reached.table)
    (handOff : HandOff)
    (member : handOff ∈ (forwardToPeers config [] 0 rows).2) (url : String) :
    handOff.backend ≠ .peer id url := by
  intro same
  rcases mem_forwardToPeers member with
    ⟨row, isRow, owner, inst, owned, found, -, peer⟩
  cases same.symm.trans peer
  rcases looksUp row isRow id owned with
    ⟨between, rest, reached, rfl, onward, isInst⟩
  have gone : reached.listed id = none :=
    listed_eq_none_of_absent taken absent onward fun options member =>
      notStarted options (List.mem_append_left rest member)
  rw [found] at isInst
  rcases Option.map_eq_some_iff.mp isInst.symm with ⟨line, isLine, -⟩
  rw [InstanceSystem.listed, isLine] at gone
  cases gone

end Forwards

/-! ## Two instances -/

/-- The first of two instances. -/
def firstOptions : ManagerOptions := ⟨"10.0.0.1", 0, 0, false⟩

/-- The second of two instances. -/
def secondOptions : ManagerOptions := ⟨"10.0.0.2", 0, 0, false⟩

/-- Both start, and after a heartbeat of the first one the second one sweeps. -/
def heartbeatEvents : List InstanceEvent :=
  [.starts ⟨1⟩ firstOptions true, .starts ⟨2⟩ secondOptions true,
    .passes (10 * second), .beats ⟨1⟩ true, .passes (115 * second),
    .sweeps ⟨2⟩ (125 * second) true]

/-- The table has the first instance with its heartbeat, and not the second one. -/
theorem listed_eq_some_iff_heartbeat :
    ∃ system, run InstanceSystem.step (.initial 0) heartbeatEvents = some system ∧
      system.listed ⟨1⟩ = some (⟨"10.0.0.1", 8090⟩, 10 * second) ∧
      system.listed ⟨2⟩ = none ∧
      ∃ earlier registered later,
        signalsOf ⟨1⟩ 0 heartbeatEvents =
          earlier ++ .registers ⟨"10.0.0.1", 8090⟩ registered :: later ∧
        Lasts registered later ∧ lastBeat registered later = 10 * second :=
  ⟨_, rfl, rfl, rfl, (listed_eq_some_iff rfl ⟨1⟩ _ _).mp rfl⟩

/-- One minute between heartbeats, and clocks not ten seconds apart. -/
def sampleTiming : HeartbeatTiming := ⟨60 * second, 10 * second⟩

/-- Time may pass if the entries of the instances which run stay recent. -/
theorem meets_passes {timing : HeartbeatTiming} {system : InstanceSystem}
    {time : Duration}
    (recent : ∀ entry ∈ system.running.entries,
      ∀ known ∈ system.listed entry.1,
        system.now + time ≤ known.2 + timing.gap) :
    timing.Meets system (.passes time) := by
  intro id options advertised beat loops isListed
  have running := (loops_eq_some_iff.mp loops).1
  exact recent ⟨id, options⟩ (mem_entries_iff.mpr running)
    (advertised, beat) isListed

/--
Two instances confirm themselves every fifty seconds, a third one crashes; when
its row is old enough the second one sweeps it.
-/
def sweptEvents : List InstanceEvent :=
  [.starts ⟨1⟩ firstOptions true, .starts ⟨2⟩ secondOptions true,
    .starts ⟨3⟩ secondOptions true, .crashes ⟨3⟩, .passes (50 * second),
    .beats ⟨1⟩ true, .beats ⟨2⟩ true, .passes (50 * second), .beats ⟨1⟩ true,
    .beats ⟨2⟩ true, .passes (30 * second), .sweeps ⟨2⟩ (135 * second) true]

theorem guardedRun_swept :
    ∃ system, GuardedRun InstanceSystem.step sampleTiming.Meets (.initial 0)
        sweptEvents system ∧
      getInstance ⟨3⟩ system.table = none ∧
        system.loops ⟨1⟩ = some (newManager firstOptions) ∧
          system.now = 130 * second := by
  have room : (70 * second : Int) ≤ 120 * second := by decide
  refine ⟨_, .cons room rfl (.cons room rfl (.cons room rfl
    (.cons trivial rfl (.cons ?_ rfl (.cons trivial rfl (.cons trivial rfl
      (.cons ?_ rfl (.cons trivial rfl (.cons trivial rfl (.cons ?_ rfl
        (.cons ?_ rfl (.nil _)))))))))))), rfl, rfl, rfl⟩
  · exact meets_passes (by decide)
  · exact meets_passes (by decide)
  · exact meets_passes (by decide)
  · exact (by decide : (135 * second : Int) ≤ 130 * second + 10 * second)

theorem reachable_of_timely_swept :
    ∃ system inst,
      GuardedRun InstanceSystem.step sampleTiming.Meets (.initial 0) sweptEvents
          system ∧
        getInstance ⟨3⟩ system.table = none ∧
          getInstance ⟨1⟩ system.table = some inst ∧
            inst.advertiseAddress = "10.0.0.1" ∧ inst.port = 8090 ∧
              inst.reachable (140 * second) = true := by
  obtain ⟨system, guarded, gone, loops, now⟩ := guardedRun_swept
  obtain ⟨inst, found, address, port, reachable⟩ :=
    reachable_of_timely sampleTiming 0 sweptEvents system (by decide) (by decide)
      guarded ⟨1⟩ (newManager firstOptions) loops (by decide) (140 * second)
      (by rw [now]; decide)
  exact ⟨system, inst, guarded, gone, found, address, port, reachable⟩

/-- The first instance after ten seconds. -/
def firstSystem : InstanceSystem where
  now := 10 * second
  table := upsertInstance 0 ⟨1⟩ "10.0.0.1" 8090 ∅
  running := (∅ : Table UUID ManagerOptions).insert ⟨1⟩
    (newManager firstOptions)

/-- An executor of the first instance, for which a forward fails. -/
def firstRow : PeerRow where
  ownerInstanceID := some ⟨1⟩
  leaseExpiresAt := none
  ctxDone := false
  now := 15 * second
  inst := getInstance ⟨1⟩ firstSystem.table
  checkedAt := 15 * second
  remaining := none
  forward := .fails true

/-- The router of the second instance. -/
def secondConfig : PeerConfig := ⟨some ⟨2⟩, "", ⟨3⟩⟩

theorem forwardToPeers_advertised_first :
    ∃ row ∈ [firstRow], ∃ owner earlier advertised registered later rest,
      row.ownerInstanceID = some owner ∧
      signalsOf owner 0
          [.starts ⟨1⟩ firstOptions true, .passes (10 * second)] =
        earlier ++ .registers advertised registered :: (later ++ rest) ∧
      Lasts registered later ∧
      timeSub row.checkedAt (lastBeat registered later) ≤ 120 * second ∧
      Backend.peer ⟨1⟩ (targetURL "" ⟨"10.0.0.1", 8090, some 0⟩ ⟨3⟩) =
        .peer owner
          (targetURL "" ⟨advertised.address, advertised.port,
            some (lastBeat registered later)⟩ ⟨3⟩) := by
  have looksUp : ∀ row ∈ [firstRow], LooksUp 0
      [.starts ⟨1⟩ firstOptions true, .passes (10 * second)] row := by
    intro row member owner owned
    cases List.mem_singleton.mp member
    cases owned
    exact ⟨_, [], firstSystem, (List.append_nil _).symm, rfl, rfl⟩
  exact @forwardToPeers_advertised 0 _ secondConfig [firstRow] looksUp
    ⟨_, true⟩ (List.mem_singleton_self _)

/-- The second instance does not hear of the first one for two minutes. -/
def partitionEvents : List InstanceEvent :=
  [.starts ⟨1⟩ firstOptions true, .starts ⟨2⟩ secondOptions true,
    .passes (125 * second), .beats ⟨1⟩ false, .beats ⟨2⟩ true,
    .sweeps ⟨2⟩ (125 * second) true]

/-- The first instance has lost its row for good, though it runs and its heartbeats succeed. -/
theorem never_forwarded_without_row_partition :
    ∃ system reached,
      run InstanceSystem.step (.initial 0) partitionEvents = some system ∧
      system.running.lookup ⟨1⟩ = some (newManager firstOptions) ∧
      run InstanceSystem.step system [.beats ⟨1⟩ true] = some reached ∧
      ∀ handOff ∈ (forwardToPeers secondConfig [] 0
          [{ firstRow with inst := getInstance ⟨1⟩ reached.table }]).2,
        ∀ url, handOff.backend ≠ .peer ⟨1⟩ url := by
  refine ⟨_, _, rfl, rfl, rfl, ?_⟩
  intro handOff member url
  apply @never_forwarded_without_row 0 secondConfig _ partitionEvents
    [.beats ⟨1⟩ true] _ ⟨1⟩ rfl rfl (by simp) ?_ handOff member url
  intro row isRow owner owned
  cases List.mem_singleton.mp isRow
  cases owned
  exact ⟨_, [], _, (List.append_nil _).symm, rfl, rfl⟩

end DbosRelay.Cluster.Directory
