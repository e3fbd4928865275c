import DbosRelay.Basic
import DbosRelay.Library.Tables
import DbosRelay.Liveness.Machine
import Mathlib.Data.List.Dedup

/-!
# The executor lifecycle manager

The sections of `internal/liveness/manager.go` which run under the manager's
lock, one function each, over the map of tracked executors.  Database reads
and writes happen outside the lock and are steps of their own in the cluster
model.

Timers and cancel channels are compared by pointer in the source.  Each
arming allocates one of both, so one counter names them here.  Closing a
channel is recorded in the order it happens; Go panics on a second close, which
is therefore a repetition in that record.
-/

namespace DbosRelay.Liveness

open DbosRelay.Basic
open DbosRelay.Library.Tables

/-- Which of the two heartbeat paths owns an executor. -/
inductive ExecutorSource where
  | socket
  | probe
deriving DecidableEq, Repr

/-- A `trackedExecutor`, less the two fields which form its key. -/
structure TrackedExecutor where
  version : String
  source : ExecutorSource
  state : State
  timer : Option Nat
  cancelTimer : Option Nat
deriving DecidableEq, Repr

/-- A goroutine of `watchGracePeriod` waiting for its timer. -/
structure Watcher where
  key : ExecutorKey
  version : String
  timer : Nat
  timerDone : Nat
  fireAt : Time
deriving DecidableEq, Repr

/-- The state the manager's lock protects. -/
structure Manager where
  instanceID : Option UUID
  executors : Table ExecutorKey TrackedExecutor
  nextTimer : Nat
  closed : List Nat

/-- `NewManager`. -/
def newManager : Manager where
  instanceID := none
  executors := ∅
  nextTimer := 0
  closed := []

/-- `SetInstanceID`. -/
def Manager.setInstanceID (manager : Manager) (id : UUID) : Manager :=
  { manager with instanceID := some id }

/-- `DefaultExecutorTimeout`. -/
def defaultExecutorTimeout : Duration := 60 * second

/--
`resolveTimeout`, given the `executorTimeoutSecs` of the decoded settings, or
`none` when the application cannot be read or its settings are empty or do not
decode.
-/
def resolveTimeout (executorTimeoutSecs : Option Int) : Duration :=
  match executorTimeoutSecs with
  | none => defaultExecutorTimeout
  | some secs =>
      if secs ≤ 0 then defaultExecutorTimeout
      else int64 (secs * second)

/-! ## The locked sections -/

namespace Manager

/-- Store an entry. -/
def store (manager : Manager) (key : ExecutorKey)
    (exec : TrackedExecutor) : Manager :=
  { manager with executors := manager.executors.insert key exec }

/-- Stop the timer and close the cancel channel an entry records. -/
def cancelGraceTimer (manager : Manager) (key : ExecutorKey)
    (exec : TrackedExecutor) : Manager :=
  { manager.store key { exec with timer := none, cancelTimer := none } with
    closed := exec.cancelTimer.toList ++ manager.closed }

/-- Allocate a timer and a cancel channel, record both and start a watcher. -/
def armGraceTimer (manager : Manager) (now : Time) (timeout : Duration)
    (key : ExecutorKey) (exec : TrackedExecutor) : Manager × Watcher :=
  ({ manager.store key
      { exec with
        timer := some manager.nextTimer
        cancelTimer := some manager.nextTimer } with
      nextTimer := manager.nextTimer + 1 },
    { key := key
      version := exec.version
      timer := manager.nextTimer
      timerDone := manager.nextTimer
      fireAt := now + timeout })

/-- The entry `onConnect` finds or allocates, with its version assigned. -/
def connectingEntry (version : String) (source : ExecutorSource) :
    Option TrackedExecutor → TrackedExecutor
  | none =>
      { version := version
        source := source
        state := .unset
        timer := none
        cancelTimer := none }
  | some exec =>
      { exec with
        version := version
        source := if source = .socket then .socket else exec.source }

/-- `onConnect` up to the end of its critical section. -/
def onConnect (manager : Manager) (key : ExecutorKey) (version : String)
    (source : ExecutorSource) : Manager × Option TransitionError :=
  let exec := connectingEntry version source (manager.executors.lookup key)
  let next := transition exec.state .connect
  match next.error with
  | some error => (manager.store key exec, some error)
  | none =>
      let exec := { exec with state := next.state }
      if next.action = .cancelGraceTimer then
        (manager.cancelGraceTimer key exec, none)
      else
        (manager.store key exec, none)

/-- `onDisconnect` on the entry it found or allocated. -/
def disconnectEntry (manager : Manager) (now : Time) (timeout : Duration)
    (key : ExecutorKey) (exec : TrackedExecutor) :
    Manager × Option Watcher :=
  let next := transition exec.state .disconnect
  match next.error with
  | some _ => (manager.store key exec, none)
  | none =>
      let exec := { exec with state := next.state }
      if next.action = .startGraceTimer then
        let armed := manager.armGraceTimer now timeout key exec
        (armed.1, some armed.2)
      else
        (manager.store key exec, none)

/-- `onDisconnect`, with the timeout its lookup resolved. -/
def onDisconnect (manager : Manager) (now : Time) (timeout : Duration)
    (key : ExecutorKey) (source : ExecutorSource) :
    Manager × Option Watcher :=
  match manager.executors.lookup key with
  | some exec =>
      if source = .probe ∧ exec.source ≠ .probe then (manager, none)
      else manager.disconnectEntry now timeout key exec
  | none =>
      manager.disconnectEntry now timeout key
        { version := ""
          source := source
          state := .connected
          timer := none
          cancelTimer := none }

/-- `AdoptDisconnected`, with the timeout its lookup resolved. -/
def adoptDisconnected (manager : Manager) (now : Time) (timeout : Duration)
    (key : ExecutorKey) (version : String) : Manager × Watcher :=
  let adopted : TrackedExecutor :=
    { version := version
      source := .socket
      state := .disconnected
      timer := none
      cancelTimer := none }
  match manager.executors.lookup key with
  | none => manager.armGraceTimer now timeout key adopted
  | some exec =>
      (manager.cancelGraceTimer key
        { adopted with
          timer := exec.timer
          cancelTimer := exec.cancelTimer }).armGraceTimer
        now timeout key adopted

/-- The map update of `DeleteExecutor`, and all of `EvictExecutor`. -/
def evictExecutor (manager : Manager) (key : ExecutorKey) : Manager :=
  { manager with executors := manager.executors.erase key }

/--
The critical section of `watchGracePeriod` once its timer has fired.  `none`
is a return without any further effect; an action continues with the ownership
lookup.
-/
def watchGracePeriod (manager : Manager) (watcher : Watcher) :
    Manager × Option Action :=
  match manager.executors.lookup watcher.key with
  | none => (manager, none)
  | some exec =>
      if exec.timer ≠ some watcher.timer ∨ exec.state ≠ .disconnected then
        (manager, none)
      else
        let next := transition exec.state .gracePeriodExpired
        match next.error with
        | some _ => (manager, none)
        | none =>
            (manager.store watcher.key
              { exec with
                state := next.state
                timer := none
                cancelTimer := none }, some next.action)

/-- The transition after the last failed recovery attempt. -/
def recoveryFailed (manager : Manager) (key : ExecutorKey) : Manager :=
  match manager.executors.lookup key with
  | none => manager
  | some exec =>
      let next := transition exec.state .recoveryFailed
      match next.error with
      | some _ => manager
      | none => manager.store key { exec with state := next.state }

/-- The applications `sweepAll` visits. -/
def deadApps (manager : Manager) : List UUID :=
  ((manager.executors.entries.filter fun entry => entry.2.state = .dead).map
    fun entry => entry.1.appID).dedup

end Manager

/-! ## What each section leaves in the map -/

namespace Manager

@[simp]
theorem lookup_store
    (manager : Manager) (key other : ExecutorKey) (exec : TrackedExecutor) :
    (manager.store key exec).executors.lookup other =
      if other = key then some exec else manager.executors.lookup other :=
  lookup_insert_eq _ _ _ _

@[simp]
theorem lookup_cancelGraceTimer
    (manager : Manager) (key other : ExecutorKey) (exec : TrackedExecutor) :
    (manager.cancelGraceTimer key exec).executors.lookup other =
      if other = key then
        some { exec with timer := none, cancelTimer := none }
      else manager.executors.lookup other :=
  lookup_insert_eq _ _ _ _

@[simp]
theorem lookup_armGraceTimer
    (manager : Manager) (now : Time) (timeout : Duration)
    (key other : ExecutorKey) (exec : TrackedExecutor) :
    (manager.armGraceTimer now timeout key exec).1.executors.lookup other =
      if other = key then
        some
          { exec with
            timer := some manager.nextTimer
            cancelTimer := some manager.nextTimer }
      else manager.executors.lookup other :=
  lookup_insert_eq _ _ _ _

@[simp]
theorem lookup_evictExecutor
    (manager : Manager) (key other : ExecutorKey) :
    (manager.evictExecutor key).executors.lookup other =
      if other = key then none else manager.executors.lookup other :=
  lookup_erase_eq _ _ _

/-- A watcher whose timer is not the recorded one returns without effect. -/
theorem watchGracePeriod_of_stale
    {manager : Manager} {watcher : Watcher}
    (stale : ∀ exec, manager.executors.lookup watcher.key = some exec →
      exec.timer ≠ some watcher.timer) :
    manager.watchGracePeriod watcher = (manager, none) := by
  rw [watchGracePeriod]
  split
  · rfl
  · rename_i exec present
    rw [if_pos (Or.inl (stale exec present))]

/-- Either a firing has no effect, or it is the recorded timer's and the executor dies. -/
theorem watchGracePeriod_cases (manager : Manager) (watcher : Watcher) :
    manager.watchGracePeriod watcher = (manager, none) ∨
      ∃ exec, manager.executors.lookup watcher.key = some exec ∧
        exec.timer = some watcher.timer ∧
        exec.state = .disconnected ∧
        manager.watchGracePeriod watcher =
          (manager.store watcher.key
            { exec with
              state := .dead
              timer := none
              cancelTimer := none }, some .triggerRecovery) := by
  rw [watchGracePeriod]
  split
  · exact Or.inl rfl
  · rename_i exec present
    split_ifs with stale
    · exact Or.inl rfl
    · rw [not_or, not_not, not_not] at stale
      refine Or.inr ⟨exec, present, stale.1, stale.2, ?_⟩
      simp [stale.2, transition, accept]

/-- The transition after a failed recovery leaves every entry as it was. -/
@[simp]
theorem lookup_recoveryFailed
    (manager : Manager) (key other : ExecutorKey) :
    (manager.recoveryFailed key).executors.lookup other =
      manager.executors.lookup other := by
  rw [recoveryFailed]
  split
  · rfl
  · rename_i exec present
    simp only [transition_recoveryFailed_state]
    split
    · rfl
    · rw [lookup_store]
      split_ifs with same
      · rw [same, present]
      · rfl

@[simp]
theorem nextTimer_recoveryFailed (manager : Manager) (key : ExecutorKey) :
    (manager.recoveryFailed key).nextTimer = manager.nextTimer := by
  rw [recoveryFailed]
  split
  · rfl
  · dsimp only
    split <;> rfl

@[simp]
theorem instanceID_adoptDisconnected
    (manager : Manager) (now : Time) (timeout : Duration)
    (key : ExecutorKey) (version : String) :
    (manager.adoptDisconnected now timeout key version).1.instanceID =
      manager.instanceID := by
  rw [adoptDisconnected]
  split <;> rfl

/-- The recorded timer of a disconnected executor fires. -/
theorem watchGracePeriod_of_recorded
    {manager : Manager} {watcher : Watcher} {exec : TrackedExecutor}
    (present : manager.executors.lookup watcher.key = some exec)
    (recorded : exec.timer = some watcher.timer)
    (isDisconnected : exec.state = .disconnected) :
    manager.watchGracePeriod watcher =
      (manager.store watcher.key
        { exec with state := .dead, timer := none, cancelTimer := none },
        some .triggerRecovery) := by
  simp [watchGracePeriod, present, recorded, isDisconnected, transition, accept]

theorem mem_deadApps
    {manager : Manager} {appID : UUID} :
    appID ∈ manager.deadApps ↔
      ∃ key exec, manager.executors.lookup key = some exec ∧
        key.appID = appID ∧ exec.state = .dead := by
  rw [deadApps, List.mem_dedup, List.mem_map]
  constructor
  · rintro ⟨⟨key, exec⟩, member, sameApp⟩
    rw [List.mem_filter, mem_entries_iff] at member
    exact ⟨key, exec, member.1, sameApp, by simpa using member.2⟩
  · rintro ⟨key, exec, present, sameApp, isDead⟩
    exact ⟨⟨key, exec⟩,
      List.mem_filter.mpr ⟨mem_entries_iff.mpr present, by simpa using isDead⟩,
      sameApp⟩

end Manager

end DbosRelay.Liveness
