import DbosRelay.Library.Runs
import DbosRelay.Liveness.Manager

/-!
# Grace timers follow lifecycle states

Ten kinds of step touch the state, the timer and the cancel channel of a
tracked executor separately.  `TimerInvariant` says how the three belong
together, and that the channels recorded by different entries are distinct and
still open.  Each critical section of the manager preserves it, so it holds in
every state of every interleaving of the sections with timer firings.

Three updates of the map cover all sections: storing an entry without a timer,
storing an entry armed with a freshly allocated one, and removing an entry.
-/

namespace DbosRelay.Liveness

open DbosRelay.Basic
open DbosRelay.Library.Runs
open DbosRelay.Library.Tables

/-! ## The invariant -/

/-- An entry without a timer: it is connected or dead. -/
structure TrackedExecutor.Unarmed (exec : TrackedExecutor) : Prop where
  state : exec.state = .connected ∨ exec.state = .dead
  timer : exec.timer = none
  cancelTimer : exec.cancelTimer = none

/-- An entry armed with the timer and the channel called `id`. -/
structure TrackedExecutor.Armed (exec : TrackedExecutor) (id : Nat) : Prop where
  state : exec.state = .disconnected
  timer : exec.timer = some id
  cancelTimer : exec.cancelTimer = some id

/-- States, timers and channels of the tracked executors belong together. -/
structure TimerInvariant (manager : Manager) : Prop where
  timed : ∀ {key exec}, manager.executors.lookup key = some exec →
    exec.Unarmed ∨
      ∃ id, exec.Armed id ∧ id < manager.nextTimer ∧ id ∉ manager.closed
  distinct : ∀ {key other exec otherExec id},
    manager.executors.lookup key = some exec →
      manager.executors.lookup other = some otherExec →
        exec.cancelTimer = some id → otherExec.cancelTimer = some id →
          key = other
  closedOnce : manager.closed.Nodup
  closedBefore : ∀ id ∈ manager.closed, id < manager.nextTimer

theorem timerInvariant_newManager : TimerInvariant newManager where
  timed := by
    intro key exec present
    simp [newManager] at present
  distinct := by
    intro key other exec otherExec id present
    simp [newManager] at present
  closedOnce := List.nodup_nil
  closedBefore := by
    intro id member
    simp [newManager] at member

namespace TimerInvariant

variable {manager : Manager}

/-- An open channel may be closed when its entry is replaced by an unarmed one. -/
theorem storeUnarmed
    (invariant : TimerInvariant manager)
    (key : ExecutorKey) {exec : TrackedExecutor} (unarmed : exec.Unarmed) :
    TimerInvariant (manager.store key exec) where
  timed := by
    intro other otherExec present
    rw [Manager.lookup_store] at present
    split_ifs at present with same
    · cases present
      exact Or.inl unarmed
    · exact invariant.timed present
  distinct := by
    intro first second firstExec secondExec id firstPresent secondPresent
      firstRecords secondRecords
    rw [Manager.lookup_store] at firstPresent secondPresent
    split_ifs at firstPresent secondPresent
    · simp_all
    · cases firstPresent
      rw [unarmed.cancelTimer] at firstRecords
      cases firstRecords
    · cases secondPresent
      rw [unarmed.cancelTimer] at secondRecords
      cases secondRecords
    · exact invariant.distinct firstPresent secondPresent
        firstRecords secondRecords
  closedOnce := invariant.closedOnce
  closedBefore := invariant.closedBefore

/-- The invariant depends on the map only through its lookups. -/
theorem of_lookup_eq
    (invariant : TimerInvariant manager) {other : Manager}
    (sameEntries : ∀ key,
      other.executors.lookup key = manager.executors.lookup key)
    (sameTimers : other.nextTimer = manager.nextTimer)
    (sameClosed : other.closed = manager.closed) :
    TimerInvariant other where
  timed := by
    intro key exec present
    rw [sameEntries] at present
    rw [sameTimers, sameClosed]
    exact invariant.timed present
  distinct := by
    intro first second firstExec secondExec id firstPresent secondPresent
    rw [sameEntries] at firstPresent secondPresent
    exact invariant.distinct firstPresent secondPresent
  closedOnce := by
    rw [sameClosed]
    exact invariant.closedOnce
  closedBefore := by
    rw [sameTimers, sameClosed]
    exact invariant.closedBefore

/--
Closing the channel an entry records, once the entry is replaced by one which
is connected or dead.
-/
theorem cancelGraceTimer
    (invariant : TimerInvariant manager)
    {key : ExecutorKey} {old exec : TrackedExecutor}
    (present : manager.executors.lookup key = some old)
    (sameChannel : exec.cancelTimer = old.cancelTimer)
    (state : exec.state = .connected ∨ exec.state = .dead) :
    TimerInvariant (manager.cancelGraceTimer key exec) := by
  have stored :
      TimerInvariant
        (manager.store key { exec with timer := none, cancelTimer := none }) :=
    invariant.storeUnarmed key ⟨state, rfl, rfl⟩
  rw [Manager.cancelGraceTimer, sameChannel]
  rcases invariant.timed present with oldUnarmed | ⟨id, armed, allocated, isOpen⟩
  · rw [oldUnarmed.cancelTimer]
    exact stored
  · rw [armed.cancelTimer]
    refine
      { timed := ?_
        distinct := stored.distinct
        closedOnce := List.nodup_cons.mpr ⟨isOpen, invariant.closedOnce⟩
        closedBefore := ?_ }
    · intro other otherExec otherPresent
      rcases stored.timed otherPresent with
        otherUnarmed | ⟨otherId, otherArmed, otherAllocated, otherOpen⟩
      · exact Or.inl otherUnarmed
      · refine Or.inr ⟨otherId, otherArmed, otherAllocated, ?_⟩
        intro member
        rcases List.mem_cons.mp member with sameId | closedEarlier
        · subst otherId
          have found := otherPresent
          rw [Manager.lookup_store] at found
          split_ifs at found with same
          · cases found
            cases otherArmed.cancelTimer
          · exact same
              (invariant.distinct found present
                otherArmed.cancelTimer armed.cancelTimer)
        · exact otherOpen closedEarlier
    · intro closedId member
      rcases List.mem_cons.mp member with sameId | closedEarlier
      · exact sameId ▸ allocated
      · exact invariant.closedBefore closedId closedEarlier

/-- Arming an entry with the next timer. -/
theorem armGraceTimer
    (invariant : TimerInvariant manager)
    (now : Time) (timeout : Duration) (key : ExecutorKey)
    {exec : TrackedExecutor} (isDisconnected : exec.state = .disconnected) :
    TimerInvariant (manager.armGraceTimer now timeout key exec).1 where
  timed := by
    intro other otherExec present
    rw [Manager.lookup_armGraceTimer] at present
    split_ifs at present with same
    · cases present
      refine Or.inr ⟨manager.nextTimer, ⟨isDisconnected, rfl, rfl⟩, Nat.lt_succ_self _, ?_⟩
      intro member
      exact Nat.lt_irrefl _ (invariant.closedBefore _ member)
    · rcases invariant.timed present with unarmed | ⟨id, armed, allocated, isOpen⟩
      · exact Or.inl unarmed
      · exact Or.inr ⟨id, armed, Nat.lt_succ_of_lt allocated, isOpen⟩
  distinct := by
    have fresh : ∀ {other otherExec},
        manager.executors.lookup other = some otherExec →
          otherExec.cancelTimer ≠ some manager.nextTimer := by
      intro other otherExec present records
      rcases invariant.timed present with unarmed | ⟨id, armed, allocated, -⟩
      · rw [unarmed.cancelTimer] at records
        cases records
      · rw [armed.cancelTimer] at records
        cases records
        exact Nat.lt_irrefl _ allocated
    intro first second firstExec secondExec id firstPresent secondPresent
      firstRecords secondRecords
    rw [Manager.lookup_armGraceTimer] at firstPresent secondPresent
    split_ifs at firstPresent secondPresent
    · simp_all
    · cases firstPresent
      cases firstRecords
      exact (fresh secondPresent secondRecords).elim
    · cases secondPresent
      cases secondRecords
      exact (fresh firstPresent firstRecords).elim
    · exact invariant.distinct firstPresent secondPresent
        firstRecords secondRecords
  closedOnce := invariant.closedOnce
  closedBefore := by
    intro id member
    exact Nat.lt_succ_of_lt (invariant.closedBefore id member)

/-- Removing an entry leaves its channel open and unrecorded. -/
theorem evictExecutor
    (invariant : TimerInvariant manager) (key : ExecutorKey) :
    TimerInvariant (manager.evictExecutor key) where
  timed := by
    intro other exec present
    rw [Manager.lookup_evictExecutor] at present
    split_ifs at present
    exact invariant.timed present
  distinct := by
    intro first second firstExec secondExec id firstPresent secondPresent
    rw [Manager.lookup_evictExecutor] at firstPresent secondPresent
    split_ifs at firstPresent secondPresent
    exact invariant.distinct firstPresent secondPresent
  closedOnce := invariant.closedOnce
  closedBefore := invariant.closedBefore

/-! ## The critical sections preserve it -/

theorem onConnect
    (invariant : TimerInvariant manager)
    (key : ExecutorKey) (version : String) (source : ExecutorSource) :
    TimerInvariant (manager.onConnect key version source).1 := by
  rw [Manager.onConnect]
  cases present : manager.executors.lookup key with
  | none =>
      exact invariant.storeUnarmed key ⟨Or.inl rfl, rfl, rfl⟩
  | some old =>
      rcases invariant.timed present with unarmed | ⟨id, armed, -, -⟩
      · rcases unarmed.state with isConnected | isDead
        · simp only [Manager.connectingEntry, isConnected, transition, accept]
          exact invariant.storeUnarmed key
            ⟨Or.inl rfl, unarmed.timer, unarmed.cancelTimer⟩
        · simp only [Manager.connectingEntry, isDead, transition, accept]
          exact invariant.storeUnarmed key
            ⟨Or.inl rfl, unarmed.timer, unarmed.cancelTimer⟩
      · simp only [Manager.connectingEntry, armed.state, transition, accept]
        exact invariant.cancelGraceTimer present rfl (Or.inl rfl)

/-- Disconnecting an entry which records what the invariant asks for. -/
theorem disconnectEntry
    (invariant : TimerInvariant manager)
    (now : Time) (timeout : Duration) (key : ExecutorKey)
    {exec : TrackedExecutor}
    (current : manager.executors.lookup key = some exec ∨
      exec.state = .connected) :
    TimerInvariant (manager.disconnectEntry now timeout key exec).1 := by
  rw [Manager.disconnectEntry]
  rcases current with present | isConnected
  · rcases invariant.timed present with unarmed | ⟨id, armed, -, -⟩
    · rcases unarmed.state with isConnected | isDead
      · simp only [isConnected, transition, accept, if_true]
        exact invariant.armGraceTimer now timeout key rfl
      · simp only [isDead, transition, accept]
        exact invariant.storeUnarmed key
          ⟨Or.inr rfl, unarmed.timer, unarmed.cancelTimer⟩
    · simp only [armed.state, transition, accept]
      refine invariant.of_lookup_eq ?_ rfl rfl
      intro other
      rw [if_neg (by decide), Manager.lookup_store]
      split_ifs with same
      · rw [same, present, ← armed.state]
      · rfl
  · simp only [isConnected, transition, accept, if_true]
    exact invariant.armGraceTimer now timeout key rfl

theorem onDisconnect
    (invariant : TimerInvariant manager)
    (now : Time) (timeout : Duration) (key : ExecutorKey)
    (source : ExecutorSource) :
    TimerInvariant (manager.onDisconnect now timeout key source).1 := by
  rw [Manager.onDisconnect]
  split
  · rename_i exec present
    split_ifs with ignored
    · exact invariant
    · exact invariant.disconnectEntry now timeout key (Or.inl present)
  · exact invariant.disconnectEntry now timeout key (Or.inr rfl)

theorem adoptDisconnected
    (invariant : TimerInvariant manager)
    (now : Time) (timeout : Duration) (key : ExecutorKey)
    (version : String) :
    TimerInvariant (manager.adoptDisconnected now timeout key version).1 := by
  rw [Manager.adoptDisconnected]
  split
  · exact invariant.armGraceTimer now timeout key rfl
  · rename_i exec present
    -- Arming overwrites the entry, so the state it passes through is immaterial.
    have cancelled :
        TimerInvariant
          (manager.cancelGraceTimer key { exec with state := .connected }) :=
      invariant.cancelGraceTimer present rfl (Or.inl rfl)
    have rearmed :
        TimerInvariant
          ((manager.cancelGraceTimer key
            { exec with state := .connected }).armGraceTimer now timeout key
            { version := version
              source := .socket
              state := .disconnected
              timer := none
              cancelTimer := none }).1 :=
      cancelled.armGraceTimer now timeout key rfl
    refine rearmed.of_lookup_eq ?_ rfl rfl
    intro other
    simp only [Manager.lookup_armGraceTimer, Manager.lookup_cancelGraceTimer]
    split_ifs <;> rfl

theorem watchGracePeriod
    (invariant : TimerInvariant manager) (watcher : Watcher) :
    TimerInvariant (manager.watchGracePeriod watcher).1 := by
  rcases manager.watchGracePeriod_cases watcher with
    unchanged | ⟨exec, present, -, -, expired⟩
  · rw [unchanged]
    exact invariant
  · rw [expired]
    exact invariant.storeUnarmed watcher.key ⟨Or.inr rfl, rfl, rfl⟩

theorem recoveryFailed
    (invariant : TimerInvariant manager) (key : ExecutorKey) :
    TimerInvariant (manager.recoveryFailed key) := by
  refine invariant.of_lookup_eq (manager.lookup_recoveryFailed key)
    (manager.nextTimer_recoveryFailed key) ?_
  · rw [Manager.recoveryFailed]
    split
    · rfl
    · dsimp only
      split <;> rfl

end TimerInvariant

/-! ## What a section does to its own entry and to the others -/

namespace Manager

variable {manager : Manager} {key other : ExecutorKey}

theorem lookup_onConnect_of_ne
    (version : String) (source : ExecutorSource)
    (different : other ≠ key) :
    (manager.onConnect key version source).1.executors.lookup other =
      manager.executors.lookup other := by
  simp only [onConnect]
  split
  · rw [lookup_store, if_neg different]
  · split_ifs
    · rw [lookup_cancelGraceTimer, if_neg different]
    · rw [lookup_store, if_neg different]

theorem nextTimer_onConnect
    (manager : Manager) (key : ExecutorKey)
    (version : String) (source : ExecutorSource) :
    (manager.onConnect key version source).1.nextTimer =
      manager.nextTimer := by
  simp only [onConnect]
  split
  · rfl
  · split_ifs <;> rfl

theorem nextTimer_le_onDisconnect
    (manager : Manager) (now : Time) (timeout : Duration)
    (key : ExecutorKey) (source : ExecutorSource) :
    manager.nextTimer ≤
      (manager.onDisconnect now timeout key source).1.nextTimer := by
  have ofEntry : ∀ exec, manager.nextTimer ≤
      (manager.disconnectEntry now timeout key exec).1.nextTimer := by
    intro exec
    simp only [disconnectEntry]
    split
    · exact le_rfl
    · split_ifs
      · exact Nat.le_succ _
      · exact le_rfl
  rw [onDisconnect]
  split
  · split_ifs
    · exact le_rfl
    · exact ofEntry _
  · exact ofEntry _

theorem lookup_disconnectEntry_of_ne
    (now : Time) (timeout : Duration) (exec : TrackedExecutor)
    (different : other ≠ key) :
    (manager.disconnectEntry now timeout key exec).1.executors.lookup other =
      manager.executors.lookup other := by
  simp only [disconnectEntry]
  split
  · rw [lookup_store, if_neg different]
  · split_ifs
    · rw [lookup_armGraceTimer, if_neg different]
    · rw [lookup_store, if_neg different]

theorem lookup_onDisconnect_of_ne
    (now : Time) (timeout : Duration) (source : ExecutorSource)
    (different : other ≠ key) :
    (manager.onDisconnect now timeout key source).1.executors.lookup other =
      manager.executors.lookup other := by
  rw [onDisconnect]
  split
  · split_ifs
    · rfl
    · exact lookup_disconnectEntry_of_ne now timeout _ different
  · exact lookup_disconnectEntry_of_ne now timeout _ different

theorem lookup_adoptDisconnected_of_ne
    (now : Time) (timeout : Duration) (version : String)
    (different : other ≠ key) :
    (manager.adoptDisconnected now timeout key version).1.executors.lookup
        other =
      manager.executors.lookup other := by
  simp only [adoptDisconnected]
  split
  · rw [lookup_armGraceTimer, if_neg different]
  · rw [lookup_armGraceTimer, if_neg different, lookup_cancelGraceTimer,
      if_neg different]

end Manager

namespace TimerInvariant

variable {manager : Manager}

/-- After `onConnect` the executor is connected, whatever it was before. -/
theorem onConnect_self
    (invariant : TimerInvariant manager)
    (key : ExecutorKey) (version : String) (source : ExecutorSource) :
    ∃ exec,
      (manager.onConnect key version source).1.executors.lookup key =
        some exec ∧
      exec.Unarmed ∧ exec.state = .connected := by
  rw [Manager.onConnect]
  cases present : manager.executors.lookup key with
  | none =>
      simp only [Manager.connectingEntry, transition, accept]
      exact ⟨_, Manager.lookup_store _ _ _ _ |>.trans (if_pos rfl),
        ⟨Or.inl rfl, rfl, rfl⟩, rfl⟩
  | some old =>
      rcases invariant.timed present with unarmed | ⟨id, armed, -, -⟩
      · rcases unarmed.state with isConnected | isDead
        · simp only [Manager.connectingEntry, isConnected, transition, accept]
          exact ⟨_, Manager.lookup_store _ _ _ _ |>.trans (if_pos rfl),
            ⟨Or.inl rfl, unarmed.timer, unarmed.cancelTimer⟩, rfl⟩
        · simp only [Manager.connectingEntry, isDead, transition, accept]
          exact ⟨_, Manager.lookup_store _ _ _ _ |>.trans (if_pos rfl),
            ⟨Or.inl rfl, unarmed.timer, unarmed.cancelTimer⟩, rfl⟩
      · simp only [Manager.connectingEntry, armed.state, transition, accept]
        exact ⟨_, Manager.lookup_cancelGraceTimer _ _ _ _ |>.trans (if_pos rfl),
          ⟨Or.inl rfl, rfl, rfl⟩, rfl⟩

end TimerInvariant

/-- A fresh timer is recorded for an executor, and a watcher waits for it. -/
structure Manager.Arms (before : Manager) (now : Time) (timeout : Duration)
    (key : ExecutorKey) (after : Manager) (watcher : Watcher) : Prop where
  entry : ∃ exec, after.executors.lookup key = some exec ∧
    exec.Armed before.nextTimer
  nextTimer : after.nextTimer = before.nextTimer + 1
  watchedKey : watcher.key = key
  watchedTimer : watcher.timer = before.nextTimer
  fireAt : watcher.fireAt = now + timeout

theorem Manager.arms_armGraceTimer
    {manager : Manager} {now : Time} {timeout : Duration}
    {key : ExecutorKey} {exec : TrackedExecutor}
    (isDisconnected : exec.state = .disconnected) :
    manager.Arms now timeout key
      (manager.armGraceTimer now timeout key exec).1
      (manager.armGraceTimer now timeout key exec).2 where
  entry := by
    refine ⟨_, Manager.lookup_armGraceTimer _ _ _ _ _ _ |>.trans (if_pos rfl), ?_⟩
    exact ⟨isDisconnected, rfl, rfl⟩
  nextTimer := rfl
  watchedKey := rfl
  watchedTimer := rfl
  fireAt := rfl

/-- A watcher is started only when its timer is recorded. -/
theorem Manager.arms_of_onDisconnect
    {manager : Manager} {now : Time} {timeout : Duration}
    {key : ExecutorKey} {source : ExecutorSource} {watcher : Watcher}
    (started : (manager.onDisconnect now timeout key source).2 =
      some watcher) :
    manager.Arms now timeout key
      (manager.onDisconnect now timeout key source).1 watcher := by
  have ofEntry : ∀ exec,
      (manager.disconnectEntry now timeout key exec).2 = some watcher →
        manager.Arms now timeout key
          (manager.disconnectEntry now timeout key exec).1 watcher := by
    intro exec armed
    cases state : exec.state <;>
      simp [Manager.disconnectEntry, state, transition, accept] at armed ⊢
    · rw [← armed]
      exact Manager.arms_armGraceTimer rfl
    · rw [← armed]
      exact Manager.arms_armGraceTimer rfl
  rw [Manager.onDisconnect] at started ⊢
  split at started
  · split_ifs at started ⊢
    exact ofEntry _ started
  · exact ofEntry _ started

/--
`OnDisconnect` arms a timer for an executor which is connected or unknown, and
leaves one which is disconnected or dead as it is.
-/
theorem TimerInvariant.onDisconnect_self
    {manager : Manager} (invariant : TimerInvariant manager)
    (now : Time) (timeout : Duration) (key : ExecutorKey) :
    ((∀ old ∈ manager.executors.lookup key, old.state = .connected) ∧
      ∃ watcher,
        (manager.onDisconnect now timeout key .socket).2 = some watcher ∧
        manager.Arms now timeout key
          (manager.onDisconnect now timeout key .socket).1 watcher) ∨
    ((∃ exec ∈ manager.executors.lookup key, exec.state ≠ .connected) ∧
      (manager.onDisconnect now timeout key .socket).1.executors.lookup key =
        manager.executors.lookup key ∧
      (manager.onDisconnect now timeout key .socket).1.nextTimer =
        manager.nextTimer ∧
      (manager.onDisconnect now timeout key .socket).2 = none) := by
  rw [Manager.onDisconnect]
  cases present : manager.executors.lookup key with
  | none =>
      refine Or.inl ⟨by simp, ?_⟩
      exact ⟨_, rfl, Manager.arms_armGraceTimer rfl⟩
  | some exec =>
      simp only [reduceCtorEq, false_and, if_false]
      rcases invariant.timed present with unarmed | ⟨id, armed, -, -⟩
      · rcases unarmed.state with isConnected | isDead
        · simp only [Manager.disconnectEntry, isConnected, transition, accept,
            if_true]
          refine Or.inl ⟨by simp [isConnected], ?_⟩
          exact ⟨_, rfl, Manager.arms_armGraceTimer rfl⟩
        · simp only [Manager.disconnectEntry, isDead, transition, accept,
            reduceCtorEq, if_false]
          refine Or.inr ⟨by simp [isDead], ?_, rfl, trivial⟩
          rw [Manager.lookup_store, if_pos rfl, ← isDead]
      · simp only [Manager.disconnectEntry, armed.state, transition, accept,
          reduceCtorEq, if_false]
        refine Or.inr ⟨by simp [armed.state], ?_, rfl, trivial⟩
        rw [Manager.lookup_store, if_pos rfl, ← armed.state]

/-- `AdoptDisconnected` always arms a fresh timer. -/
theorem Manager.arms_adoptDisconnected
    (manager : Manager) (now : Time) (timeout : Duration)
    (key : ExecutorKey) (version : String) :
    manager.Arms now timeout key
      (manager.adoptDisconnected now timeout key version).1
      (manager.adoptDisconnected now timeout key version).2 := by
  rw [Manager.adoptDisconnected]
  cases manager.executors.lookup key with
  | none => exact Manager.arms_armGraceTimer rfl
  | some exec =>
      exact
        { entry := ⟨_, Manager.lookup_armGraceTimer _ _ _ _ _ _ |>.trans
            (if_pos rfl), ⟨rfl, rfl, rfl⟩⟩
          nextTimer := rfl
          watchedKey := rfl
          watchedTimer := rfl
          fireAt := rfl }

/-! ## Runs of the manager -/

/-- The manager together with its watcher goroutines and the clock. -/
structure Lifecycle where
  manager : Manager
  watchers : List Watcher
  now : Time

/-- The steps which touch the lifecycle state of executors before `Stop`. -/
inductive LifecycleStep where
  | clockAdvances (elapsed : Nat)
  | onConnect (key : ExecutorKey) (version : String)
  | onProbeConnect (key : ExecutorKey) (version : String)
  | onDisconnect (key : ExecutorKey) (timeout : Duration)
  | onProbeDisconnect (key : ExecutorKey) (timeout : Duration)
  | adoptDisconnected (key : ExecutorKey) (version : String)
      (timeout : Duration)
  | evictExecutor (key : ExecutorKey)
  | deleteExecutor (key : ExecutorKey)
  | timerFires (watcher : Watcher)
  | cancelObserved (watcher : Watcher)
  | recoveryFailed (key : ExecutorKey)
deriving DecidableEq, Repr

/--
One step of the manager.  A watcher may see its timer fire at any time from its
expiry on, whether or not the timer has been stopped meanwhile: a firing which
races with the lock holder is delivered after the stop.
-/
def Lifecycle.step (lifecycle : Lifecycle) :
    LifecycleStep → Option Lifecycle
  | .clockAdvances elapsed =>
      some { lifecycle with now := lifecycle.now + elapsed }
  | .onConnect key version =>
      some
        { lifecycle with
          manager := (lifecycle.manager.onConnect key version .socket).1 }
  | .onProbeConnect key version =>
      some
        { lifecycle with
          manager := (lifecycle.manager.onConnect key version .probe).1 }
  | .onDisconnect key timeout =>
      let result :=
        lifecycle.manager.onDisconnect lifecycle.now timeout key .socket
      some
        { lifecycle with
          manager := result.1
          watchers := result.2.toList ++ lifecycle.watchers }
  | .onProbeDisconnect key timeout =>
      let result :=
        lifecycle.manager.onDisconnect lifecycle.now timeout key .probe
      some
        { lifecycle with
          manager := result.1
          watchers := result.2.toList ++ lifecycle.watchers }
  | .adoptDisconnected key version timeout =>
      let result :=
        lifecycle.manager.adoptDisconnected lifecycle.now timeout key version
      some
        { lifecycle with
          manager := result.1
          watchers := result.2 :: lifecycle.watchers }
  | .evictExecutor key | .deleteExecutor key =>
      some
        { lifecycle with manager := lifecycle.manager.evictExecutor key }
  | .timerFires watcher =>
      if watcher ∈ lifecycle.watchers ∧ watcher.fireAt ≤ lifecycle.now then
        some
          { lifecycle with
            manager := (lifecycle.manager.watchGracePeriod watcher).1
            watchers := lifecycle.watchers.erase watcher }
      else none
  | .cancelObserved watcher =>
      if watcher ∈ lifecycle.watchers ∧
          watcher.timerDone ∈ lifecycle.manager.closed then
        some
          { lifecycle with watchers := lifecycle.watchers.erase watcher }
      else none
  | .recoveryFailed key =>
      some
        { lifecycle with manager := lifecycle.manager.recoveryFailed key }

/-- A manager nothing has happened to yet. -/
def Lifecycle.initial (instanceID : Option UUID) (now : Time) : Lifecycle where
  manager := { newManager with instanceID := instanceID }
  watchers := []
  now := now

theorem Lifecycle.timerInvariant_step
    {before after : Lifecycle} {label : LifecycleStep}
    (taken : before.step label = some after)
    (invariant : TimerInvariant before.manager) :
    TimerInvariant after.manager := by
  cases label with
  | clockAdvances elapsed =>
      cases taken
      exact invariant
  | onConnect key version =>
      cases taken
      exact invariant.onConnect key version .socket
  | onProbeConnect key version =>
      cases taken
      exact invariant.onConnect key version .probe
  | onDisconnect key timeout =>
      cases taken
      exact invariant.onDisconnect before.now timeout key .socket
  | onProbeDisconnect key timeout =>
      cases taken
      exact invariant.onDisconnect before.now timeout key .probe
  | adoptDisconnected key version timeout =>
      cases taken
      exact invariant.adoptDisconnected before.now timeout key version
  | evictExecutor key =>
      cases taken
      exact invariant.evictExecutor key
  | deleteExecutor key =>
      cases taken
      exact invariant.evictExecutor key
  | timerFires watcher =>
      rw [Lifecycle.step] at taken
      split_ifs at taken
      cases taken
      exact invariant.watchGracePeriod watcher
  | cancelObserved watcher =>
      rw [Lifecycle.step] at taken
      split_ifs at taken
      cases taken
      exact invariant
  | recoveryFailed key =>
      cases taken
      exact invariant.recoveryFailed key

theorem Lifecycle.timerInvariant_run
    {instanceID : Option UUID} {start : Time}
    {labels : List LifecycleStep} {reached : Lifecycle}
    (taken : run Lifecycle.step (Lifecycle.initial instanceID start) labels =
      some reached) :
    TimerInvariant reached.manager :=
  run_invariant
    (fun lifecycle => TimerInvariant lifecycle.manager)
    Lifecycle.timerInvariant_step taken
    (timerInvariant_newManager.of_lookup_eq (fun _ => rfl) rfl rfl)

/--
In every state any interleaving of the manager's sections reaches before
`Stop`: an executor is disconnected exactly when both a timer and a cancel
channel are recorded for it, a connected or dead one records neither; a firing
of a timer which is not the recorded one returns without touching the map and
without continuing to the store; and no channel has been closed twice.
-/
theorem timers_follow_states
    (instanceID : Option UUID) (start : Time)
    (labels : List LifecycleStep) (reached : Lifecycle)
    (taken : run Lifecycle.step (Lifecycle.initial instanceID start) labels =
      some reached) :
    (∀ key exec, reached.manager.executors.lookup key = some exec →
      (exec.state = .disconnected ↔
        exec.timer.isSome ∧ exec.cancelTimer.isSome) ∧
      (exec.state = .connected ∨ exec.state = .dead →
        exec.timer = none ∧ exec.cancelTimer = none)) ∧
    (∀ watcher : Watcher,
      (∀ exec, reached.manager.executors.lookup watcher.key = some exec →
        exec.timer ≠ some watcher.timer) →
      reached.manager.watchGracePeriod watcher = (reached.manager, none)) ∧
    reached.manager.closed.Nodup := by
  have invariant := Lifecycle.timerInvariant_run taken
  refine ⟨?_, ?_, invariant.closedOnce⟩
  · intro key exec present
    rcases invariant.timed present with unarmed | ⟨id, armed, -, -⟩
    · have notDisconnected : exec.state ≠ .disconnected := by
        rcases unarmed.state with isConnected | isDead
        · simp [isConnected]
        · simp [isDead]
      simp [notDisconnected, unarmed.timer, unarmed.cancelTimer]
    · simp [armed.state, armed.timer, armed.cancelTimer]
  · intro watcher stale
    exact Manager.watchGracePeriod_of_stale stale

/--
An executor reconnects within its grace period and disconnects again; the
first watcher sees its timer fire although the second one is recorded.
-/
def staleFiring : List LifecycleStep :=
  let key : ExecutorKey := ⟨⟨7⟩, "exec-1"⟩
  [.onConnect key "v1",
    .onDisconnect key (60 * second),
    .onConnect key "v1",
    .onDisconnect key (60 * second),
    .clockAdvances 60000000000,
    .timerFires ⟨key, "v1", 0, 0, 60 * second⟩]

theorem timers_follow_states_staleFiring :
    ((run Lifecycle.step (Lifecycle.initial none 0) staleFiring).map
      fun reached => (reached.manager.closed, reached.watchers)) =
        some ([0], [⟨⟨⟨7⟩, "exec-1"⟩, "v1", 1, 1, 60 * second⟩]) ∧
      ∀ reached,
        run Lifecycle.step (Lifecycle.initial none 0) staleFiring =
            some reached →
          reached.manager.closed.Nodup := by
  refine ⟨by decide, ?_⟩
  intro reached taken
  exact (timers_follow_states none 0 staleFiring reached taken).2.2

end DbosRelay.Liveness
