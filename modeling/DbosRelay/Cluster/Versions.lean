import DbosRelay.Cluster.Threads
import DbosRelay.Liveness.Probe

/-!
# The version a recovery is dispatched with

The row of an executor has its version from the latest `UpsertExecutor`, which
every socket handshake and every heartbeat of a probe issues.  The lifecycle
manager has a copy, assigned by `OnConnect`, `OnProbeConnect` and
`AdoptDisconnected`; the goroutine of a grace timer has a copy of that, taken
when the timer is armed, and passes it to `RecoverDeadExecutor`.

A heartbeat calls `OnProbeConnect` only when the probe registry has no entry for
the executor.  A later heartbeat with another version leaves the manager's copy
behind, and so does whoever writes the row between a connect's own write and its
call of the manager.  Where the copies are kept in step, the version passed is
the one the row has when the timer expires.

Sources: `internal/hub/hub.go`, `internal/liveness/manager.go`,
`internal/liveness/probe.go`, `internal/ha/instance.go`.
-/

namespace DbosRelay.Cluster

open DbosRelay.Basic
open DbosRelay.Library.Runs
open DbosRelay.Library.Tables
open DbosRelay.Liveness
open DbosRelay.Store

/-! ## The system -/

/-- A goroutine of `watchGracePeriod` after its critical section. -/
structure Expiry where
  watcher : Watcher
  /-- The version of the executor's row when the timer expired. -/
  storedVersion : Option String
  phase : ExpiryPhase
deriving DecidableEq, Repr

/-- The goroutine which calls `RecoverDeadExecutor`. -/
structure RecoveryDispatch where
  key : ExecutorKey
  /-- The version passed. -/
  version : String
  /-- The version of the executor's row when the timer expired. -/
  storedVersion : Option String
deriving DecidableEq, Repr

/-- The probe system, the executors table and what is under way between them. -/
structure VersionSystem where
  probes : ProbeSystem
  rows : ExecutorTable
  /-- Handshakes which have stored their row and will call `OnConnect`. -/
  registering : List (ExecutorKey × String)
  /-- Adopted rows for which `AdoptDisconnected` will be called. -/
  adopting : List (ExecutorKey × String)
  expiries : List Expiry
  dispatches : List RecoveryDispatch

/-- Nothing has happened yet. -/
def VersionSystem.initial (instanceID : Option UUID) (now : Time) :
    VersionSystem where
  probes := ProbeSystem.initial instanceID now
  rows := ∅
  registering := []
  adopting := []
  expiries := []
  dispatches := []

/-- One atomic step. -/
inductive VersionLabel where
  /-- `UpsertExecutor` of a socket handshake. -/
  | registers (key : ExecutorKey) (version : String)
      (ownerInstanceID : Option UUID) (leaseExpiresAt : Option Time)
  | onConnect (key : ExecutorKey) (version : String)
  /-- `UpsertExecutor` of a heartbeat, answered without an error. -/
  | recorded (key : ExecutorKey) (version : String) (ttl : Duration)
      (ownerInstanceID : Option UUID) (leaseExpiresAt : Option Time)
  /-- `AdoptExpiredExecutors`. -/
  | adopts (self : UUID) (leaseExpiresAt : Option Time)
  | adoptDisconnected (key : ExecutorKey) (version : String)
      (timeout : Duration)
  | timerFires (watcher : Watcher)
  /-- `watchGracePeriod` goes on with the reply to its statement. -/
  | resumes (expiry : Expiry) (reply : Reply)
  /-- A statement of any other origin, such as another instance. -/
  | statement (statement : Statement)
  /-- Everything else. -/
  | probe (label : ProbeLabel)

/-- The steps of the probe system which have a label of their own here. -/
def ProbeLabel.ofVersions : ProbeLabel → Bool
  | .lifecycle (.onConnect _ _) => true
  | .lifecycle (.adoptDisconnected _ _ _) => true
  | .lifecycle (.timerFires _) => true
  | .recorded _ _ _ stored => stored
  | _ => false

namespace VersionSystem

def manager (system : VersionSystem) : Manager :=
  system.probes.lifecycle.manager

def now (system : VersionSystem) : Time :=
  system.probes.lifecycle.now

/-- The version the manager tracks an executor with. -/
def trackedVersion (system : VersionSystem) (key : ExecutorKey) :
    Option String :=
  (system.manager.executors.lookup key).map TrackedExecutor.version

/-- The version in the row of an executor. -/
def storedVersion (system : VersionSystem) (key : ExecutorKey) :
    Option String :=
  (system.rows.lookup key).map Executor.applicationVersion

/-- A statement is executed. -/
def execute (system : VersionSystem) (statement : Statement) :
    VersionSystem :=
  { system with rows := statement.run system.now system.rows }

/-- A step of the manager. -/
def lifecycleStep (system : VersionSystem) (step : LifecycleStep) :
    Option VersionSystem :=
  (system.probes.lifecycle.step step).map fun lifecycle =>
    { system with probes := { system.probes with lifecycle := lifecycle } }

/-- The critical section of `watchGracePeriod` has expired the executor. -/
def expire (system : VersionSystem) (watcher : Watcher) : List Expiry :=
  match (system.manager.watchGracePeriod watcher).2 with
  | none => []
  | some _ => [⟨watcher, system.storedVersion watcher.key, .lookup⟩]

/-- `watchGracePeriod` from the ownership lookup on. -/
def resumeExpiry (system : VersionSystem) (expiry : Expiry)
    (reply : Reply) : VersionSystem :=
  let key := expiry.watcher.key
  let rest := system.expiries.erase expiry
  match expiry.phase with
  | .lookup =>
      let elsewhere := reply.succeeded && (system.rows.lookup key).any fun row =>
        row.status = .connected && isOtherOwner system.manager row &&
          isFutureLease row system.now
      { system with
        expiries :=
          { expiry with phase := if elsewhere then .evict else .markDead } ::
            rest }
  | .evict =>
      { system with
        probes :=
          { system.probes with
            lifecycle :=
              { system.probes.lifecycle with
                manager := system.manager.evictExecutor key } }
        expiries := rest }
  | .markDead =>
      let marked := setExecutorDead system.rows key
      { system with
        rows := if reply.applied then marked.getD system.rows else system.rows
        expiries := rest
        dispatches :=
          (if reply.succeeded && marked.isSome then
            [⟨key, expiry.watcher.version, expiry.storedVersion⟩]
          else []) ++ system.dispatches }

/-- The step a label stands for. -/
def step (handler : ProbeHandler) (system : VersionSystem) :
    VersionLabel → Option VersionSystem
  | .registers key version ownerInstanceID leaseExpiresAt =>
      some
        { system.execute
            (.upsertExecutor key version ownerInstanceID leaseExpiresAt) with
          registering := (key, version) :: system.registering }
  | .onConnect key version =>
      if (key, version) ∈ system.registering then
        { system with
          registering :=
            system.registering.erase (key, version) }.lifecycleStep
          (.onConnect key version)
      else none
  | .recorded key version ttl ownerInstanceID leaseExpiresAt =>
      (system.probes.step handler (.recorded key version ttl true)).map
        fun probes =>
          { system.execute
              (.upsertExecutor key version ownerInstanceID leaseExpiresAt) with
            probes := probes }
  | .adopts self leaseExpiresAt =>
      some
        { system.execute (.adoptExpiredExecutors self leaseExpiresAt) with
          adopting :=
            adoptedExecutors system.rows system.now self ++ system.adopting }
  | .adoptDisconnected key version timeout =>
      if (key, version) ∈ system.adopting then
        { system with
          adopting := system.adopting.erase (key, version) }.lifecycleStep
          (.adoptDisconnected key version timeout)
      else none
  | .timerFires watcher =>
      { system with
        expiries := system.expire watcher ++ system.expiries }.lifecycleStep
        (.timerFires watcher)
  | .resumes expiry reply =>
      if expiry ∈ system.expiries then
        some (system.resumeExpiry expiry reply)
      else none
  | .statement statement => some (system.execute statement)
  | .probe label =>
      if ProbeLabel.ofVersions label then none
      else
        (system.probes.step handler label).map fun probes =>
          { system with probes := probes }

end VersionSystem

/-! ## The property -/

/-- Every recovery is dispatched with the version the row had at the expiry. -/
def VersionSystem.DispatchesStored (system : VersionSystem) : Prop :=
  ∀ dispatch ∈ system.dispatches, ∀ version ∈ dispatch.storedVersion,
    dispatch.version = version

/-! ## The condition -/

namespace VersionSystem

/-- A connect has stored its row and is to reach the manager. -/
def connectUnderWay (system : VersionSystem) (key : ExecutorKey) : Bool :=
  (system.registering.any fun pending => pending.1 = key) ||
    system.probes.connectPending key

/-- A heartbeat has stored its row and is to reach the probe registry. -/
def touchUnderWay (system : VersionSystem) (key : ExecutorKey) : Bool :=
  system.probes.threads.any fun
    | .touching other _ _ => other = key
    | _ => false

/-- The row, if there is one, has the version. -/
def stores (system : VersionSystem) (key : ExecutorKey)
    (version : String) : Bool :=
  (system.storedVersion key).all fun stored => stored = version

/-- The manager tracks the executor with the version, or not at all. -/
def tracks (system : VersionSystem) (key : ExecutorKey)
    (version : String) : Bool :=
  (system.trackedVersion key).all fun tracked => tracked = version

/-- A disconnect finds the executor tracked, or its row without a version. -/
def disconnectsTracked (system : VersionSystem) (key : ExecutorKey) : Bool :=
  (system.trackedVersion key).isSome || system.stores key ""

/--
The manager's copy of a version is kept in step with the row.

* A heartbeat which finds its executor in the probe registry, and with no
  connect under way, carries the version the manager tracks.
* A connect or an adoption reaches the manager while the row still has the
  version it stored.
* Nobody else stores a version the manager does not track.
* No disconnect comes for an executor which is not tracked but has a version.
* No timer expires while a connect or a heartbeat has stored its row and is
  still to reach the manager or the registry.
-/
def inStep (system : VersionSystem) : VersionLabel → Bool
  | .onConnect key version => system.stores key version
  | .adoptDisconnected key version _ => system.stores key version
  | .timerFires watcher =>
      !system.connectUnderWay watcher.key && !system.touchUnderWay watcher.key
  | .statement (.upsertExecutor key version _ _) => system.tracks key version
  | .probe (.connects key version) => system.stores key version
  | .probe (.touches key version _) =>
      key ∉ system.probes.entries || system.connectUnderWay key ||
        (system.stores key version && system.tracks key version)
  | .probe (.lifecycle (.onDisconnect key _)) => system.disconnectsTracked key
  | .probe (.stops key _) => system.disconnectsTracked key
  | .probe (.delivers _) =>
      (system.probes.swept.head?).all fun key => system.disconnectsTracked key
  | _ => true

end VersionSystem

/-! ## What a watcher has captured -/

/--
A watcher whose timer is the recorded one has the version of the entry.
-/
structure Captured (lifecycle : Lifecycle) : Prop where
  timers : TimerInvariant lifecycle.manager
  allocated : ∀ watcher ∈ lifecycle.watchers,
    watcher.timer < lifecycle.manager.nextTimer
  version : ∀ watcher ∈ lifecycle.watchers, ∀ exec,
    lifecycle.manager.executors.lookup watcher.key = some exec →
      exec.timer = some watcher.timer → exec.version = watcher.version

namespace Captured

variable {before after : Lifecycle}

/-- No new timer: the entries keep theirs, with its version, or have none. -/
theorem of_kept (captured : Captured before)
    (timers : TimerInvariant after.manager)
    (watchers : ∀ watcher ∈ after.watchers, watcher ∈ before.watchers)
    (nextTimer : before.manager.nextTimer ≤ after.manager.nextTimer)
    (kept : ∀ key exec, after.manager.executors.lookup key = some exec →
      exec.timer = none ∨
        ∃ old, before.manager.executors.lookup key = some old ∧
          old.timer = exec.timer ∧ old.version = exec.version) :
    Captured after where
  timers := timers
  allocated := by
    intro watcher member
    exact lt_of_lt_of_le (captured.allocated watcher (watchers watcher member))
      nextTimer
  version := by
    intro watcher member exec present recorded
    rcases kept watcher.key exec present with
      unarmed | ⟨old, oldPresent, sameTimer, sameVersion⟩
    · rw [unarmed] at recorded
      cases recorded
    · rw [← sameVersion]
      exact captured.version watcher (watchers watcher member) old oldPresent
        (sameTimer.trans recorded)

/-- A new timer is the new watcher's, and no earlier watcher waits for it. -/
theorem of_arms (captured : Captured before)
    (timers : TimerInvariant after.manager)
    {timeout : Duration} {key : ExecutorKey} {armed : Watcher}
    (arms : before.manager.Arms before.now timeout key after.manager armed)
    (watchers : after.watchers = armed :: before.watchers)
    (version : (after.manager.executors.lookup key).map
      TrackedExecutor.version = some armed.version)
    (others : ∀ other, other ≠ key →
      after.manager.executors.lookup other =
        before.manager.executors.lookup other) :
    Captured after := by
  obtain ⟨entry, present, entryArmed⟩ := arms.entry
  refine ⟨timers, ?_, ?_⟩
  · intro watcher member
    rw [arms.nextTimer]
    rw [watchers] at member
    rcases List.mem_cons.mp member with rfl | earlier
    · exact arms.watchedTimer ▸ Nat.lt_succ_self _
    · exact Nat.lt_succ_of_lt (captured.allocated watcher earlier)
  · intro watcher member exec found timer
    rw [watchers] at member
    rcases List.mem_cons.mp member with rfl | earlier
    · rw [arms.watchedKey] at found
      rw [found] at version
      exact Option.some.inj version
    · by_cases same : watcher.key = key
      · rw [same, present] at found
        cases found
        -- The recorded timer is newer than every earlier watcher's.
        have fresh := captured.allocated watcher earlier
        rw [entryArmed.timer] at timer
        rw [← Option.some.inj timer] at fresh
        exact (Nat.lt_irrefl _ fresh).elim
      · rw [others watcher.key same] at found
        exact captured.version watcher earlier exec found timer

/-- An entry which is what it was, up to its state. -/
theorem kept_of_lookup_eq {key : ExecutorKey} {exec : TrackedExecutor}
    (same : after.manager.executors.lookup key =
      before.manager.executors.lookup key)
    (present : after.manager.executors.lookup key = some exec) :
    exec.timer = none ∨
      ∃ old, before.manager.executors.lookup key = some old ∧
        old.timer = exec.timer ∧ old.version = exec.version :=
  Or.inr ⟨exec, same ▸ present, rfl, rfl⟩

theorem onConnect (captured : Captured before) {key : ExecutorKey}
    {version : String} {source : ExecutorSource}
    (connects : after =
      { before with
        manager := (before.manager.onConnect key version source).1 }) :
    Captured after := by
  subst connects
  refine captured.of_kept (captured.timers.onConnect key version source)
    (fun _ member => member) (Manager.nextTimer_onConnect ..).ge ?_
  intro other exec present
  by_cases same : other = key
  · subst same
    obtain ⟨connected, found, unarmed, -⟩ :=
      captured.timers.onConnect_self other version source
    cases found.symm.trans present
    exact Or.inl unarmed.timer
  · exact kept_of_lookup_eq
      (Manager.lookup_onConnect_of_ne version source same) present

/-- A disconnect stores the entry in its next state, or arms it. -/
theorem disconnectEntry_cases (manager : Manager) (now : Time)
    (timeout : Duration) (key : ExecutorKey) (exec : TrackedExecutor) :
    ∃ next : TrackedExecutor,
      next.version = exec.version ∧ next.timer = exec.timer ∧
        (manager.disconnectEntry now timeout key exec =
            (manager.store key next, none) ∨
          manager.disconnectEntry now timeout key exec =
            ((manager.armGraceTimer now timeout key next).1,
              some (manager.armGraceTimer now timeout key next).2)) := by
  rw [Manager.disconnectEntry]
  split
  · exact ⟨exec, rfl, rfl, Or.inl rfl⟩
  · refine
      ⟨{ exec with state := (transition exec.state .disconnect).state },
        rfl, rfl, ?_⟩
    split_ifs
    · exact Or.inr rfl
    · exact Or.inl rfl

/-- The entry `onDisconnect` finds or allocates. -/
theorem onDisconnect_cases (manager : Manager) (now : Time)
    (timeout : Duration) (key : ExecutorKey) (source : ExecutorSource) :
    manager.onDisconnect now timeout key source = (manager, none) ∨
      manager.onDisconnect now timeout key source =
        manager.disconnectEntry now timeout key
          ((manager.executors.lookup key).getD (untrackedEntry source)) := by
  rw [Manager.onDisconnect]
  cases manager.executors.lookup key with
  | none => exact Or.inr rfl
  | some exec =>
      dsimp only
      split_ifs
      · exact Or.inl rfl
      · exact Or.inr rfl

theorem onDisconnect (captured : Captured before) {timeout : Duration}
    {key : ExecutorKey} {source : ExecutorSource}
    (disconnects : after =
      { before with
        manager :=
          (before.manager.onDisconnect before.now timeout key source).1
        watchers :=
          (before.manager.onDisconnect before.now timeout key source).2.toList ++
            before.watchers }) :
    Captured after := by
  have timers := captured.timers.onDisconnect before.now timeout key source
  have others : ∀ other, other ≠ key →
      (before.manager.onDisconnect before.now timeout key
          source).1.executors.lookup other =
        before.manager.executors.lookup other :=
    fun other different =>
      Manager.lookup_onDisconnect_of_ne before.now timeout source different
  subst disconnects
  rcases onDisconnect_cases before.manager before.now timeout key source with
    ignored | found
  · refine captured.of_kept timers ?_ ?_ ?_
    · simp [ignored]
    · rw [ignored]
    · intro other exec present
      exact kept_of_lookup_eq (by rw [ignored]) present
  · obtain ⟨next, version, timer, stored | armed⟩ :=
      disconnectEntry_cases before.manager before.now timeout key
        ((before.manager.executors.lookup key).getD (untrackedEntry source))
    · rw [← found] at stored
      refine captured.of_kept timers ?_ ?_ ?_
      · simp [stored]
      · rw [stored]
        exact le_rfl
      · intro other exec present
        by_cases same : other = key
        · subst same
          simp only [stored, Manager.lookup_store, if_true] at present
          cases present
          cases old : before.manager.executors.lookup other with
          | none =>
              rw [old] at timer
              exact Or.inl timer
          | some exec =>
              rw [old] at timer version
              exact Or.inr ⟨exec, rfl, timer.symm, version.symm⟩
        · exact kept_of_lookup_eq (others other same) present
    · rw [← found] at armed
      have started : (before.manager.onDisconnect before.now timeout key
          source).2 = some _ := congrArg Prod.snd armed
      refine captured.of_arms timers (Manager.arms_of_onDisconnect started)
        ?_ ?_ others
      · rw [started]
        rfl
      · simp only [armed, Manager.lookup_armGraceTimer, if_true]
        rfl

theorem adoptDisconnected (captured : Captured before) {timeout : Duration}
    {key : ExecutorKey} {version : String}
    (adopts : after =
      { before with
        manager :=
          (before.manager.adoptDisconnected before.now timeout key version).1
        watchers :=
          (before.manager.adoptDisconnected before.now timeout key
              version).2 ::
            before.watchers }) :
    Captured after := by
  subst adopts
  refine captured.of_arms
    (captured.timers.adoptDisconnected before.now timeout key version)
    (Manager.arms_adoptDisconnected before.manager before.now timeout key
      version) rfl ?_ ?_
  · rw [Manager.map_adoptDisconnected (fun _ _ _ _ => rfl),
      Manager.adoptDisconnected]
    split <;> rfl
  · intro other different
    exact Manager.lookup_adoptDisconnected_of_ne before.now timeout version
      different

theorem watchGracePeriod (captured : Captured before) {watcher : Watcher}
    (fires : after =
      { before with
        manager := (before.manager.watchGracePeriod watcher).1
        watchers := before.watchers.erase watcher }) :
    Captured after := by
  subst fires
  refine captured.of_kept (captured.timers.watchGracePeriod watcher)
    (fun _ member => List.mem_of_mem_erase member) ?_ ?_
  · rcases before.manager.watchGracePeriod_cases watcher with
      unchanged | ⟨exec, present, -, -, expired⟩
    · rw [unchanged]
    · rw [expired]
      exact le_rfl
  · intro key exec present
    rcases before.manager.watchGracePeriod_cases watcher with
      unchanged | ⟨old, oldPresent, -, -, expired⟩
    · exact kept_of_lookup_eq (by rw [unchanged]) present
    · simp only [expired, Manager.lookup_store] at present
      split_ifs at present
      · cases present
        exact Or.inl rfl
      · exact Or.inr ⟨exec, present, rfl, rfl⟩

theorem evictExecutor (captured : Captured before) {key : ExecutorKey}
    (evicts : after =
      { before with manager := before.manager.evictExecutor key }) :
    Captured after := by
  subst evicts
  refine captured.of_kept (captured.timers.evictExecutor key)
    (fun _ member => member) le_rfl ?_
  intro other exec present
  rw [Manager.lookup_evictExecutor] at present
  split_ifs at present
  exact Or.inr ⟨exec, present, rfl, rfl⟩

/-- Every step of the manager keeps what the watchers have captured. -/
theorem step (captured : Captured before) {label : LifecycleStep}
    (taken : before.step label = some after) : Captured after := by
  cases label with
  | clockAdvances elapsed =>
      cases taken
      exact ⟨captured.timers, captured.allocated, captured.version⟩
  | onConnect key version => exact captured.onConnect (Option.some.inj taken).symm
  | onProbeConnect key version =>
      exact captured.onConnect (Option.some.inj taken).symm
  | onDisconnect key timeout =>
      exact captured.onDisconnect (Option.some.inj taken).symm
  | onProbeDisconnect key timeout =>
      exact captured.onDisconnect (Option.some.inj taken).symm
  | adoptDisconnected key version timeout =>
      exact captured.adoptDisconnected (Option.some.inj taken).symm
  | evictExecutor key => exact captured.evictExecutor (Option.some.inj taken).symm
  | deleteExecutor key =>
      exact captured.evictExecutor (Option.some.inj taken).symm
  | timerFires watcher =>
      rw [Lifecycle.step] at taken
      split_ifs at taken
      exact captured.watchGracePeriod (Option.some.inj taken).symm
  | cancelObserved watcher =>
      rw [Lifecycle.step] at taken
      split_ifs at taken
      cases taken
      exact captured.of_kept captured.timers
        (fun _ member => List.mem_of_mem_erase member) le_rfl
        (fun _ _ present => kept_of_lookup_eq rfl present)
  | recoveryFailed key =>
      cases taken
      exact captured.of_kept (captured.timers.recoveryFailed key)
        (fun _ member => member)
        (before.manager.nextTimer_recoveryFailed key).ge
        (fun _ _ present =>
          kept_of_lookup_eq (before.manager.lookup_recoveryFailed key _) present)

end Captured

/-! ## The tracked and the stored version -/

/-- What a step makes of the version the manager tracks an executor with. -/
def nextVersion (key : ExecutorKey) (tracked : Option String) :
    LifecycleStep → Option String
  | .onConnect other version => if other = key then some version else tracked
  | .onProbeConnect other version =>
      if other = key then some version else tracked
  | .onDisconnect other _ =>
      if other = key then some (tracked.getD "") else tracked
  | .onProbeDisconnect other _ =>
      if other = key then some (tracked.getD "") else tracked
  | .adoptDisconnected other version _ =>
      if other = key then some version else tracked
  | .evictExecutor other => if other = key then none else tracked
  | .deleteExecutor other => if other = key then none else tracked
  | _ => tracked

theorem mem_of_mem_ite_none {dropped : Prop} [Decidable dropped]
    {tracked : Option String} {version : String}
    (member : version ∈ if dropped then none else tracked) :
    version ∈ tracked := by
  split_ifs at member
  · cases member
  · exact member

theorem map_version_step {before after : Lifecycle} {label : LifecycleStep}
    (taken : before.step label = some after) (key : ExecutorKey) :
    (after.manager.executors.lookup key).map TrackedExecutor.version =
      nextVersion key
        ((before.manager.executors.lookup key).map TrackedExecutor.version)
        label := by
  have steady : TrackedExecutor.Steady TrackedExecutor.version :=
    fun _ _ _ _ => rfl
  rw [Lifecycle.map_step steady taken key]
  cases before.manager.executors.lookup key <;> cases label <;>
    simp only [LifecycleStep.nextEntry, nextVersion] <;>
    try split_ifs <;> rfl

/-- Only an upsert assigns a version. -/
theorem rowAfter_applicationVersion {statement : Statement} {now : Time}
    {key : ExecutorKey} {row : Option Executor} {version : String}
    (notUpserted : ∀ applicationVersion owner lease,
      statement ≠ .upsertExecutor key applicationVersion owner lease)
    (stored : version ∈
      (statement.rowAfter now key row).map Executor.applicationVersion) :
    version ∈ row.map Executor.applicationVersion := by
  cases statement with
  | upsertExecutor target applicationVersion owner lease =>
      rw [Statement.rowAfter] at stored
      split_ifs at stored with same
      · subst same
        exact (notUpserted applicationVersion owner lease rfl).elim
      · exact stored
  | deleteExecutor target =>
      rw [Statement.rowAfter] at stored
      split_ifs at stored
      · cases stored
      · exact stored
  | touchExecutorLastSeen target lease =>
      rw [Statement.rowAfter] at stored
      split_ifs at stored
      · cases row <;> exact stored
      · exact stored
  | disconnectExecutor target =>
      rw [Statement.rowAfter] at stored
      split_ifs at stored
      · cases row <;> exact stored
      · exact stored
  | setExecutorDead target =>
      rw [Statement.rowAfter] at stored
      split_ifs at stored
      · cases row with
        | none => exact stored
        | some old =>
            by_cases isDead : old.status = .dead
            · simpa [isDead] using stored
            · simpa [isDead, Executor.markedDead] using stored
      · exact stored
  | reapExpiredExecutors disconnectedBefore =>
      cases row with
      | none => exact stored
      | some old =>
          by_cases reapable : old.Reapable disconnectedBefore
          · simpa [Statement.rowAfter, Executor.reaped, reapable] using stored
          · simpa [Statement.rowAfter, Executor.reaped, reapable] using stored
  | adoptExpiredExecutors adopter lease =>
      cases row with
      | none => exact stored
      | some old =>
          by_cases adoptable : old.Adoptable now adopter
          · simpa [Statement.rowAfter, Executor.adopted, adoptable]
              using stored
          · simpa [Statement.rowAfter, Executor.adopted, adoptable]
              using stored

/-! ## The invariant -/

namespace VersionSystem

/-- The manager's copy is the row's version. -/
def Agrees (system : VersionSystem) (key : ExecutorKey) : Prop :=
  ∀ tracked ∈ system.trackedVersion key,
    ∀ stored ∈ system.storedVersion key, tracked = stored

/-- The row has been written and the writer has not finished. -/
def UnderWay (system : VersionSystem) (key : ExecutorKey) : Prop :=
  (∃ version, (key, version) ∈ system.registering) ∨
    (∃ version, .connecting key version ∈ system.probes.threads) ∨
      ∃ version ttl, .touching key version ttl ∈ system.probes.threads

variable {before after : VersionSystem} {key : ExecutorKey}

theorem stores_iff {system : VersionSystem} {version : String} :
    system.stores key version = true ↔
      ∀ stored ∈ system.storedVersion key, version = stored := by
  rw [stores]
  cases system.storedVersion key with
  | none => simp
  | some stored => simp [eq_comm]

theorem tracks_iff {system : VersionSystem} {version : String} :
    system.tracks key version = true ↔
      ∀ tracked ∈ system.trackedVersion key, tracked = version := by
  rw [tracks]
  cases system.trackedVersion key <;> simp

theorem underWay_of_connectUnderWay {system : VersionSystem}
    (underWay : system.connectUnderWay key = true) :
    (∃ version, (key, version) ∈ system.registering) ∨
      ∃ version, .connecting key version ∈ system.probes.threads := by
  rw [connectUnderWay, Bool.or_eq_true, List.any_eq_true,
    ProbeSystem.connectPending_iff] at underWay
  rcases underWay with ⟨⟨other, version⟩, member, same⟩ | connecting
  · cases of_decide_eq_true same
    exact Or.inl ⟨version, member⟩
  · exact Or.inr connecting

theorem not_underWay {system : VersionSystem}
    (noConnect : system.connectUnderWay key = false)
    (noTouch : system.touchUnderWay key = false) :
    ¬system.UnderWay key := by
  rw [connectUnderWay, Bool.or_eq_false_iff] at noConnect
  rintro (⟨version, member⟩ | connecting | ⟨version, ttl, member⟩)
  · have absent := List.any_eq_false.mp noConnect.1 _ member
    exact absent (decide_eq_true rfl)
  · rw [← ProbeSystem.connectPending_iff, noConnect.2] at connecting
    cases connecting
  · have absent := List.any_eq_false.mp noTouch _ member
    exact absent (decide_eq_true rfl)

theorem Agrees.of_mem (agrees : before.Agrees key)
    (tracked : ∀ version ∈ after.trackedVersion key,
      version ∈ before.trackedVersion key)
    (stored : ∀ version ∈ after.storedVersion key,
      version ∈ before.storedVersion key) : after.Agrees key :=
  fun version isTracked row isStored =>
    agrees version (tracked version isTracked) row (stored row isStored)

theorem UnderWay.keep (underWay : before.UnderWay key)
    (registering : ∀ version, (key, version) ∈ before.registering →
      (key, version) ∈ after.registering)
    (connecting : ∀ version, .connecting key version ∈ before.probes.threads →
      .connecting key version ∈ after.probes.threads)
    (touching : ∀ version ttl,
      .touching key version ttl ∈ before.probes.threads →
        .touching key version ttl ∈ after.probes.threads) :
    after.UnderWay key := by
  rcases underWay with
    ⟨version, member⟩ | ⟨version, member⟩ | ⟨version, ttl, member⟩
  · exact Or.inl ⟨version, registering version member⟩
  · exact Or.inr (Or.inl ⟨version, connecting version member⟩)
  · exact Or.inr (Or.inr ⟨version, ttl, touching version ttl member⟩)

/-- A step of the manager which leaves the row's version, or the old one. -/
theorem agrees_of_lifecycle {label : LifecycleStep}
    (rows : after.rows = before.rows)
    (taken : before.probes.lifecycle.step label =
      some after.probes.lifecycle)
    (fresh : ∀ version ∈ nextVersion key (before.trackedVersion key) label,
      before.stores key version = true ∨
        (version ∈ before.trackedVersion key ∧ before.Agrees key)) :
    after.Agrees key := by
  intro tracked isTracked stored isStored
  have tracks : after.trackedVersion key =
      nextVersion key (before.trackedVersion key) label :=
    map_version_step taken key
  have row : stored ∈ before.storedVersion key := by
    rw [storedVersion, ← rows]
    exact isStored
  rw [tracks] at isTracked
  rcases fresh tracked isTracked with stores | ⟨old, agrees⟩
  · exact stores_iff.mp stores stored row
  · exact agrees tracked old stored row

/-- A statement which does not assign the executor's version. -/
theorem Agrees.of_statement (agrees : before.Agrees key)
    {statement : Statement}
    (rows : after.rows = statement.run before.now before.rows)
    (manager : after.manager = before.manager)
    (notUpserted : ∀ version owner lease,
      statement ≠ .upsertExecutor key version owner lease) :
    after.Agrees key := by
  refine agrees.of_mem ?_ ?_
  · intro version tracked
    rw [trackedVersion, manager] at tracked
    exact tracked
  · intro version stored
    rw [storedVersion, rows, lookup_run] at stored
    exact rowAfter_applicationVersion notUpserted stored

end VersionSystem

/-- The copies are in step, and so are those the expired timers have. -/
structure VersionInvariant (system : VersionSystem) : Prop where
  captured : Captured system.probes.lifecycle
  agrees : ∀ key, system.Agrees key ∨ system.UnderWay key
  expiries : ∀ expiry ∈ system.expiries, ∀ version ∈ expiry.storedVersion,
    expiry.watcher.version = version
  dispatches : system.DispatchesStored

theorem versionInvariant_initial (instanceID : Option UUID) (now : Time) :
    VersionInvariant (VersionSystem.initial instanceID now) where
  captured :=
    { timers :=
        timerInvariant_newManager.of_lookup_eq (fun _ => rfl) rfl rfl
      allocated := nofun
      version := nofun }
  agrees := fun _ => Or.inl nofun
  expiries := nofun
  dispatches := nofun

namespace VersionInvariant

variable {before after : VersionSystem} {key : ExecutorKey}

/-- A row is written and its writer has still to finish. -/
theorem upserts (invariant : VersionInvariant before)
    {version : String} {owner : Option UUID} {lease : Option Time}
    (rows : after.rows =
      (Statement.upsertExecutor key version owner lease).run before.now
        before.rows)
    (lifecycle : after.probes.lifecycle = before.probes.lifecycle)
    (expiries : after.expiries = before.expiries)
    (dispatches : after.dispatches = before.dispatches)
    (writer : after.UnderWay key)
    (others : ∀ other, before.UnderWay other → after.UnderWay other) :
    VersionInvariant after where
  captured := lifecycle ▸ invariant.captured
  agrees := by
    intro other
    by_cases same : other = key
    · exact Or.inr (same ▸ writer)
    · rcases invariant.agrees other with agrees | underWay
      · refine Or.inl (agrees.of_statement rows ?_ ?_)
        · rw [VersionSystem.manager, lifecycle, VersionSystem.manager]
        · rintro _ _ _ upserted
          exact same (Statement.upsertExecutor.inj upserted).1.symm
      · exact Or.inr (others other underWay)
  expiries := expiries ▸ invariant.expiries
  dispatches := by
    rw [VersionSystem.DispatchesStored, dispatches]
    exact invariant.dispatches

/-- A step of the manager, with whatever it ends. -/
theorem ofLifecycle (invariant : VersionInvariant before)
    {label : LifecycleStep}
    (taken : before.probes.lifecycle.step label =
      some after.probes.lifecycle)
    (rows : after.rows = before.rows)
    (fresh : ∀ key, ∀ version ∈
      nextVersion key (before.trackedVersion key) label,
        before.stores key version = true ∨
          version ∈ before.trackedVersion key)
    (others : ∀ key, before.UnderWay key → after.UnderWay key ∨
      ∀ version ∈ nextVersion key (before.trackedVersion key) label,
        before.stores key version = true)
    (expiries : ∀ expiry ∈ after.expiries,
      ∀ version ∈ expiry.storedVersion, expiry.watcher.version = version)
    (dispatches : after.dispatches = before.dispatches) :
    VersionInvariant after where
  captured := invariant.captured.step taken
  agrees := by
    intro key
    rcases invariant.agrees key with agrees | underWay
    · refine Or.inl (VersionSystem.agrees_of_lifecycle rows taken ?_)
      intro version next
      exact (fresh key version next).imp_right fun old => ⟨old, agrees⟩
    · rcases others key underWay with still | assigned
      · exact Or.inr still
      · refine Or.inl (VersionSystem.agrees_of_lifecycle rows taken ?_)
        exact fun version next => Or.inl (assigned version next)
  expiries := expiries
  dispatches := by
    rw [VersionSystem.DispatchesStored, dispatches]
    exact invariant.dispatches

/-- The manager is told the version the row has. -/
theorem ofAssigning (invariant : VersionInvariant before)
    {label : LifecycleStep} {version : String}
    (assigns : ∀ other tracked, nextVersion other tracked label =
      if key = other then some version else tracked)
    (taken : before.probes.lifecycle.step label =
      some after.probes.lifecycle)
    (stores : before.stores key version = true)
    (rows : after.rows = before.rows)
    (others : ∀ other, other ≠ key → before.UnderWay other →
      after.UnderWay other)
    (expiries : after.expiries = before.expiries)
    (dispatches : after.dispatches = before.dispatches) :
    VersionInvariant after := by
  have assigned : ∀ next ∈ nextVersion key (before.trackedVersion key) label,
      before.stores key next = true := by
    intro next member
    rw [assigns, if_pos rfl] at member
    cases member
    exact stores
  refine invariant.ofLifecycle taken rows ?_ ?_
    (expiries ▸ invariant.expiries) dispatches
  · intro other next member
    by_cases same : key = other
    · subst same
      exact Or.inl (assigned next member)
    · rw [assigns, if_neg same] at member
      exact Or.inr member
  · intro other underWay
    by_cases same : key = other
    · subst same
      exact Or.inr assigned
    · exact Or.inl (others other (Ne.symm same) underWay)

/-- A disconnect leaves the version of a tracked executor. -/
theorem ofDisconnecting (invariant : VersionInvariant before)
    {label : LifecycleStep}
    (disconnects : ∀ other tracked, nextVersion other tracked label =
      if key = other then some (tracked.getD "") else tracked)
    (taken : before.probes.lifecycle.step label =
      some after.probes.lifecycle)
    (allowed : before.disconnectsTracked key = true)
    (rows : after.rows = before.rows)
    (others : ∀ other, before.UnderWay other → after.UnderWay other)
    (expiries : after.expiries = before.expiries)
    (dispatches : after.dispatches = before.dispatches) :
    VersionInvariant after := by
  refine invariant.ofLifecycle taken rows ?_
    (fun other underWay => Or.inl (others other underWay))
    (expiries ▸ invariant.expiries) dispatches
  intro other next member
  rw [disconnects] at member
  split_ifs at member with same
  · subst same
    rw [VersionSystem.disconnectsTracked, Bool.or_eq_true] at allowed
    cases tracked : before.trackedVersion key with
    | some version =>
        rw [tracked] at member
        exact Or.inr member
    | none =>
        rw [tracked] at allowed member
        cases member
        exact Or.inl (allowed.resolve_left nofun)
  · exact Or.inr member

/-- What the manager tracks is kept or forgotten. -/
theorem ofKeeping (invariant : VersionInvariant before)
    {label : LifecycleStep}
    (keeps : ∀ other tracked, ∀ version ∈ nextVersion other tracked label,
      version ∈ tracked)
    (taken : before.probes.lifecycle.step label =
      some after.probes.lifecycle)
    (rows : after.rows = before.rows)
    (others : ∀ other, before.UnderWay other → after.UnderWay other)
    (expiries : ∀ expiry ∈ after.expiries,
      ∀ version ∈ expiry.storedVersion, expiry.watcher.version = version)
    (dispatches : after.dispatches = before.dispatches) :
    VersionInvariant after :=
  invariant.ofLifecycle taken rows
    (fun other version next => Or.inr (keeps other _ version next))
    (fun other underWay => Or.inl (others other underWay)) expiries dispatches

/-- A step of the manager alone which assigns no version. -/
theorem ofUnassigned (invariant : VersionInvariant before)
    {label : LifecycleStep} {lifecycle : Lifecycle}
    (taken : before.probes.lifecycle.step label = some lifecycle)
    (keeps : ∀ other tracked, ∀ version ∈ nextVersion other tracked label,
      version ∈ tracked) :
    VersionInvariant
      { before with probes := { before.probes with lifecycle := lifecycle } } :=
  invariant.ofKeeping keeps taken rfl (fun _ underWay => underWay)
    invariant.expiries rfl

/-- The expired executor's row has the version its watcher has captured. -/
theorem expire (invariant : VersionInvariant before) {watcher : Watcher}
    (waits : watcher ∈ before.probes.lifecycle.watchers)
    (allowed : before.inStep (.timerFires watcher) = true) :
    ∀ expiry ∈ before.expire watcher, ∀ version ∈ expiry.storedVersion,
      expiry.watcher.version = version := by
  rw [VersionSystem.inStep, Bool.and_eq_true, Bool.not_eq_true',
    Bool.not_eq_true'] at allowed
  have settled := (invariant.agrees watcher.key).resolve_right
    (VersionSystem.not_underWay allowed.1 allowed.2)
  rw [VersionSystem.expire]
  rcases before.manager.watchGracePeriod_cases watcher with
    unchanged | ⟨exec, present, recorded, -, expired⟩
  · rw [unchanged]
    exact nofun
  · rw [expired]
    intro expiry member version stored
    cases List.mem_singleton.mp member
    have captured : exec.version = watcher.version :=
      invariant.captured.version watcher waits exec present recorded
    have tracked : watcher.version ∈ before.trackedVersion watcher.key := by
      rw [VersionSystem.trackedVersion, present, ← captured]
      rfl
    exact settled watcher.version tracked version stored

/-- A statement of any other origin. -/
theorem statement (invariant : VersionInvariant before)
    {statement : Statement}
    (allowed : before.inStep (.statement statement) = true) :
    VersionInvariant (before.execute statement) where
  captured := invariant.captured
  agrees := by
    intro key
    by_cases upserted : ∃ version owner lease,
        statement = .upsertExecutor key version owner lease
    · obtain ⟨version, owner, lease, rfl⟩ := upserted
      left
      intro tracked isTracked stored isStored
      rw [VersionSystem.storedVersion, VersionSystem.execute, lookup_run,
        Statement.rowAfter, if_pos rfl] at isStored
      cases isStored
      exact VersionSystem.tracks_iff.mp allowed tracked isTracked
    · refine (invariant.agrees key).imp_left fun agrees => ?_
      refine agrees.of_statement rfl rfl ?_
      intro version owner lease same
      exact upserted ⟨version, owner, lease, same⟩
  expiries := invariant.expiries
  dispatches := invariant.dispatches

/-- `watchGracePeriod` goes on. -/
theorem resumeExpiry (invariant : VersionInvariant before) {expiry : Expiry}
    (member : expiry ∈ before.expiries) (reply : Reply) :
    VersionInvariant (before.resumeExpiry expiry reply) := by
  have rest : ∀ other ∈ before.expiries.erase expiry,
      ∀ version ∈ other.storedVersion, other.watcher.version = version :=
    fun other remains =>
      invariant.expiries other (List.mem_of_mem_erase remains)
  rw [VersionSystem.resumeExpiry]
  split
  · refine ⟨invariant.captured, invariant.agrees, ?_, invariant.dispatches⟩
    intro other isExpiry
    rcases List.mem_cons.mp isExpiry with rfl | remains
    · exact invariant.expiries expiry member
    · exact rest other remains
  · refine ⟨invariant.captured.evictExecutor rfl, ?_, rest,
      invariant.dispatches⟩
    intro key
    rcases invariant.agrees key with agrees | underWay
    · refine Or.inl (agrees.of_mem ?_ fun _ stored => stored)
      intro version tracked
      rw [VersionSystem.trackedVersion, VersionSystem.manager,
        Manager.lookup_evictExecutor] at tracked
      split_ifs at tracked
      · cases tracked
      · exact tracked
    · exact Or.inr underWay
  · refine ⟨invariant.captured, ?_, rest, ?_⟩
    · cases applied : reply.applied with
      | false => exact invariant.agrees
      | true =>
          have executed : VersionInvariant
              (before.execute (.setExecutorDead expiry.watcher.key)) :=
            invariant.statement rfl
          exact executed.agrees
    · intro dispatch dispatched
      rcases List.mem_append.mp dispatched with new | earlier
      · split_ifs at new
        · cases List.mem_singleton.mp new
          exact invariant.expiries expiry member
        · cases new
      · exact invariant.dispatches dispatch earlier

/-- A heartbeat which connects nothing has told the registry. -/
theorem touches (invariant : VersionInvariant before) {version : String}
    {ttl : Duration}
    (allowed : before.inStep (.probe (.touches key version ttl)) = true) :
    VersionInvariant
      { before with probes := before.probes.touch key version ttl } where
  captured := invariant.captured
  agrees := by
    intro other
    have connecting : ∀ old, .connecting other old ∈ before.probes.threads →
        .connecting other old ∈
          (before.probes.touch key version ttl).threads :=
      fun _ member => ProbeSystem.mem_replaceThread _ member nofun
    rcases invariant.agrees other with agrees | underWay
    · exact Or.inl agrees
    · by_cases same : other = key
      · subst same
        rw [VersionSystem.inStep, Bool.or_eq_true, Bool.or_eq_true,
          Bool.and_eq_true] at allowed
        rcases allowed with (first | connects) | ⟨stores, tracks⟩
        · right
          right
          left
          refine ⟨version, ?_⟩
          show _ ∈ (if other ∈ before.probes.entries then [] else _) ++ _
          rw [if_neg (of_decide_eq_true first)]
          exact List.mem_cons_self
        · rcases VersionSystem.underWay_of_connectUnderWay connects with
            ⟨old, member⟩ | ⟨old, member⟩
          · exact Or.inr (Or.inl ⟨old, member⟩)
          · exact Or.inr (Or.inr (Or.inl ⟨old, connecting old member⟩))
        · left
          intro tracked isTracked stored isStored
          exact (VersionSystem.tracks_iff.mp tracks tracked isTracked).trans
            (VersionSystem.stores_iff.mp stores stored isStored)
      · refine Or.inr (underWay.keep (fun _ member => member) connecting ?_)
        intro old oldTTL member
        refine ProbeSystem.mem_replaceThread _ member ?_
        intro sameThread
        exact same (ProbeThread.touching.inj sameThread).1
  expiries := invariant.expiries
  dispatches := invariant.dispatches

/-- The registry or the threads change and nothing of a row under way is lost. -/
theorem ofProbes (invariant : VersionInvariant before) {probes : ProbeSystem}
    (lifecycle : probes.lifecycle = before.probes.lifecycle)
    (connecting : ∀ key version,
      .connecting key version ∈ before.probes.threads →
        .connecting key version ∈ probes.threads)
    (touching : ∀ key version ttl,
      .touching key version ttl ∈ before.probes.threads →
        .touching key version ttl ∈ probes.threads) :
    VersionInvariant { before with probes := probes } where
  captured := lifecycle ▸ invariant.captured
  agrees := by
    intro key
    rcases invariant.agrees key with agrees | underWay
    · refine Or.inl (agrees.of_mem ?_ fun _ stored => stored)
      intro version tracked
      rw [VersionSystem.trackedVersion, VersionSystem.manager,
        lifecycle] at tracked
      exact tracked
    · exact Or.inr (underWay.keep (fun _ member => member) (connecting key)
        (touching key))
  expiries := invariant.expiries
  dispatches := invariant.dispatches

/-- A thread which neither connects nor touches is replaced. -/
theorem underWay_replaceThread {thread : ProbeThread} {next : List ProbeThread}
    {probes : ProbeSystem}
    (threads : probes.threads =
      (before.probes.replaceThread thread next).threads)
    (notConnecting : ∀ version, .connecting key version ≠ thread)
    (notTouching : ∀ version ttl, .touching key version ttl ≠ thread)
    (underWay : before.UnderWay key) :
    VersionSystem.UnderWay { before with probes := probes } key := by
  refine underWay.keep (fun _ member => member) ?_ ?_
  · intro version member
    show _ ∈ probes.threads
    rw [threads]
    exact ProbeSystem.mem_replaceThread _ member (notConnecting version)
  · intro version ttl member
    show _ ∈ probes.threads
    rw [threads]
    exact ProbeSystem.mem_replaceThread _ member (notTouching version ttl)

/-- The steps of the manager which are no probe's and assign no version. -/
theorem lifecycleProbe (invariant : VersionInvariant before)
    {handler : ProbeHandler} {label : LifecycleStep}
    (elsewhere : ProbeLabel.ofVersions (.lifecycle label) = false)
    (allowed : before.inStep (.probe (.lifecycle label)) = true)
    {probes : ProbeSystem}
    (taken : before.probes.step handler (.lifecycle label) = some probes) :
    VersionInvariant { before with probes := probes } := by
  rw [ProbeSystem.step] at taken
  split_ifs at taken with notProbe
  rcases Option.map_eq_some_iff.mp taken with ⟨lifecycle, steps, rfl⟩
  cases label with
  | onConnect key version => cases elsewhere
  | onProbeConnect key version => exact (notProbe rfl).elim
  | onProbeDisconnect key timeout => exact (notProbe rfl).elim
  | adoptDisconnected key version timeout => cases elsewhere
  | timerFires watcher => cases elsewhere
  | onDisconnect key timeout =>
      exact invariant.ofDisconnecting (fun _ _ => rfl) steps allowed rfl
        (fun _ underWay => underWay) rfl rfl
  | clockAdvances elapsed =>
      exact invariant.ofUnassigned steps fun _ _ _ member => member
  | cancelObserved watcher =>
      exact invariant.ofUnassigned steps fun _ _ _ member => member
  | recoveryFailed key =>
      exact invariant.ofUnassigned steps fun _ _ _ member => member
  | evictExecutor key =>
      exact invariant.ofUnassigned steps fun _ _ _ => mem_of_mem_ite_none
  | deleteExecutor key =>
      exact invariant.ofUnassigned steps fun _ _ _ => mem_of_mem_ite_none

/-- A heartbeat connects the executor at the version the row has. -/
theorem connects (invariant : VersionInvariant before) {version : String}
    {lifecycle : Lifecycle}
    (taken : before.probes.lifecycle.step (.onProbeConnect key version) =
      some lifecycle)
    (stores : before.stores key version = true) :
    VersionInvariant
      { before with
        probes :=
          { before.probes.replaceThread (.connecting key version) [] with
            lifecycle := lifecycle } } := by
  refine invariant.ofAssigning (fun _ _ => rfl) taken stores rfl ?_ rfl rfl
  intro other different underWay
  refine underWay_replaceThread rfl ?_ (by rintro _ _ ⟨⟩) underWay
  intro old sameThread
  exact different (ProbeThread.connecting.inj sameThread).1

/-- A stop disconnects a tracked executor. -/
theorem stops (invariant : VersionInvariant before) {timeout : Duration}
    {lifecycle : Lifecycle}
    (taken : before.probes.lifecycle.step (.onProbeDisconnect key timeout) =
      some lifecycle)
    (allowed : before.disconnectsTracked key = true) :
    VersionInvariant
      { before with
        probes :=
          { before.probes.replaceThread (.stopping key) [.removing key] with
            lifecycle := lifecycle
            lastBeat := before.probes.lastBeat.erase key } } := by
  refine invariant.ofDisconnecting (fun _ _ => rfl) taken allowed rfl ?_ rfl rfl
  exact fun _ => underWay_replaceThread rfl (by rintro _ ⟨⟩) (by rintro _ _ ⟨⟩)

/-- A sweep's disconnect is delivered for a tracked executor. -/
theorem delivers (invariant : VersionInvariant before) {handler : ProbeHandler}
    {timeout : Duration}
    (allowed : before.inStep (.probe (.delivers timeout)) = true)
    {probes : ProbeSystem}
    (taken : before.probes.step handler (.delivers timeout) = some probes) :
    VersionInvariant { before with probes := probes } := by
  rw [ProbeSystem.step] at taken
  cases swept : before.probes.swept with
  | nil =>
      rw [swept] at taken
      cases taken
  | cons key rest =>
      rw [swept] at taken
      rcases Option.map_eq_some_iff.mp taken with ⟨lifecycle, steps, rfl⟩
      rw [VersionSystem.inStep, swept] at allowed
      exact invariant.ofDisconnecting (fun _ _ => rfl) steps allowed rfl
        (fun _ underWay => underWay) rfl rfl

/-- The steps of the probe system. -/
theorem probe (invariant : VersionInvariant before) {handler : ProbeHandler}
    {label : ProbeLabel} (elsewhere : ProbeLabel.ofVersions label = false)
    (allowed : before.inStep (.probe label) = true) {probes : ProbeSystem}
    (taken : before.probes.step handler label = some probes) :
    VersionInvariant { before with probes := probes } := by
  cases label with
  | lifecycle label => exact invariant.lifecycleProbe elsewhere allowed taken
  | request store req =>
      rw [ProbeSystem.step] at taken
      split at taken
      · cases taken
        exact invariant
      · cases taken
        exact invariant.ofProbes rfl (fun _ _ => List.mem_cons_of_mem _)
          (fun _ _ _ => List.mem_cons_of_mem _)
  | recorded key version ttl stored =>
      cases elsewhere
      rw [ProbeSystem.step] at taken
      split_ifs at taken with pending stored
      · cases stored
      cases taken
      exact invariant.ofProbes rfl
        (fun _ _ member => ProbeSystem.mem_replaceThread _ member (by rintro ⟨⟩))
        (fun _ _ _ member => ProbeSystem.mem_replaceThread _ member (by rintro ⟨⟩))
  | touches key version ttl =>
      rw [ProbeSystem.step] at taken
      split_ifs at taken
      cases taken
      exact invariant.touches allowed
  | connects key version =>
      rw [ProbeSystem.step] at taken
      split_ifs at taken
      rcases Option.map_eq_some_iff.mp taken with ⟨lifecycle, steps, rfl⟩
      exact invariant.connects steps allowed
  | stops key timeout =>
      rw [ProbeSystem.step] at taken
      split_ifs at taken
      rcases Option.map_eq_some_iff.mp taken with ⟨lifecycle, steps, rfl⟩
      exact invariant.stops steps allowed
  | removes key =>
      rw [ProbeSystem.step] at taken
      split_ifs at taken
      cases taken
      exact invariant.ofProbes rfl
        (fun _ _ member => ProbeSystem.mem_replaceThread _ member (by rintro ⟨⟩))
        (fun _ _ _ member => ProbeSystem.mem_replaceThread _ member (by rintro ⟨⟩))
  | sweeps now order =>
      rw [ProbeSystem.step] at taken
      split_ifs at taken
      cases taken
      exact invariant.ofProbes rfl (fun _ _ member => member)
        (fun _ _ _ member => member)
  | delivers timeout => exact invariant.delivers allowed taken

/-- Every step which keeps the copies in step. -/
theorem step (invariant : VersionInvariant before) {handler : ProbeHandler}
    {label : VersionLabel} (allowed : before.inStep label = true)
    (taken : before.step handler label = some after) :
    VersionInvariant after := by
  cases label with
  | registers key version owner lease =>
      cases taken
      refine invariant.upserts rfl rfl rfl rfl
        (Or.inl ⟨version, List.mem_cons_self⟩) ?_
      intro other underWay
      exact underWay.keep (fun _ => List.mem_cons_of_mem _)
        (fun _ member => member) (fun _ _ member => member)
  | onConnect key version =>
      rw [VersionSystem.step] at taken
      split_ifs at taken
      obtain ⟨lifecycle, steps, rfl⟩ := Option.map_eq_some_iff.mp taken
      refine invariant.ofAssigning (fun _ _ => rfl) steps allowed rfl ?_
        rfl rfl
      intro other different underWay
      refine underWay.keep ?_ (fun _ member => member)
        (fun _ _ member => member)
      intro old member
      refine (List.mem_erase_of_ne ?_).mpr member
      intro samePair
      exact different (Prod.ext_iff.mp samePair).1
  | recorded key version ttl owner lease =>
      obtain ⟨probes, steps, rfl⟩ := Option.map_eq_some_iff.mp taken
      by_cases pending : .recording key version ttl ∈ before.probes.threads
      swap
      · rw [ProbeSystem.step, if_neg pending] at steps
        cases steps
      rw [ProbeSystem.step, if_pos pending] at steps
      cases steps
      refine invariant.upserts rfl rfl rfl rfl
        (Or.inr (Or.inr ⟨version, ttl, List.mem_cons_self⟩)) ?_
      intro other underWay
      exact underWay.keep (fun _ member => member)
        (fun _ member => ProbeSystem.mem_replaceThread _ member (by rintro ⟨⟩))
        (fun _ _ member => ProbeSystem.mem_replaceThread _ member (by rintro ⟨⟩))
  | adopts self lease =>
      cases taken
      have executed :
          VersionInvariant (before.execute (.adoptExpiredExecutors self lease)) :=
        invariant.statement rfl
      exact ⟨executed.captured, executed.agrees, executed.expiries,
        executed.dispatches⟩
  | adoptDisconnected key version timeout =>
      rw [VersionSystem.step] at taken
      split_ifs at taken
      obtain ⟨lifecycle, steps, rfl⟩ := Option.map_eq_some_iff.mp taken
      exact invariant.ofAssigning (fun _ _ => rfl) steps allowed rfl
        (fun _ _ underWay => underWay) rfl rfl
  | timerFires watcher =>
      obtain ⟨lifecycle, steps, rfl⟩ := Option.map_eq_some_iff.mp taken
      have waits : watcher ∈ before.probes.lifecycle.watchers := by
        rw [Lifecycle.step] at steps
        split_ifs at steps with waiting
        exact waiting.1
      refine invariant.ofKeeping ?_ steps rfl (fun _ underWay => underWay)
        ?_ rfl
      · exact fun _ _ _ member => member
      · intro expiry member
        rcases List.mem_append.mp member with new | earlier
        · exact invariant.expire waits allowed expiry new
        · exact invariant.expiries expiry earlier
  | resumes expiry reply =>
      rw [VersionSystem.step] at taken
      split_ifs at taken with member
      cases taken
      exact invariant.resumeExpiry member reply
  | statement statement =>
      cases taken
      exact invariant.statement allowed
  | probe label =>
      rw [VersionSystem.step] at taken
      split_ifs at taken with elsewhere
      obtain ⟨probes, steps, rfl⟩ := Option.map_eq_some_iff.mp taken
      exact invariant.probe (by simpa using elsewhere) allowed steps

end VersionInvariant

/--
In every run whose steps keep the manager's copies in step with the rows, every
recovery a grace timer dispatches is passed the version the executor's row has
when the timer expires.
-/
theorem dispatchesStored_of_inStep (handler : ProbeHandler)
    (instanceID : Option UUID) (start : Time) (labels : List VersionLabel)
    (reached : VersionSystem)
    (guarded : GuardedRun (VersionSystem.step handler)
      (fun system label => system.inStep label = true)
      (VersionSystem.initial instanceID start) labels reached) :
    reached.DispatchesStored := by
  have invariant := guarded.invariant VersionInvariant
    (fun allowed taken before => before.step allowed taken)
    (versionInvariant_initial instanceID start)
  exact invariant.dispatches

/-- A heartbeat with a version, up to the registry. -/
def beats (version : String) : List VersionLabel :=
  [.probe (.request probeStore { heartbeat with applicationVersion := version }),
    .recorded probedKey version defaultProbeTTL none none,
    .probe (.touches probedKey version defaultProbeTTL)]

/-- The probe has been silent: its entry is swept and the executor disconnected. -/
def falls (now : Time) : List VersionLabel :=
  [.probe (.lifecycle (.clockAdvances 31000000000)),
    .probe (.sweeps now [probedKey]),
    .probe (.delivers (60 * second))]

/-- The grace period ends and the recovery is dispatched. -/
def dies (watcher : Watcher) (stored : Option String) : List VersionLabel :=
  [.probe (.lifecycle (.clockAdvances 60000000000)),
    .timerFires watcher,
    .resumes ⟨watcher, stored, .lookup⟩ .ok,
    .resumes ⟨watcher, stored, .markDead⟩ .ok]

/-- The probe falls silent and returns with another version. -/
def returnsUpgraded : List VersionLabel :=
  beats "v1" ++ [.probe (.connects probedKey "v1")] ++ beats "v1" ++
    falls (31 * second) ++
    beats "v2" ++ [.probe (.connects probedKey "v2")] ++
    falls (62 * second) ++
    dies ⟨probedKey, "v2", 1, 1, 122 * second⟩ (some "v2")

theorem returnsUpgraded_dispatches :
    ∃ reached,
      GuardedRun (VersionSystem.step probeHandler)
          (fun system label => system.inStep label = true)
          (VersionSystem.initial none 0) returnsUpgraded reached ∧
        reached.dispatches = [⟨probedKey, "v2", some "v2"⟩] ∧
          reached.DispatchesStored := by
  have guarded : GuardedRun (VersionSystem.step probeHandler)
      (fun system label => system.inStep label = true)
      (VersionSystem.initial none 0) returnsUpgraded _ :=
    guardedRun_of_runGuarded rfl
  exact ⟨_, guarded, rfl,
    dispatchesStored_of_inStep probeHandler none 0 returnsUpgraded _ guarded⟩

/-- The version changes between two heartbeats of a probe which is never silent. -/
def upgradesBetweenBeats : List VersionLabel :=
  beats "v1" ++ [.probe (.connects probedKey "v1")] ++ beats "v2" ++
    falls (31 * second) ++
    dies ⟨probedKey, "v1", 0, 0, 91 * second⟩ (some "v2")

theorem upgradesBetweenBeats_dispatches_stale :
    ¬∀ handler instanceID start labels reached,
      run (VersionSystem.step handler)
          (VersionSystem.initial instanceID start) labels = some reached →
        reached.DispatchesStored := by
  intro always
  have stale := always probeHandler none 0 upgradesBetweenBeats _ rfl
    ⟨probedKey, "v1", some "v2"⟩ List.mem_cons_self "v2" rfl
  exact absurd stale (by decide)

end DbosRelay.Cluster
