import DbosRelay.Cluster.Steps

/-!
# The grace period

A disconnected executor has `executorTimeoutSecs` of its application to come
back before it is declared dead.  The timers of the lifecycle managers count
that timeout, but the reaper of `adoptionLoop` counts the lease duration, and
whatever either of them marks is recovered by the next sweep.  The period is
kept when the lease covers it and nothing of an earlier disconnect is still
under way.
-/

namespace DbosRelay.Cluster

open DbosRelay.Basic
open DbosRelay.Hub
open DbosRelay.Library.Runs
open DbosRelay.Library.Tables
open DbosRelay.Liveness
open DbosRelay.Store

/-! ## The property -/

/--
The executor disconnects: an instance removes its connection from the registry,
or stops while it has one.
-/
def Deployment.disconnects (deployment : Deployment) (key : ExecutorKey) :
    Activity → Bool
  | .exec self (.teardown conn .unregister) _ =>
      conn.key = key && deployment.registered self key = some conn
  | .crash self => (deployment.registered self key).isSome
  | _ => false

/--
After a disconnect of `key` and before its next one, no step within the grace
period gives `key` the status dead or dispatches its recovery.
-/
def RespectsGracePeriod (config : Config) (key : ExecutorKey)
    (grace : Duration) (start : Deployment) (activities : List Activity) :
    Prop :=
  ∀ earlier disconnect between activity later
      atDisconnect disconnected before after,
    activities = earlier ++ disconnect :: (between ++ activity :: later) →
      run (Deployment.step config) start earlier = some atDisconnect →
        atDisconnect.disconnects key disconnect = true →
          atDisconnect.step config disconnect = some disconnected →
            GuardedRun (Deployment.step config)
                (fun state label => state.disconnects key label = false)
                disconnected between before →
              before.step config activity = some after →
                before.now < atDisconnect.now + grace →
                  (after.HasStatus key .dead → before.HasStatus key .dead) ∧
                    ∀ self, activity.dispatches self key = false

/-! ## What is left of earlier disconnects -/

/--
The executor is stored as connected or not at all, no manager has a timer for
it, and no goroutine pursues it.
-/
def Deployment.ClearOf (deployment : Deployment) (key : ExecutorKey) : Prop :=
  (∀ row ∈ deployment.row key, row.status = .connected) ∧
    (∀ entry ∈ deployment.instances.entries,
      ∀ exec ∈ deployment.tracked entry.1 key, exec.timer = none) ∧
    ¬ deployment.SomeThread fun _ thread => thread.pursues key = true

instance (deployment : Deployment) (key : ExecutorKey) :
    Decidable (deployment.ClearOf key) :=
  inferInstanceAs
    (Decidable ((∀ row ∈ deployment.row key, _ = _) ∧
      (∀ entry ∈ deployment.instances.entries,
        ∀ exec ∈ deployment.tracked entry.1 key, _ = none) ∧
      ¬ deployment.SomeThread fun _ thread => thread.pursues key = true))

/-- A timer for `key` is armed only with a timeout of at least `grace`. -/
def Activity.resolvesTimeout (key : ExecutorKey) (grace : Duration) :
    Activity → Bool
  | .exec _ (.teardown conn .onDisconnect) reply =>
      conn.key ≠ key || reply.succeeded || grace ≤ defaultExecutorTimeout
  | .exec _ (.adoption _ (.deliver ((target, _) :: _))) reply =>
      target ≠ key || reply.succeeded || grace ≤ defaultExecutorTimeout
  | _ => true

/--
The executor disconnects only while nothing of an earlier disconnect is left,
and the lookups of its application's timeout succeed (or the default is no
shorter).
-/
def graceFenced (key : ExecutorKey) (grace : Duration) (before : Deployment)
    (activity : Activity) : Bool :=
  (!before.disconnects key activity || before.ClearOf key) &&
    activity.resolvesTimeout key grace

/-- The setting fits a duration, and a reaper does not undercut it. -/
structure Config.Covers (config : Config) (appID : UUID) (secs : Int) :
    Prop where
  setting : config.executorTimeoutSecs appID = some secs
  positive : 0 < secs
  fits : secs * second ≤ maxInt64
  covered : config.standalone = true ∨ secs * second ≤ config.leaseDuration

/-! ## The reaper -/

/-- Reapers run only where adoption does, with cutoffs a lease duration old. -/
structure ReapsLate (config : Config) (deployment : Deployment) : Prop where
  wellFormed : deployment.WellFormed
  periodic : ∀ {self phase},
    .adoption false phase ∈ deployment.threadsOf self →
      config.standalone = false
  cutoff : ∀ {self startup graceCutoff},
    .adoption startup (.reap graceCutoff) ∈ deployment.threadsOf self →
      config.standalone = false ∧
        graceCutoff + config.leaseDuration ≤ deployment.now

theorem reapsLate_empty (config : Config) (now : Time) :
    ReapsLate config (Deployment.empty now) where
  wellFormed := Deployment.wellFormed_empty now
  periodic := by
    intro self phase member
    simp [Deployment.threadsOf, Deployment.empty] at member
  cutoff := by
    intro self startup graceCutoff member
    simp [Deployment.threadsOf, Deployment.empty] at member

section GracePeriod

variable {config : Config} {before after : Deployment} {activity : Activity}
variable {key : ExecutorKey} {grace : Duration} {disconnectedAt : Time}

theorem ReapsLate.step
    (late : ReapsLate config before)
    (takes : Takes config before activity after) :
    ReapsLate config after where
  wellFormed := late.wellFormed.step takes
  periodic := by
    intro self phase member
    cases takes.thread member with
    | kept activity running => exact late.periodic running
    | started same => cases same
    | triggered trigger relay present starts =>
        cases starts with
        | adoptionTicks shared => exact shared
    | spawned thread reply relay present running follows =>
        cases follows with
        | adopted => exact late.periodic running
        | delivered => exact late.periodic running
        | reaping => exact late.periodic running
  cutoff := by
    intro self startup graceCutoff member
    cases takes.thread member with
    | kept activity running =>
        rcases late.cutoff running with ⟨shared, old⟩
        exact ⟨shared, old.trans takes.now_le⟩
    | started same => cases same
    | triggered trigger relay present starts => cases starts
    | spawned thread reply relay present running follows =>
        cases follows with
        | reaping =>
            refine ⟨late.periodic running, ?_⟩
            rw [Int.sub_add_cancel]
            exact takes.now_le

/-! ## The invariant after a disconnect -/

/--
What holds of an executor which disconnected at `disconnectedAt`: whatever may
declare it dead does so no sooner than `grace` later.
-/
structure GraceSafe (config : Config) (key : ExecutorKey) (grace : Duration)
    (disconnectedAt : Time) (deployment : Deployment) : Prop where
  reapsLate : ReapsLate config deployment
  elapsed : disconnectedAt ≤ deployment.now
  dead : deployment.HasStatus key .dead →
    disconnectedAt + grace ≤ deployment.now
  disconnected : ∀ row ∈ deployment.row key, row.status = .disconnected →
    ∀ time ∈ row.disconnectedAt, disconnectedAt ≤ time
  recorded : ∀ {self watcher exec},
    .watcher watcher ∈ deployment.threadsOf self → watcher.key = key →
      deployment.tracked self key = some exec →
        exec.timer = some watcher.timer →
          disconnectedAt + grace ≤ watcher.fireAt
  pursued : ∀ {self thread}, thread ∈ deployment.threadsOf self →
    thread.pursues key = true → disconnectedAt + grace ≤ deployment.now

/-- Where nothing of an earlier disconnect is left, the period starts now. -/
theorem ReapsLate.graceSafe
    (late : ReapsLate config before) (clear : before.ClearOf key) :
    GraceSafe config key grace before.now before where
  reapsLate := late
  elapsed := le_rfl
  dead := by
    rintro ⟨row, found, isDead⟩
    rw [clear.1 row found] at isDead
    cases isDead
  disconnected := by
    intro row found isDisconnected
    rw [clear.1 row found] at isDisconnected
    cases isDisconnected
  recorded := by
    intro self watcher exec member sameKey found timer
    have entry : ∃ relay, before.instances.lookup self = some relay := by
      rw [Deployment.tracked] at found
      rcases Option.bind_eq_some_iff.mp found with ⟨relay, present, -⟩
      exact ⟨relay, present⟩
    rcases entry with ⟨relay, present⟩
    have unarmed :=
      clear.2.1 ⟨self, relay⟩ (mem_entries_iff.mpr present) exec found
    rw [unarmed] at timer
    cases timer
  pursued := by
    intro self thread member pursues
    exact (clear.2.2 (Deployment.someThread_iff.mpr
      ⟨self, thread, member, pursues⟩)).elim

/-- A step declares the executor dead only after the period. -/
theorem GraceSafe.dead_step {secs : Int}
    (safe : GraceSafe config key (secs * second) disconnectedAt before)
    (covers : config.Covers key.appID secs)
    (takes : Takes config before activity after)
    (isDead : after.HasStatus key .dead) :
    disconnectedAt + secs * second ≤ before.now := by
  rcases takes.hasStatus_dead isDead with
    wasDead | ⟨self, version, reply, -, member⟩ |
      ⟨self, startup, graceCutoff, old, member, present, reapable⟩
  · exact safe.dead wasDead
  · exact safe.pursued member (by simp [Thread.pursues])
  · rcases reapable with ⟨isDisconnected, time, stored, overdue⟩
    have since := safe.disconnected old present isDisconnected time stored
    rcases safe.reapsLate.cutoff member with ⟨shared, late⟩
    rcases covers.covered with standalone | covered
    · rw [shared] at standalone
      cases standalone
    · calc disconnectedAt + secs * second
          ≤ time + config.leaseDuration := Int.add_le_add since covered
        _ ≤ graceCutoff + config.leaseDuration :=
          Int.add_le_add_right overdue.le _
        _ ≤ before.now := late

theorem GraceSafe.disconnected_step
    (safe : GraceSafe config key grace disconnectedAt before)
    (takes : Takes config before activity after) :
    ∀ row ∈ after.row key, row.status = .disconnected →
      ∀ time ∈ row.disconnectedAt, disconnectedAt ≤ time := by
  intro row found status time stored
  obtain ⟨result, rowEq, change⟩ := takes.exists_rowStep found
  cases change with
  | unchanged => exact safe.disconnected row rowEq.symm status time stored
  | upserted =>
      cases rowEq
      cases status
  | touched self conn renewalExpires reply old sameKey member present =>
      cases rowEq
      exact safe.disconnected old present status time stored
  | disconnected =>
      cases rowEq
      cases stored
      exact safe.elapsed
  | markedDead =>
      cases rowEq
      cases status
  | deleted => cases rowEq
  | reaped =>
      cases rowEq
      cases status
  | adopted self startup leaseExp reply old member applied present =>
      cases rowEq
      exact safe.disconnected old present status time stored

/-- A lookup which works, or a default which is long enough. -/
theorem Config.Covers.le_timeoutFor {secs : Int} {reply : Reply}
    (covers : config.Covers key.appID secs)
    (resolves : reply.succeeded = true ∨
      secs * second ≤ defaultExecutorTimeout) :
    secs * second ≤ timeoutFor config reply key.appID := by
  have exact : int64 (secs * second) = secs * second := by
    apply int64_eq_self
    · have nonneg : 0 ≤ secs * second :=
        Int.mul_nonneg covers.positive.le (by decide)
      exact le_trans (by decide) nonneg
    · exact covers.fits
  rw [timeoutFor, covers.setting]
  by_cases succeeded : reply.succeeded = true
  · rw [if_pos succeeded, resolveTimeout,
      if_neg (not_le.mpr covers.positive), exact]
  · rw [if_neg succeeded]
    exact resolves.resolve_left succeeded

/-- A timer which is armed after the disconnect fires after the period. -/
theorem GraceSafe.fireAt_of_arms {secs : Int}
    (safe : GraceSafe config key (secs * second) disconnectedAt before)
    (covers : config.Covers key.appID secs)
    {manager next : Manager} {watcher : Watcher} {reply : Reply}
    (arms : manager.Arms before.now (timeoutFor config reply key.appID) key
      next watcher)
    (resolved : reply.succeeded = true ∨
      secs * second ≤ defaultExecutorTimeout) :
    disconnectedAt + secs * second ≤ watcher.fireAt := by
  rw [arms.fireAt]
  exact Int.add_le_add safe.elapsed (covers.le_timeoutFor resolved)

/-- A recorded timer for which an older goroutine waits has been recorded before. -/
theorem Takes.recorded_of_kept
    (takes : Takes config before activity after)
    (wellFormed : before.WellFormed)
    {self : UUID} {watcher : Watcher} {exec : TrackedExecutor}
    (running : .watcher watcher ∈ before.threadsOf self)
    (found : after.tracked self key = some exec)
    (timer : exec.timer = some watcher.timer) :
    before.tracked self key = some exec := by
  rcases takes.tracked_some wellFormed found with
    kept | ⟨thread, reply, relay, rfl, present, member, tracked⟩
  · exact kept
  -- A fresh timer is not the one an older goroutine waits for.
  have notFresh : ¬ exec.Armed relay.manager.nextTimer := by
    intro armed
    rw [Deployment.threadsOf_of_lookup present] at running
    have older := wellFormed.watchers present running
    rw [armed.timer] at timer
    rw [Option.some.inj timer] at older
    exact Nat.lt_irrefl _ older
  cases tracked with
  | connected conn _ sameKey unarmed =>
      rw [unarmed.timer] at timer
      cases timer
  | disconnected conn _ sameKey wasConnected armed =>
      exact (notFresh armed).elim
  | adopted startup version rest _ armed => exact (notFresh armed).elim
  | expired => cases timer

/-- Whatever timer is recorded for the executor fires after the period. -/
theorem GraceSafe.recorded_step {secs : Int}
    (safe : GraceSafe config key (secs * second) disconnectedAt before)
    (covers : config.Covers key.appID secs)
    (resolves : activity.resolvesTimeout key (secs * second) = true)
    (takes : Takes config before activity after)
    {self : UUID} {watcher : Watcher} {exec : TrackedExecutor}
    (member : .watcher watcher ∈ after.threadsOf self)
    (sameKey : watcher.key = key)
    (found : after.tracked self key = some exec)
    (timer : exec.timer = some watcher.timer) :
    disconnectedAt + secs * second ≤ watcher.fireAt := by
  cases takes.thread member with
  | kept activity running =>
      have recorded :=
        takes.recorded_of_kept safe.reapsLate.wellFormed running found timer
      exact safe.recorded running sameKey recorded timer
  | started same => cases same
  | triggered trigger relay present starts => cases starts
  | spawned thread reply relay present running follows =>
      cases follows with
      | armed conn watcher arms =>
          have armed := Manager.arms_of_onDisconnect arms
          rw [armed.watchedKey] at sameKey
          subst sameKey
          apply safe.fireAt_of_arms covers armed
          simpa [Activity.resolvesTimeout] using resolves
      | adoptionArmed startup target version rest =>
          have armed := relay.manager.arms_adoptDisconnected before.now
            (timeoutFor config reply target.appID) target version
          rw [armed.watchedKey] at sameKey
          subst sameKey
          apply safe.fireAt_of_arms covers armed
          simpa [Activity.resolvesTimeout] using resolves

theorem GraceSafe.pursued_step
    (safe : GraceSafe config key grace disconnectedAt before)
    (takes : Takes config before activity after)
    {self : UUID} {thread : Thread}
    (member : thread ∈ after.threadsOf self)
    (pursues : thread.pursues key = true) :
    disconnectedAt + grace ≤ before.now := by
  rcases (takes.thread member).pursues pursues with
    ⟨old, running, oldPursues⟩ |
      ⟨watcher, reply, exec, -, running, sameKey, due, found, recorded, -⟩ |
      isDead
  · exact safe.pursued running oldPursues
  · exact (safe.recorded running sameKey found recorded).trans due
  · exact safe.dead isDead

theorem GraceSafe.step {secs : Int}
    (safe : GraceSafe config key (secs * second) disconnectedAt before)
    (covers : config.Covers key.appID secs)
    (resolves : activity.resolvesTimeout key (secs * second) = true)
    (takes : Takes config before activity after) :
    GraceSafe config key (secs * second) disconnectedAt after where
  reapsLate := safe.reapsLate.step takes
  elapsed := safe.elapsed.trans takes.now_le
  dead := fun isDead =>
    (safe.dead_step covers takes isDead).trans takes.now_le
  disconnected := safe.disconnected_step takes
  recorded := safe.recorded_step covers resolves takes
  pursued := fun member pursues =>
    (safe.pursued_step takes member pursues).trans takes.now_le

end GracePeriod

/-! ## Runs -/

/--
In every run of any number of instances in which an executor disconnects only
while nothing of an earlier disconnect is left, and in which the lookups of its
timeout work, it is not declared dead and its recovery is not dispatched within
`executorTimeoutSecs` of the disconnect, provided the setting fits a duration
and is covered by the lease duration wherever a reaper runs.
-/
theorem grace_period_respected
    (config : Config) (now : Time) (activities : List Activity)
    (reached : Deployment) (key : ExecutorKey) (secs : Int)
    (covers : config.Covers key.appID secs)
    (guarded : GuardedRun (Deployment.step config)
      (fun before activity =>
        graceFenced key (secs * second) before activity = true)
      (Deployment.empty now) activities reached) :
    RespectsGracePeriod config key (secs * second) (Deployment.empty now)
      activities := by
  intro earlier disconnect between activity later atDisconnect disconnected
    before after split reaches disconnects first quiet taken early
  rw [split] at guarded
  rcases guarded.from_position reaches with ⟨fromStart, fromDisconnect⟩
  have late : ReapsLate config atDisconnect :=
    fromStart.invariant (ReapsLate config)
      (fun _ taken holds => holds.step (takes_of_step taken))
      (reapsLate_empty config now)
  have clear : atDisconnect.ClearOf key := by
    cases fromDisconnect with
    | cons allowed _ _ =>
        rw [graceFenced, disconnects] at allowed
        simpa using (Bool.and_eq_true_iff.mp allowed).1
  have runsOn : run (Deployment.step config) atDisconnect
      (disconnect :: between) = some before :=
    run_cons_eq_some.mpr ⟨disconnected, first, quiet.run_eq⟩
  rw [← List.cons_append] at fromDisconnect
  rcases fromDisconnect.at_position
      (GraceSafe config key (secs * second) atDisconnect.now)
      (fun allowed taken safe =>
        safe.step covers (Bool.and_eq_true_iff.mp allowed).2
          (takes_of_step taken))
      (late.graceSafe clear) runsOn with
    ⟨safe, -, -⟩
  have takes := takes_of_step taken
  constructor
  · intro isDead
    exact absurd (safe.dead_step covers takes isDead) (not_le.mpr early)
  · intro self
    by_contra named
    rw [Bool.not_eq_false] at named
    rcases takes.pursues_of_dispatches named with ⟨thread, member, pursues⟩
    exact absurd (safe.pursued member pursues) (not_le.mpr early)

/-- The defaults, with a timeout for every application. -/
def configWithTimeout (secs : Int) : Config :=
  { defaultConfig with executorTimeoutSecs := fun _ => some secs }

/-- An executor is lost for good and declared dead when its timer fires. -/
def diedAfterTimeout : List Activity :=
  boots (configWithTimeout 30) 0 relayA ++
    connects (configWithTimeout 30) 0 relayA (execConn 0) ++
    disconnects relayA (execConn 0) ++
    [.advance 30000000000] ++
    expires relayA ⟨(execConn 0).key, "v1", 0, 0, 30 * second⟩ ++
    [.exec relayA (.graceLoop (execConn 0).key "v1" 1 (30 * second)) .ok]

theorem grace_period_respected_diedAfterTimeout :
    ((run (Deployment.step (configWithTimeout 30)) (Deployment.empty 0)
        diedAfterTimeout).map fun reached =>
      (reached.HasStatus (execConn 0).key .dead : Bool)) = some true ∧
    RespectsGracePeriod (configWithTimeout 30) (execConn 0).key (30 * second)
      (Deployment.empty 0) diedAfterTimeout := by
  have guarded :
      (runGuarded (Deployment.step (configWithTimeout 30))
        (fun before activity =>
          graceFenced (execConn 0).key (30 * second) before activity = true)
        (Deployment.empty 0) diedAfterTimeout).isSome := by
    decide
  rcases Option.isSome_iff_exists.mp guarded with ⟨reached, taken⟩
  refine ⟨by decide, ?_⟩
  exact grace_period_respected (configWithTimeout 30) 0 _ reached
    (execConn 0).key 30 ⟨rfl, by decide, by decide, by decide⟩
    (guardedRun_of_runGuarded taken)

/-- An executor whose application has a timeout of five minutes loses its socket. -/
def lostSocket : List Activity :=
  boots (configWithTimeout 300) 0 relayA ++
    connects (configWithTimeout 300) 0 relayA (execConn 0) ++
    [.trigger relayA (.hangup (execConn 0))]

/-- Its teardown completes, and a minute later the reaper of the instance is due. -/
def reaperDue : List Activity :=
  [.exec relayA (.teardown (execConn 0) .disconnect) .ok,
    .exec relayA (.teardown (execConn 0) .onDisconnect) .ok,
    .advance 61000000000,
    .trigger relayA .adoptionTick,
    .exec relayA (.adoption false (.adopt (121 * second))) .ok,
    .exec relayA (.adoption false (.deliver [])) .ok]

theorem reaperDue_withinGrace :
    ((run (Deployment.step (configWithTimeout 300)) (Deployment.empty 0)
        (lostSocket ++ .exec relayA (.teardown (execConn 0) .unregister) .ok ::
          (reaperDue ++
            [.exec relayA (.adoption false (.reap second)) .ok]))).map
      fun reached =>
        (reached.now, (reached.row (execConn 0).key).map Executor.status)) =
      some (61 * second, some .dead) ∧
    ¬ RespectsGracePeriod (configWithTimeout 300) (execConn 0).key
      (300 * second) (Deployment.empty 0)
      (lostSocket ++ .exec relayA (.teardown (execConn 0) .unregister) .ok ::
        (reaperDue ++
          [.exec relayA (.adoption false (.reap second)) .ok])) := by
  refine ⟨by decide, ?_⟩
  intro respects
  have views :
      ((run (Deployment.step (configWithTimeout 300)) (Deployment.empty 0)
          lostSocket).bind fun atDisconnect =>
        (atDisconnect.step (configWithTimeout 300)
          (.exec relayA (.teardown (execConn 0) .unregister) .ok)).bind
          fun disconnected =>
        (runGuarded (Deployment.step (configWithTimeout 300))
          (fun state label => state.disconnects (execConn 0).key label = false)
          disconnected reaperDue).bind fun before =>
        (before.step (configWithTimeout 300)
          (.exec relayA (.adoption false (.reap second)) .ok)).map
          fun after =>
            (atDisconnect.disconnects (execConn 0).key
                (.exec relayA (.teardown (execConn 0) .unregister) .ok) ∧
              before.now < atDisconnect.now + 300 * second ∧
              after.HasStatus (execConn 0).key .dead ∧
              ¬ before.HasStatus (execConn 0).key .dead : Bool)) =
        some true := by
    decide
  rcases Option.bind_eq_some_iff.mp views with ⟨atDisconnect, reaches, views⟩
  rcases Option.bind_eq_some_iff.mp views with ⟨disconnected, first, views⟩
  rcases Option.bind_eq_some_iff.mp views with ⟨before, quiet, views⟩
  rcases Option.map_eq_some_iff.mp views with ⟨after, taken, views⟩
  rw [decide_eq_true_eq] at views
  rcases views with ⟨disconnects, early, isDead, notDead⟩
  have spared := respects lostSocket _ reaperDue _ [] atDisconnect
    disconnected before after rfl reaches disconnects first
    (guardedRun_of_runGuarded quiet) taken early
  exact notDead (spared.1 isDead)

end DbosRelay.Cluster
