import DbosRelay.Cluster.Steps

/-!
# Deleting the record of a recovered executor

`RecoverDeadExecutor` waits for a remote acknowledgement and then deletes the
tracked entry and the row of the executor it was called for.  Neither deletion
looks at what it deletes.  An executor which has registered again meanwhile
loses both, unless its handshake and the deletion stay out of each other's way.
-/

namespace DbosRelay.Cluster

open DbosRelay.Basic
open DbosRelay.Hub
open DbosRelay.Library.Runs
open DbosRelay.Liveness
open DbosRelay.Store

/-! ## The property -/

/-- The step is one by which an executor registers. -/
def Activity.registers (key : ExecutorKey) : Activity → Bool
  | .exec _ (.handshake conn (.upsert _)) reply =>
      conn.key = key && reply.applied
  | .exec _ (.handshake conn .onConnect) _ => conn.key = key
  | _ => false

/-- A recovery call is under way at an instance. -/
def Deployment.Recovering (deployment : Deployment) (self : UUID)
    (reqID : Nat) (key : ExecutorKey) : Prop :=
  ∃ version phase caller,
    .recovery reqID key version phase caller ∈ deployment.threadsOf self

/-- A step does not delete the row or the entry of a connected executor. -/
def SparesConnected (before : Deployment) : Activity → Prop
  | .exec self (.recovery _ key _ .deleteTracked _) _ =>
      ¬ before.InState self key .connected
  | .exec _ (.recovery _ key _ .deleteRow _) reply =>
      reply.applied = true → ¬ before.HasStatus key .connected
  | _ => True

/--
In a run from `start`, the deletion which follows an acknowledged recovery
spares every executor which has registered since that recovery was dispatched.
-/
def SparesReregistered (config : Config) (start : Deployment)
    (activities : List Activity) : Prop :=
  ∀ earlier since later self reqID key version phase caller reply
      dispatched before,
    activities = earlier ++ since ++
        .exec self (.recovery reqID key version phase caller) reply :: later →
      run (Deployment.step config) start earlier = some dispatched →
        dispatched.Recovering self reqID key →
          run (Deployment.step config) dispatched since = some before →
            (∃ activity ∈ since, activity.registers key = true) →
              SparesConnected before
                (.exec self (.recovery reqID key version phase caller) reply)

/-! ## When the deletion is fenced -/

/-- The tracked entry of `key` is deleted next. -/
def Thread.deletesEntryOf (key : ExecutorKey) : Thread → Bool
  | .recovery _ target _ .deleteTracked _ => target = key
  | _ => false

/-- The row of `key` is deleted next, or after its tracked entry. -/
def Thread.deletesRowOf (key : ExecutorKey) : Thread → Bool
  | .recovery _ target _ .deleteTracked _ => target = key
  | .recovery _ target _ .deleteRow _ => target = key
  | _ => false

/--
The acknowledgement of a recovery arrives only while the executor is neither
stored as connected nor connected to this instance, and the executor does not
register between the acknowledgement and the deletions.
-/
def recoveryFenced (before : Deployment) : Activity → Bool
  | .exec self (.recovery _ key version .awaiting _) reply =>
      !reply.confirms key version ||
        (!decide (before.HasStatus key .connected) &&
          !decide (before.InState self key .connected))
  | .exec _ (.handshake conn (.upsert _)) reply =>
      !reply.applied ||
        !decide (before.SomeThread fun _ thread =>
          thread.deletesRowOf conn.key = true)
  | .exec self (.handshake conn .onConnect) _ =>
      (before.threadsOf self).all fun thread =>
        !thread.deletesEntryOf conn.key
  | _ => true

/-- The executor of a pending deletion is not connected. -/
structure DeletionsFenced (deployment : Deployment) : Prop where
  wellFormed : deployment.WellFormed
  entry : ∀ {self reqID key version caller},
    .recovery reqID key version .deleteTracked caller ∈
        deployment.threadsOf self →
      ¬ deployment.InState self key .connected
  row : ∀ {self thread key},
    thread ∈ deployment.threadsOf self → thread.deletesRowOf key = true →
      ¬ deployment.HasStatus key .connected

theorem deletionsFenced_empty (now : Time) :
    DeletionsFenced (Deployment.empty now) where
  wellFormed := Deployment.wellFormed_empty now
  entry := by
    intro self reqID key version caller member
    simp [Deployment.threadsOf, Deployment.empty] at member
  row := by
    intro self thread key member
    simp [Deployment.threadsOf, Deployment.empty] at member

section Fenced

variable {config : Config} {before after : Deployment} {activity : Activity}

/-- A deletion of a row is announced by an acknowledgement. -/
theorem ThreadStep.deletesRowOf
    {self : UUID} {next : Thread} {key : ExecutorKey}
    (step : ThreadStep config before self next activity)
    (deletes : next.deletesRowOf key = true) :
    (∃ thread ∈ before.threadsOf self, thread.deletesRowOf key = true) ∨
      ∃ reqID version caller reply,
        activity =
            .exec self (.recovery reqID key version .awaiting caller) reply ∧
          reply.confirms key version = true := by
  cases step with
  | kept activity member => exact Or.inl ⟨next, member, deletes⟩
  | started same =>
      subst same
      cases deletes
  | triggered trigger relay present starts =>
      cases starts <;> cases deletes
  | spawned thread reply relay present member follows =>
      cases follows with
      | confirmed reqID target version caller acknowledged =>
          have sameKey : target = key := of_decide_eq_true deletes
          subst sameKey
          exact Or.inr ⟨reqID, version, caller, reply, rfl, acknowledged⟩
      | deleting reqID target version caller =>
          exact Or.inl ⟨_, member, deletes⟩
      | _ => cases deletes

theorem DeletionsFenced.step
    (fenced : DeletionsFenced before)
    (takes : Takes config before activity after)
    (allowed : recoveryFenced before activity = true) :
    DeletionsFenced after where
  wellFormed := fenced.wellFormed.step takes
  entry := by
    intro self reqID key version caller member isConnected
    rcases takes.inState_connected fenced.wellFormed isConnected with
      wasConnected | ⟨conn, reply, rfl, sameKey⟩
    · cases takes.thread member with
      | kept activity kept => exact fenced.entry kept wasConnected
      | started same => cases same
      | triggered trigger relay present starts => cases starts
      | spawned thread reply relay present running follows =>
          cases follows with
          | confirmed _ _ _ _ acknowledged =>
              simp [recoveryFenced, acknowledged] at allowed
              exact allowed.2 wasConnected
    · have spared := List.all_eq_true.mp allowed
      have notSpawned :
          .recovery reqID key version .deleteTracked caller ∈
            before.threadsOf self := by
        cases takes.thread member with
        | kept activity kept => exact kept
        | spawned thread reply relay present running follows => cases follows
      have spares := spared _ notSpawned
      simp [Thread.deletesEntryOf, sameKey] at spares
  row := by
    intro self thread key member deletes isConnected
    rcases takes.hasStatus_connected isConnected with
      wasConnected | ⟨other, conn, leaseExpires, reply, rfl, sameKey, applied⟩
    · rcases (takes.thread member).deletesRowOf deletes with
        ⟨old, running, oldDeletes⟩ |
          ⟨reqID, version, caller, reply, rfl, acknowledged⟩
      · exact fenced.row running oldDeletes wasConnected
      · simp [recoveryFenced, acknowledged] at allowed
        exact allowed.1 wasConnected
    · rcases (takes.thread member).deletesRowOf deletes with
        ⟨old, running, oldDeletes⟩ | ⟨_, _, _, _, impossible, -⟩
      · have spares : ¬ before.SomeThread fun _ thread =>
            thread.deletesRowOf conn.key = true := by
          simpa [recoveryFenced, applied] using allowed
        rw [← sameKey] at oldDeletes
        exact spares
          (Deployment.someThread_iff.mpr ⟨self, old, running, oldDeletes⟩)
      · cases impossible

/-- A deletion which is pending while its executor is not connected spares it. -/
theorem DeletionsFenced.sparesConnected
    (fenced : DeletionsFenced before)
    (taken : before.step config activity = some after) :
    SparesConnected before activity := by
  cases takes_of_step taken with
  | exec self thread reply relay memory spawned present member effects =>
      rw [← Deployment.threadsOf_of_lookup present] at member
      cases thread with
      | recovery reqID key version phase caller =>
          cases phase with
          | awaiting => trivial
          | deleteTracked => exact fenced.entry member
          | deleteRow =>
              intro _
              exact fenced.row member (by simp [Thread.deletesRowOf])
      | _ => trivial
  | _ => trivial

end Fenced

/-! ## Runs -/

/--
In every run of any number of instances in which acknowledgements and
handshakes keep apart, the deletion after an acknowledged recovery spares every
executor which has registered since the recovery was dispatched.
-/
theorem recovery_spares_reregistered
    (config : Config) (now : Time) (activities : List Activity)
    (reached : Deployment)
    (guarded : GuardedRun (Deployment.step config)
      (fun before activity => recoveryFenced before activity = true)
      (Deployment.empty now) activities reached) :
    SparesReregistered config (Deployment.empty now) activities := by
  intro earlier since later self reqID key version phase caller reply
    dispatched before split earlierRun _ sinceRun _
  rw [split] at guarded
  have reaches :
      run (Deployment.step config) (Deployment.empty now)
        (earlier ++ since) = some before :=
    run_append_eq_some.mpr ⟨dispatched, earlierRun, sinceRun⟩
  rcases guarded.at_position DeletionsFenced
      (fun allowed taken fenced => fenced.step (takes_of_step taken) allowed)
      (deletionsFenced_empty now) reaches with
    ⟨fenced, -, after, taken⟩
  exact fenced.sparesConnected taken

/-! ## A run in which they meet -/

/-- A fenced run which recovers and deletes the executor. -/
theorem recovery_spares_reregistered_recoveryDispatched :
    ((run (Deployment.step defaultConfig) (Deployment.empty 0)
        (recoveryDispatched ++ recordDeleted)).map
      fun reached => (reached.row (execConn 0).key).isSome) = some false ∧
    SparesReregistered defaultConfig (Deployment.empty 0)
      (recoveryDispatched ++ recordDeleted) := by
  have guarded :
      (runGuarded (Deployment.step defaultConfig)
        (fun before activity => recoveryFenced before activity = true)
        (Deployment.empty 0)
        (recoveryDispatched ++ recordDeleted)).isSome := by
    decide
  rcases Option.isSome_iff_exists.mp guarded with ⟨reached, taken⟩
  refine ⟨by decide, ?_⟩
  exact recovery_spares_reregistered defaultConfig 0 _ reached
    (guardedRun_of_runGuarded taken)

/-- The executor registers again while its recovery waits for the acknowledgement. -/
theorem reregistered_deleted :
    ((run (Deployment.step defaultConfig) (Deployment.empty 0)
        (recoveryDispatched ++
          connects defaultConfig (60 * second) relayA (execConn 2) ++
          recordDeleted)).map fun reached =>
      (reached.registered relayA (execConn 2).key,
        reached.tracked relayA (execConn 2).key,
        reached.row (execConn 2).key)) =
      some (some (execConn 2), none, none) ∧
    ¬ SparesReregistered defaultConfig (Deployment.empty 0)
      (recoveryDispatched ++
        connects defaultConfig (60 * second) relayA (execConn 2) ++
        recordDeleted) := by
  refine ⟨by decide, ?_⟩
  intro spares
  have dispatches :
      ((run (Deployment.step defaultConfig) (Deployment.empty 0)
          recoveryDispatched).map fun dispatched =>
        (.recovery 0 (execConn 0).key "v1" .awaiting (.grace 1) ∈
          dispatched.threadsOf relayA : Bool)) = some true := by
    decide
  rcases Option.map_eq_some_iff.mp dispatches with
    ⟨dispatched, dispatchedRun, recovering⟩
  have connectedBefore :
      ((run (Deployment.step defaultConfig) (Deployment.empty 0)
          (recoveryDispatched ++
            (connects defaultConfig (60 * second) relayA (execConn 2) ++
              recordDeleted.take 1))).map fun before =>
        (before.InState relayA (execConn 0).key .connected : Bool)) =
          some true := by
    decide
  rcases Option.map_eq_some_iff.mp connectedBefore with
    ⟨before, beforeRun, isConnected⟩
  rcases run_append_eq_some.mp beforeRun with
    ⟨middle, middleRun, sinceRun⟩
  rw [dispatchedRun] at middleRun
  cases middleRun
  refine spares recoveryDispatched
    (connects defaultConfig (60 * second) relayA (execConn 2) ++
      recordDeleted.take 1)
    (recordDeleted.drop 2) relayA 0 (execConn 0).key "v1" .deleteTracked
    (.grace 1) .ok dispatched before ?_ dispatchedRun ?_ sinceRun ?_
    (of_decide_eq_true isConnected)
  · simp [recordDeleted]
  · exact ⟨"v1", .awaiting, .grace 1, of_decide_eq_true recovering⟩
  · exact ⟨.exec relayA (.handshake (execConn 2) .onConnect) .ok,
      by simp [connects], by decide⟩

end DbosRelay.Cluster
