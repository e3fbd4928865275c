import DbosRelay.Cluster.Steps

/-!
# What precedes the loss of a record

An executor which is neither reachable nor recorded is forgotten: nothing looks
for its workflows any more.  Its row is deleted by `RecoverDeadExecutor`, after a
remote party has acknowledged the recovery, and that is called only for an
executor which was declared dead.  Otherwise it is lost only with its application,
which a client of the API may delete at any time.  The invariant is about the
goroutines under way: each of them was preceded by the events it owes its existence
to.
-/

namespace DbosRelay.Cluster

open DbosRelay.Basic
open DbosRelay.Hub
open DbosRelay.Library.Runs
open DbosRelay.Library.Tables
open DbosRelay.Liveness
open DbosRelay.Store

/-! ## Deletions of applications -/

/-- A step of the instances, or the deletion of an application by a client. -/
inductive Happening where
  | activity (activity : Activity)
  | deleteApp (appID : UUID)

/-- `DeleteApplication`: the instances do not learn of it. -/
def Deployment.deleteApplication (deployment : Deployment) (appID : UUID) :
    Deployment :=
  { deployment with
    executors := Store.deleteApplication deployment.executors appID }

@[simp]
theorem Deployment.threadsOf_deleteApplication (deployment : Deployment)
    (appID self : UUID) :
    (deployment.deleteApplication appID).threadsOf self =
      deployment.threadsOf self :=
  rfl

@[simp]
theorem Deployment.row_deleteApplication (deployment : Deployment) (appID : UUID)
    (key : ExecutorKey) :
    (deployment.deleteApplication appID).row key =
      if key.appID = appID then none else deployment.row key :=
  lookup_deleteApplication deployment.executors appID key

/--
The instances take their steps and applications are deleted.  An executor of a
deleted application may still be upserted, though the foreign key refuses it.
-/
def Deployment.happen (config : Config) (deployment : Deployment) :
    Happening → Option Deployment
  | .activity activity => deployment.step config activity
  | .deleteApp appID => some (deployment.deleteApplication appID)

/-! ## The events -/

/-- The step is the arrival of the acknowledgement an instance waits for. -/
def Activity.acknowledges (self : UUID) (key : ExecutorKey) (version : String) :
    Activity → Bool
  | .exec acting (.recovery _ target targetVersion .awaiting _) reply =>
      acting = self && target = key && targetVersion = version &&
        reply.confirms key version
  | _ => false

section Histories

variable (config : Config) (start : Deployment)

/-- The stored row of `key` was dead at some point of the run. -/
def DeclaredDead (key : ExecutorKey) (happenings : List Happening) : Prop :=
  ∃ earlier reached, earlier <+: happenings ∧
    run (Deployment.happen config) start earlier = some reached ∧
      reached.HasStatus key .dead

/-- The run has a dispatch of a recovery after the executor was declared dead. -/
def Dispatched (self : UUID) (key : ExecutorKey)
    (happenings : List Happening) : Prop :=
  ∃ earlier dispatch, earlier ++ [.activity dispatch] <+: happenings ∧
    dispatch.dispatches self key = true ∧ DeclaredDead config start key earlier

/-- The run has an acknowledgement of a recovery which was dispatched before. -/
def Acknowledged (self : UUID) (key : ExecutorKey) (version : String)
    (happenings : List Happening) : Prop :=
  ∃ earlier answer, earlier ++ [.activity answer] <+: happenings ∧
    answer.acknowledges self key version = true ∧
      Dispatched config start self key earlier

end Histories

/-- A goroutine recovers `key` now or has it on its list. -/
def Thread.recovers (key : ExecutorKey) : Thread → Bool
  | .graceLoop target _ _ _ => target = key
  | .recovery _ target _ _ (.grace _) => target = key
  | .recovery _ target _ _ (.sweep rest) =>
      target = key || rest.rows.any fun row => row.1 = key
  | .sweep running => running.rows.any fun row => row.1 = key
  | _ => false

section Monotone

variable {config : Config} {start : Deployment} {self : UUID}
variable {key : ExecutorKey} {version : String}
variable {happenings longer : List Happening}

theorem DeclaredDead.mono (before : happenings <+: longer)
    (declared : DeclaredDead config start key happenings) :
    DeclaredDead config start key longer := by
  obtain ⟨earlier, reached, within, reaches, isDead⟩ := declared
  exact ⟨earlier, reached, within.trans before, reaches, isDead⟩

theorem Dispatched.mono (before : happenings <+: longer)
    (dispatched : Dispatched config start self key happenings) :
    Dispatched config start self key longer := by
  obtain ⟨earlier, dispatch, within, isDispatch, declared⟩ := dispatched
  exact ⟨earlier, dispatch, within.trans before, isDispatch, declared⟩

theorem Acknowledged.mono (before : happenings <+: longer)
    (acknowledged : Acknowledged config start self key version happenings) :
    Acknowledged config start self key version longer := by
  obtain ⟨earlier, answer, within, isAnswer, dispatched⟩ := acknowledged
  exact ⟨earlier, answer, within.trans before, isAnswer, dispatched⟩

end Monotone

/-! ## What a step starts -/

section Steps

variable {config : Config} {before after : Deployment} {activity : Activity}
variable {self : UUID} {key : ExecutorKey}

/-- The retry loop of a grace timer starts when the row has been marked dead. -/
theorem hasStatus_dead_of_marked {version : String} {reply : Reply}
    {attempt : Nat} {wakeAt : Time}
    (taken : before.step config
      (.exec self (.expiry key version .markDead) reply) = some after)
    (new : .graceLoop key version attempt wakeAt ∈ after.threadsOf self)
    (notOld : .graceLoop key version attempt wakeAt ∉
      before.threadsOf self) :
    after.HasStatus key .dead := by
  obtain ⟨relay, memory, spawned, present, -, resumed, rfl⟩ :=
    step_exec_eq_some taken
  rw [Deployment.threadsOf_put, if_pos rfl] at new
  rw [Deployment.threadsOf_of_lookup present] at notOld
  have starts : .graceLoop key version attempt wakeAt ∈ spawned :=
    (List.mem_append.mp new).resolve_right fun old =>
      notOld (List.mem_of_mem_erase old)
  simp only [Thread.resume, resumeExpiry, Option.some.injEq] at resumed
  split_ifs at resumed with marks
  · obtain ⟨marked, isMarked⟩ := Option.isSome_iff_exists.mp marks.2
    obtain ⟨row, -, -, rfl⟩ := setExecutorDead_eq_some isMarked
    refine ⟨row.markedDead, ?_, rfl⟩
    rw [Deployment.row_put]
    simp only [Thread.write, Thread.statement,
      Reply.applied_of_succeeded marks.1, if_true, Statement.run, isMarked,
      Option.getD_some]
    rw [lookup_insert_eq, if_pos rfl]
    exact Option.mem_some_self _
  · cases resumed
    cases starts

/-- A goroutine comes to recover an executor from another one, or as it is dead. -/
theorem recovers_of_step {next : Thread}
    (taken : before.step config activity = some after)
    (member : next ∈ after.threadsOf self) (recovers : next.recovers key = true) :
    (∃ thread ∈ before.threadsOf self, thread.recovers key = true) ∨
      before.HasStatus key .dead ∨ after.HasStatus key .dead := by
  by_cases old : next ∈ before.threadsOf self
  · exact Or.inl ⟨next, old, recovers⟩
  cases (takes_of_step taken).thread member with
  | kept activity kept => exact absurd kept old
  | started same =>
      subst same
      cases recovers
  | triggered trigger relay present starts =>
      cases starts <;> cases recovers
  | spawned thread reply relay present running follows =>
      cases follows with
      | markedDead target version marked =>
          have sameKey : target = key := of_decide_eq_true recovers
          subst sameKey
          exact Or.inr (Or.inr (hasStatus_dead_of_marked taken member old))
      | listed periodic appID apps rows dead =>
          obtain ⟨⟨target, version⟩, isListed, sameKey⟩ :=
            List.any_eq_true.mp recovers
          have sameKey : target = key := of_decide_eq_true sameKey
          subst sameKey
          exact Or.inr (Or.inl (dead target version isListed))
      | attempted target version attempt wakeAt due =>
          exact Or.inl ⟨_, running, recovers⟩
      | confirmed reqID target version caller acknowledged =>
          exact Or.inl ⟨_, running, by cases caller <;> exact recovers⟩
      | deleting reqID target version caller =>
          exact Or.inl ⟨_, running, by cases caller <;> exact recovers⟩
      | retried reqID target version phase attempt =>
          exact Or.inl ⟨_, running, recovers⟩
      | returned reqID target version phase rest =>
          exact Or.inl ⟨_, running, by
            rw [Thread.recovers, Bool.or_eq_true]
            exact Or.inr recovers⟩
      | swept periodic target version rows apps =>
          refine Or.inl ⟨_, running, ?_⟩
          rw [Thread.recovers, List.any_cons]
          exact recovers
      | skipped periodic target version rows apps =>
          refine Or.inl ⟨_, running, ?_⟩
          rw [Thread.recovers, List.any_cons, Bool.or_eq_true]
          exact Or.inr recovers
      | _ => cases recovers

/-- How a recovery comes to be where it is. -/
inductive RecoveryStep (before : Deployment) (self : UUID) (reqID : Nat)
    (key : ExecutorKey) (version : String) (caller : Caller)
    (activity : Activity) : RecoveryPhase → Prop where
  | kept (phase : RecoveryPhase)
      (member : .recovery reqID key version phase caller ∈
        before.threadsOf self) :
      RecoveryStep before self reqID key version caller activity phase
  | dispatched (thread : Thread) (member : thread ∈ before.threadsOf self)
      (recovers : thread.recovers key = true)
      (dispatches : activity.dispatches self key = true) :
      RecoveryStep before self reqID key version caller activity .awaiting
  | acknowledged
      (member : .recovery reqID key version .awaiting caller ∈
        before.threadsOf self)
      (acknowledges : activity.acknowledges self key version = true) :
      RecoveryStep before self reqID key version caller activity
        .deleteTracked
  | deleted
      (member : .recovery reqID key version .deleteTracked caller ∈
        before.threadsOf self) :
      RecoveryStep before self reqID key version caller activity .deleteRow

/-- A sweep skips a row without an executor id. -/
theorem executorID_ne_of_swept {periodic : Bool} {version : String}
    {rows : List (ExecutorKey × String)} {apps : List UUID} {reply : Reply}
    {reqID : Nat} {caller : Caller}
    (taken : before.step config
      (.exec self (.sweep ⟨periodic, (key, version) :: rows, apps⟩) reply) =
        some after)
    (new : .recovery reqID key version .awaiting caller ∈
      after.threadsOf self)
    (notOld : .recovery reqID key version .awaiting caller ∉
      before.threadsOf self) :
    key.executorID ≠ "" := by
  intro isEmpty
  obtain ⟨relay, memory, spawned, present, -, resumed, rfl⟩ :=
    step_exec_eq_some taken
  simp only [Thread.resume, resumeSweep, if_pos isEmpty, Option.some.injEq]
    at resumed
  cases resumed
  rw [Deployment.threadsOf_put, if_pos rfl] at new
  rw [Deployment.threadsOf_of_lookup present] at notOld
  rcases List.mem_append.mp new with starts | old
  · simp at starts
  · exact notOld (List.mem_of_mem_erase old)

theorem recoveryStep_of_step {reqID : Nat} {version : String}
    {phase : RecoveryPhase} {caller : Caller}
    (taken : before.step config activity = some after)
    (member : .recovery reqID key version phase caller ∈
      after.threadsOf self) :
    RecoveryStep before self reqID key version caller activity phase := by
  by_cases old : .recovery reqID key version phase caller ∈
      before.threadsOf self
  · exact .kept phase old
  cases (takes_of_step taken).thread member with
  | kept activity kept => exact absurd kept old
  | started same => cases same
  | triggered trigger relay present starts => cases starts
  | spawned thread reply relay present running follows =>
      cases follows with
      | attempted _ _ attempt wakeAt due =>
          exact .dispatched _ running (by simp [Thread.recovers])
            (by simp [Activity.dispatches])
      | swept periodic _ _ rows apps =>
          exact .dispatched _ running (by simp [Thread.recovers])
            (by simp [Activity.dispatches,
              executorID_ne_of_swept taken member old])
      | confirmed _ _ _ _ acknowledges =>
          exact .acknowledged running
            (by simp [Activity.acknowledges, acknowledges])
      | deleting => exact .deleted running

end Steps

/-! ## Runs -/

/-- What the goroutines under way after a run are owed to. -/
structure Accounted (config : Config) (start : Deployment)
    (happenings : List Happening) (deployment : Deployment) : Prop where
  declared : ∀ {self thread key}, thread ∈ deployment.threadsOf self →
    thread.recovers key = true → DeclaredDead config start key happenings
  dispatched : ∀ {self reqID key version phase caller},
    .recovery reqID key version phase caller ∈ deployment.threadsOf self →
      Dispatched config start self key happenings
  acknowledged : ∀ {self reqID key version phase caller},
    .recovery reqID key version phase caller ∈ deployment.threadsOf self →
      phase ≠ .awaiting →
        Acknowledged config start self key version happenings

section Runs

variable {config : Config} {start before after : Deployment}
variable {happenings : List Happening} {activity : Activity} {appID : UUID}

/-- A deletion starts no goroutine. -/
theorem Accounted.deleteApp
    (accounted : Accounted config start happenings before) :
    Accounted config start (happenings ++ [.deleteApp appID])
      (before.deleteApplication appID) := by
  have longer : happenings <+: happenings ++ [.deleteApp appID] :=
    List.prefix_append _ _
  refine ⟨?_, ?_, ?_⟩
  · intro self thread key running recovers
    exact (accounted.declared running recovers).mono longer
  · intro self reqID key version phase caller running
    exact (accounted.dispatched running).mono longer
  · intro self reqID key version phase caller running answered
    exact (accounted.acknowledged running answered).mono longer

theorem Accounted.step
    (accounted : Accounted config start happenings before)
    (reaches : run (Deployment.happen config) start happenings = some before)
    (taken : before.step config activity = some after) :
    Accounted config start (happenings ++ [.activity activity]) after := by
  have longer : happenings <+: happenings ++ [.activity activity] :=
    List.prefix_append _ _
  refine ⟨?_, ?_, ?_⟩
  · intro self thread key member recovers
    rcases recovers_of_step taken member recovers with
      ⟨old, running, oldRecovers⟩ | isDead | isDead
    · exact (accounted.declared running oldRecovers).mono longer
    · exact ⟨happenings, before, longer, reaches, isDead⟩
    · refine ⟨_, after, List.prefix_refl _, ?_, isDead⟩
      exact run_append_eq_some.mpr
        ⟨before, reaches, by simp [run, Deployment.happen, taken]⟩
  · intro self reqID key version phase caller member
    cases recoveryStep_of_step taken member with
    | kept _ running => exact (accounted.dispatched running).mono longer
    | dispatched thread running recovers dispatches =>
        exact ⟨happenings, activity, List.prefix_refl _, dispatches,
          accounted.declared running recovers⟩
    | acknowledged running =>
        exact (accounted.dispatched running).mono longer
    | deleted running => exact (accounted.dispatched running).mono longer
  · intro self reqID key version phase caller member answered
    cases recoveryStep_of_step taken member with
    | kept _ running =>
        exact (accounted.acknowledged running answered).mono longer
    | dispatched => exact absurd rfl answered
    | acknowledged running acknowledges =>
        exact ⟨happenings, activity, List.prefix_refl _, acknowledges,
          accounted.dispatched running⟩
    | deleted running =>
        exact (accounted.acknowledged running (by simp)).mono longer

/-- Every goroutine of a run from nothing is accounted for. -/
theorem accounted_of_run {now : Time}
    (reaches : run (Deployment.happen config) (Deployment.empty now)
      happenings = some after) :
    Accounted config (Deployment.empty now) happenings after := by
  refine run_history (Accounted config (Deployment.empty now)) ?_ reaches ?_
  · intro happenings before after happening reaches taken accounted
    cases happening with
    | activity activity => exact accounted.step reaches taken
    | deleteApp appID =>
        cases taken
        exact accounted.deleteApp
  · refine ⟨?_, ?_, ?_⟩ <;>
      simp [Deployment.threadsOf, Deployment.empty]

/--
In every run of any number of instances, whatever applications are deleted, a
recovery is dispatched only for an executor which was declared dead before.
-/
theorem dispatched_after_dead (config : Config) (now : Time)
    (happenings : List Happening) (before after : Deployment)
    (activity : Activity) (self : UUID) (key : ExecutorKey)
    (reaches : run (Deployment.happen config) (Deployment.empty now)
      happenings = some before)
    (taken : before.step config activity = some after)
    (dispatches : activity.dispatches self key = true) :
    DeclaredDead config (Deployment.empty now) key happenings := by
  have accounted := accounted_of_run reaches
  cases takes_of_step taken with
  | exec acting thread reply relay memory spawned present member effects =>
      rw [← Deployment.threadsOf_of_lookup present] at member
      refine accounted.declared member ?_
      simp only [Activity.dispatches] at dispatches
      split at dispatches
      · rename_i same
        cases same
        exact (Bool.and_eq_true _ _ ▸ dispatches).2
      · rename_i same
        cases same
        simp only [Bool.and_eq_true] at dispatches
        rw [Thread.recovers, List.any_cons, dispatches.1.2, Bool.true_or]
      · cases dispatches
  | _ => cases dispatches

/-- Another application is deleted, then the instances do the rest. -/
def afterDeletion (activities : List Activity) : List Happening :=
  .deleteApp ⟨8⟩ :: activities.map .activity

/-- The run in which a lost executor is declared dead and its recovery dispatched. -/
theorem dispatched_after_dead_recoveryDispatched :
    DeclaredDead defaultConfig (Deployment.empty 0) (execConn 0).key
      (afterDeletion recoveryDispatched.dropLast) := by
  have ran :
      ((run (Deployment.happen defaultConfig) (Deployment.empty 0)
          (afterDeletion recoveryDispatched.dropLast)).bind fun before =>
        before.step defaultConfig
          (.exec relayA
            (.graceLoop (execConn 0).key "v1" 1 (60 * second)) .ok)).isSome := by
    decide
  rcases Option.isSome_iff_exists.mp ran with ⟨after, ran⟩
  rcases Option.bind_eq_some_iff.mp ran with ⟨before, reaches, taken⟩
  exact dispatched_after_dead defaultConfig 0 _ before after _ relayA _
    reaches taken (by decide)

/--
In every run of any number of instances the record of an executor is lost only with
its application, or by the instance which has dispatched its recovery, after it was
declared dead, and to which that recovery was acknowledged.
-/
theorem deleted_after_acknowledgement (config : Config) (now : Time)
    (happenings : List Happening) (before after : Deployment)
    (happening : Happening) (key : ExecutorKey)
    (reaches : run (Deployment.happen config) (Deployment.empty now)
      happenings = some before)
    (taken : before.happen config happening = some after)
    (recorded : (before.row key).isSome)
    (lost : after.row key = none) :
    happening = .deleteApp key.appID ∨
      ∃ self reqID version caller reply,
        happening = .activity
            (.exec self (.recovery reqID key version .deleteRow caller) reply) ∧
          Acknowledged config (Deployment.empty now) self key version
            happenings := by
  cases happening with
  | deleteApp appID =>
      cases taken
      rw [Deployment.row_deleteApplication] at lost
      split_ifs at lost with same
      · exact Or.inl (congrArg _ same.symm)
      · rw [lost] at recorded
        cases recorded
  | activity activity =>
      refine Or.inr ?_
      have change := (takes_of_step taken).row key
      rw [lost] at change
      generalize absent : (none : Option Executor) = result at change
      cases change with
      | unchanged =>
          rw [← absent] at recorded
          cases recorded
      | deleted self reqID version caller reply member =>
          exact ⟨self, reqID, version, caller, reply, rfl,
            (accounted_of_run reaches).acknowledged member (by simp)⟩
      | _ => cases absent

/-- The run goes on until the record is deleted. -/
theorem deleted_after_acknowledgement_recordDeleted :
    Acknowledged defaultConfig (Deployment.empty 0) relayA (execConn 0).key
      "v1" (afterDeletion (recoveryDispatched ++ recordDeleted.take 2)) := by
  have ran :
      ((run (Deployment.happen defaultConfig) (Deployment.empty 0)
          (afterDeletion (recoveryDispatched ++ recordDeleted.take 2))).bind
        fun before =>
          (before.happen defaultConfig
            (.activity (.exec relayA
              (.recovery 0 (execConn 0).key "v1" .deleteRow (.grace 1))
                .ok))).map fun after =>
            ((before.row (execConn 0).key).isSome,
              (after.row (execConn 0).key).isNone)) = some (true, true) := by
    decide
  rcases Option.bind_eq_some_iff.mp ran with ⟨before, reaches, ran⟩
  rcases Option.map_eq_some_iff.mp ran with ⟨after, taken, same⟩
  rw [Prod.mk.injEq, Option.isNone_iff_eq_none] at same
  rcases deleted_after_acknowledgement defaultConfig 0 _ before after _ _ reaches
    taken same.1 same.2 with
      other | ⟨self, reqID, version, caller, reply, sameStep, acknowledged⟩
  · cases other
  · cases sameStep
    exact acknowledged

/-- With its application a record is lost without any acknowledgement. -/
example :
    ((run (Deployment.happen defaultConfig) (Deployment.empty 0)
        ((boots defaultConfig 0 relayA ++
          connects defaultConfig 0 relayA (execConn 0)).map .activity ++
            [.deleteApp (execConn 0).key.appID])).map fun reached =>
      (reached.row (execConn 0).key).isNone) = some true := by
  decide

end Runs

end DbosRelay.Cluster
