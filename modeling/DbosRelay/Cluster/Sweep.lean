import DbosRelay.Cluster.Steps

/-!
# The periodic sweep

`sweepAll` collects the applications of the executors the manager tracks as
dead and attempts the recovery of every dead row of these applications.  It
never looks for dead rows of other applications: those wait for a sweep which
the next connect of the application starts.
-/

namespace DbosRelay.Cluster

open DbosRelay.Basic
open DbosRelay.Hub
open DbosRelay.Library.Runs
open DbosRelay.Library.Tables
open DbosRelay.Liveness
open DbosRelay.Store

/-! ## Sweeps without interference -/

/-- The goroutine is about to list the dead executors of an application. -/
def Thread.listsDead : Thread → Bool
  | .sweep ⟨_, [], _ :: _⟩ => true
  | _ => false

/-- Time passes, or the periodic sweep of `self` goes on and its query works. -/
def Activity.isSweepOf (self : UUID) : Activity → Bool
  | .advance _ => true
  | .exec acting thread reply =>
      acting = self && thread.isPeriodicSweep &&
        (!thread.listsDead || reply.succeeded)
  | _ => false

/-- `sweepAll` of `self` begins and nothing else happens. -/
structure SweepRun (config : Config) (acting : UUID) (before : Deployment)
    (steps : List Activity) (after : Deployment) : Prop where
  taken : run (Deployment.step config) before
    (.trigger acting .sweepTick :: steps) = some after
  undisturbed : ∀ activity ∈ steps, activity.isSweepOf acting = true

/-- No periodic sweep of `self` is under way. -/
def Deployment.SweepReturned (deployment : Deployment) (self : UUID) : Prop :=
  ∀ thread ∈ deployment.threadsOf self, thread.isPeriodicSweep = false

instance (deployment : Deployment) (self : UUID) :
    Decidable (deployment.SweepReturned self) :=
  inferInstanceAs
    (Decidable (∀ thread ∈ deployment.threadsOf self, _ = false))

/-! ## One step of a sweep -/

/-- What follows a step of the periodic sweep. -/
inductive SweepStep (table : ExecutorTable) (memory : Memory) (reply : Reply) :
    Thread → List Thread → Prop where
  | finished :
      SweepStep table memory reply (.sweep ⟨true, [], []⟩) []
  | listed (appID : UUID) (apps : List UUID) :
      SweepStep table memory reply (.sweep ⟨true, [], appID :: apps⟩)
        [.sweep
          ⟨true,
            if reply.succeeded then
              (listDeadExecutorsByApplication table appID).map fun listed =>
                (listed.1, listed.2.applicationVersion)
            else [],
            apps⟩]
  | skipped (key : ExecutorKey) (version : String)
      (rows : List (ExecutorKey × String)) (apps : List UUID)
      (unnamed : key.executorID = "") :
      SweepStep table memory reply
        (.sweep ⟨true, (key, version) :: rows, apps⟩)
        [.sweep ⟨true, rows, apps⟩]
  | dispatched (key : ExecutorKey) (version : String)
      (rows : List (ExecutorKey × String)) (apps : List UUID)
      (named : key.executorID ≠ "") :
      SweepStep table memory reply
        (.sweep ⟨true, (key, version) :: rows, apps⟩)
        [.recovery memory.nextReq key version .awaiting
          (.sweep ⟨true, rows, apps⟩)]
  | deletes (reqID : Nat) (key : ExecutorKey) (version : String)
      (phase next : RecoveryPhase) (rest : Sweep)
      (periodic : rest.periodic = true) :
      SweepStep table memory reply
        (.recovery reqID key version phase (.sweep rest))
        [.recovery reqID key version next (.sweep rest)]
  | returned (reqID : Nat) (key : ExecutorKey) (version : String)
      (phase : RecoveryPhase) (rest : Sweep)
      (periodic : rest.periodic = true) :
      SweepStep table memory reply
        (.recovery reqID key version phase (.sweep rest)) [.sweep rest]

section Sweeping

variable {config : Config} {self : UUID} {now : Time}
variable {table : ExecutorTable} {memory after : Memory} {reply : Reply}
variable {thread : Thread} {spawned : List Thread} {key : ExecutorKey}

theorem sweepStep_of_resumeSweep
    (table : ExecutorTable) (memory : Memory) (reply : Reply)
    (running : Sweep) (periodic : running.periodic = true) :
    SweepStep table memory reply (.sweep running)
      (resumeSweep table memory reply running).2 := by
  rcases running with ⟨isPeriodic, rows, apps⟩
  cases periodic
  cases rows with
  | cons first rows =>
      rcases first with ⟨key, version⟩
      simp only [resumeSweep]
      split_ifs with unnamed
      · exact .skipped key version rows apps unnamed
      · exact .dispatched key version rows apps unnamed
  | nil =>
      cases apps with
      | nil => exact .finished
      | cons appID apps => exact .listed appID apps

theorem sweepStep_of_resume
    (periodic : thread.isPeriodicSweep = true)
    (resumed : thread.resume config self now table memory reply =
      some (after, spawned)) :
    SweepStep table memory reply thread spawned := by
  simp only [Thread.isPeriodicSweep] at periodic
  split at periodic
  · rename_i running
    have progress := sweepStep_of_resumeSweep table memory reply running
      periodic
    rw [Option.some.inj resumed] at progress
    exact progress
  · rename_i reqID key version phase rest
    simp only [Thread.resume] at resumed
    cases phase with
    | awaiting =>
        simp only [resumeRecovery] at resumed
        split at resumed
        · split at resumed
          · cases resumed
            exact .deletes _ _ _ _ _ _ periodic
          · cases resumed
            exact .returned _ _ _ _ _ periodic
        · cases resumed
    | deleteTracked =>
        cases resumed
        exact .deletes _ _ _ _ _ _ periodic
    | deleteRow =>
        simp only [resumeRecovery] at resumed
        split at resumed
        · cases resumed
          exact .returned _ _ _ _ _ periodic
        · cases resumed
          exact .returned _ _ _ _ _ periodic
        · cases resumed
          exact .returned _ _ _ _ _ periodic
        · cases resumed
  · cases periodic

/-! ## The rows ahead of a sweep -/

/-- The sweep has listed `key`, or has yet to list its application. -/
def Sweep.Reaches (table : ExecutorTable) (key : ExecutorKey)
    (running : Sweep) : Prop :=
  (∃ version, (key, version) ∈ running.rows) ∨
    key.appID ∈ running.apps ∧
      ∃ row ∈ table.lookup key, row.status = .dead

/-- The goroutine of the sweep will come to `key`, and is not there yet. -/
def Thread.Reaches (table : ExecutorTable) (key : ExecutorKey) :
    Thread → Prop
  | .sweep running => running.Reaches table key
  | .recovery _ target _ _ (.sweep rest) =>
      target ≠ key ∧ rest.Reaches table key
  | _ => False

theorem lookup_write_of_reaches (self : UUID) (now : Time) (reply : Reply)
    (ahead : thread.Reaches table key) :
    (thread.write self now table reply).lookup key = table.lookup key := by
  simp only [Thread.Reaches] at ahead
  split at ahead
  · rfl
  · rename_i reqID target version phase rest
    cases phase with
    | awaiting => rfl
    | deleteTracked => rfl
    | deleteRow =>
        simp only [Thread.write, Thread.statement]
        split_ifs
        · rw [Statement.run, deleteExecutor, lookup_erase_eq,
            if_neg (Ne.symm ahead.1)]
        · rfl
  · cases ahead

theorem Sweep.Reaches.of_lookup_eq {running : Sweep} {other : ExecutorTable}
    (ahead : running.Reaches table key)
    (same : other.lookup key = table.lookup key) :
    running.Reaches other key := by
  rw [Sweep.Reaches, same]
  exact ahead

/-- A step of the sweep attempts the recovery of `key`, or comes closer to it. -/
theorem SweepStep.attempts_or_reaches
    (step : SweepStep table memory reply thread spawned)
    (working : thread.listsDead = true → reply.succeeded = true)
    (named : key.executorID ≠ "")
    (ahead : thread.Reaches table key) :
    Activity.dispatches self key (.exec self thread reply) = true ∨
      ∃ next, spawned = [next] ∧
        next.Reaches (thread.write self now table reply) key := by
  have same := lookup_write_of_reaches self now reply ahead
  cases step with
  | finished => simp [Thread.Reaches, Sweep.Reaches] at ahead
  | listed appID apps =>
      refine Or.inr ⟨_, rfl, ?_⟩
      rcases ahead with ⟨version, absent⟩ | ⟨member, row, found, isDead⟩
      · cases absent
      · rw [if_pos (working rfl)]
        rcases List.mem_cons.mp member with sameApp | later
        · refine Or.inl ⟨row.applicationVersion, List.mem_map.mpr ?_⟩
          exact ⟨(key, row),
            mem_listDeadExecutorsByApplication.mpr ⟨found, sameApp, isDead⟩,
            rfl⟩
        · exact Or.inr ⟨later, row, found, isDead⟩
  | skipped target version rows apps unnamed =>
      refine Or.inr ⟨_, rfl, ?_⟩
      rcases ahead with ⟨listed, member⟩ | later
      · rcases List.mem_cons.mp member with first | rest
        · cases first
          exact absurd unnamed named
        · exact Or.inl ⟨listed, rest⟩
      · exact Or.inr later
  | dispatched target version rows apps =>
      by_cases isTarget : target = key
      · subst isTarget
        left
        simp [Activity.dispatches, named]
      · refine Or.inr ⟨_, rfl, isTarget, ?_⟩
        rcases ahead with ⟨listed, member⟩ | later
        · rcases List.mem_cons.mp member with first | rest
          · cases first
            exact absurd rfl isTarget
          · exact Or.inl ⟨listed, rest⟩
        · exact Or.inr later
  | deletes reqID target version phase next rest periodic =>
      exact Or.inr ⟨_, rfl, ahead.1, ahead.2.of_lookup_eq same⟩
  | returned reqID target version phase rest periodic =>
      exact Or.inr ⟨_, rfl, ahead.2.of_lookup_eq same⟩

theorem SweepStep.isPeriodicSweep
    (step : SweepStep table memory reply thread spawned) :
    ∀ next ∈ spawned, next.isPeriodicSweep = true := by
  intro next member
  cases step with
  | finished => cases member
  | listed => cases List.mem_singleton.mp member; rfl
  | skipped => cases List.mem_singleton.mp member; rfl
  | dispatched => cases List.mem_singleton.mp member; rfl
  | deletes reqID key version phase later rest periodic =>
      cases List.mem_singleton.mp member
      exact periodic
  | returned reqID key version phase rest periodic =>
      cases List.mem_singleton.mp member
      exact periodic

theorem SweepStep.atMostOne
    (step : SweepStep table memory reply thread spawned) :
    spawned = [] ∨ ∃ next, spawned = [next] := by
  cases step with
  | finished => exact Or.inl rfl
  | listed => exact Or.inr ⟨_, rfl⟩
  | skipped => exact Or.inr ⟨_, rfl⟩
  | dispatched => exact Or.inr ⟨_, rfl⟩
  | deletes => exact Or.inr ⟨_, rfl⟩
  | returned => exact Or.inr ⟨_, rfl⟩

end Sweeping

/-! ## Runs of a sweep -/

section Runs

variable {config : Config} {before after : Deployment} {self : UUID}
variable {thread current : Thread} {others : List Thread} {reply : Reply}
variable {key : ExecutorKey} {steps : List Activity}

theorem Deployment.lookup_of_threadsOf
    (threads : before.threadsOf self = current :: others) :
    ∃ relay, before.instances.lookup self = some relay ∧
      relay.threads = current :: others := by
  cases present : before.instances.lookup self with
  | none =>
      rw [Deployment.threadsOf, present] at threads
      cases threads
  | some relay =>
      exact ⟨relay, rfl,
        (Deployment.threadsOf_of_lookup present).symm.trans threads⟩

/-- The sweep takes a step among goroutines which do not sweep. -/
theorem sweepStep_of_step
    (threads : before.threadsOf self = current :: others)
    (quiet : ∀ other ∈ others, other.isPeriodicSweep = false)
    (periodic : thread.isPeriodicSweep = true)
    (taken : before.step config (.exec self thread reply) = some after) :
    thread = current ∧ ∃ memory spawned,
      SweepStep before.executors memory reply current spawned ∧
        after.threadsOf self = spawned ++ others ∧
        after.executors =
          current.write self before.now before.executors reply := by
  rcases step_exec_eq_some taken with
    ⟨relay, memory, spawned, present, member, resumed, rfl⟩
  rw [Deployment.threadsOf_of_lookup present] at threads
  rw [threads] at member
  have isCurrent : thread = current := by
    rcases List.mem_cons.mp member with same | other
    · exact same
    · rw [quiet thread other] at periodic
      cases periodic
  subst isCurrent
  refine ⟨rfl, relay.toMemory, spawned,
    sweepStep_of_resume periodic resumed, ?_, rfl⟩
  rw [Deployment.threadsOf_put, if_pos rfl, threads, List.erase_cons_head]

/-- A goroutine which can go on goes on. -/
theorem step_of_resume (config : Config) (reply : Reply) {memory : Memory} {spawned : List Thread}
    {relay : Instance}
    (present : before.instances.lookup self = some relay)
    (threads : relay.threads = current :: others)
    (resumed : current.resume config self before.now before.executors
      relay.toMemory reply = some (memory, spawned)) :
    ∃ next, before.step config (.exec self current reply) = some next ∧
      next.threadsOf self = spawned ++ others := by
  refine ⟨before.put self
    (current.write self before.now before.executors reply) memory
    (spawned ++ relay.threads.erase current), ?_, ?_⟩
  · simp only [Deployment.step, present]
    rw [if_pos (by rw [threads]; exact List.mem_cons_self), resumed]
    rfl
  · rw [Deployment.threadsOf_put, if_pos rfl, threads, List.erase_cons_head]

/-- The sweep of `self` is the goroutine `current`, if it is still under way. -/
structure Sweeping (acting : UUID) (others : List Thread)
    (deployment : Deployment) (current : List Thread) : Prop where
  threads : deployment.threadsOf acting = current ++ others
  atMostOne : current = [] ∨ ∃ thread, current = [thread]
  periodic : ∀ thread ∈ current, thread.isPeriodicSweep = true

theorem Sweeping.step {activity : Activity} {running : List Thread}
    (sweeping : Sweeping self others before running)
    (quiet : ∀ other ∈ others, other.isPeriodicSweep = false)
    (sweeps : activity.isSweepOf self = true)
    (taken : before.step config activity = some after) :
    ∃ next, Sweeping self others after next := by
  simp only [Activity.isSweepOf] at sweeps
  split at sweeps
  · cases taken
    exact ⟨running, sweeping.threads, sweeping.atMostOne, sweeping.periodic⟩
  · rename_i acting thread reply
    simp only [Bool.and_eq_true, decide_eq_true_eq] at sweeps
    rcases sweeps with ⟨⟨rfl, periodic⟩, -⟩
    rcases sweeping.atMostOne with rfl | ⟨current, rfl⟩
    · rcases step_exec_eq_some taken with
        ⟨relay, memory, spawned, present, member, -, -⟩
      rw [← Deployment.threadsOf_of_lookup present, sweeping.threads] at member
      rw [quiet thread member] at periodic
      cases periodic
    · rcases sweepStep_of_step sweeping.threads quiet periodic taken with
        ⟨-, memory, spawned, progress, threads, -⟩
      exact ⟨spawned, threads, progress.atMostOne, progress.isPeriodicSweep⟩
  · cases sweeps

/-- A complete sweep attempts the recovery of everything ahead of it. -/
theorem sweep_attempts
    (quiet : ∀ other ∈ others, other.isPeriodicSweep = false)
    (named : key.executorID ≠ "")
    (threads : before.threadsOf self = current :: others)
    (periodic : current.isPeriodicSweep = true)
    (ahead : current.Reaches before.executors key)
    (undisturbed : ∀ activity ∈ steps, activity.isSweepOf self = true)
    (taken : run (Deployment.step config) before steps = some after)
    (returned : after.SweepReturned self) :
    ∃ activity ∈ steps, activity.dispatches self key = true := by
  induction steps generalizing before current with
  | nil =>
      cases taken
      have ended := returned current (by rw [threads]; exact List.mem_cons_self)
      rw [periodic] at ended
      cases ended
  | cons activity steps induction =>
      rcases run_cons_eq_some.mp taken with ⟨middle, first, rest⟩
      rw [List.forall_mem_cons] at undisturbed
      rcases undisturbed with ⟨sweeps, later⟩
      simp only [Activity.isSweepOf] at sweeps
      split at sweeps
      · -- Time passes.
        have same : middle.threadsOf self = before.threadsOf self ∧
            middle.executors = before.executors := by
          cases first
          exact ⟨rfl, rfl⟩
        rw [← same.1] at threads
        rw [← same.2] at ahead
        rcases induction threads periodic ahead later rest with
          ⟨attempt, member, dispatches⟩
        exact ⟨attempt, List.mem_cons_of_mem _ member, dispatches⟩
      · rename_i acting thread reply
        simp only [Bool.and_eq_true, decide_eq_true_eq, Bool.or_eq_true,
          Bool.not_eq_true'] at sweeps
        rcases sweeps with ⟨⟨rfl, isSweep⟩, working⟩
        rcases sweepStep_of_step threads quiet isSweep first with
          ⟨rfl, memory, spawned, progress, nextThreads, written⟩
        have works : thread.listsDead = true → reply.succeeded = true := by
          intro lists
          simpa [lists] using working
        rcases progress.attempts_or_reaches works named ahead with
          attempts | ⟨next, rfl, nextAhead⟩
        · exact ⟨_, List.mem_cons_self, attempts⟩
        · rw [← written] at nextAhead
          have nextPeriodic :=
            progress.isPeriodicSweep next List.mem_cons_self
          rcases induction nextThreads nextPeriodic nextAhead later rest with
            ⟨attempt, member, dispatches⟩
          exact ⟨attempt, List.mem_cons_of_mem _ member, dispatches⟩
      · cases sweeps

/-! ## Sweeps return -/

/-- Undisturbed, the sweep of `self` can be brought to its end. -/
def Deployment.SweepCanReturn (config : Config) (self : UUID)
    (deployment : Deployment) : Prop :=
  ∃ steps finished,
    run (Deployment.step config) deployment steps = some finished ∧
      (∀ activity ∈ steps, activity.isSweepOf self = true) ∧
      finished.SweepReturned self

theorem Deployment.SweepCanReturn.of_step {activity : Activity}
    (canReturn : after.SweepCanReturn config self)
    (sweeps : activity.isSweepOf self = true)
    (taken : before.step config activity = some after) :
    before.SweepCanReturn config self := by
  rcases canReturn with ⟨steps, finished, rest, undisturbed, returned⟩
  refine ⟨activity :: steps, finished,
    run_cons_eq_some.mpr ⟨after, taken, rest⟩, ?_, returned⟩
  rw [List.forall_mem_cons]
  exact ⟨sweeps, undisturbed⟩

/-- A recovery which finds nobody to ask. -/
def unattendedWorld : RecoveryWorld where
  direct := none
  findHealthyPeers := .ok []
  sendRecovery _ := ⟨.ok none, false⟩
  transportProbes := false
  probe _ := .truthful
  allowVersionMismatch := false

/-- The sweep comes back from every phase of a recovery. -/
theorem Deployment.SweepCanReturn.of_recovery
    {reqID : Nat} {version : String} {phase : RecoveryPhase} {rest : Sweep}
    (periodic : rest.periodic = true)
    (afterwards : ∀ next : Deployment,
      next.threadsOf self = .sweep rest :: others →
        next.SweepCanReturn config self)
    (threads : before.threadsOf self =
      .recovery reqID key version phase (.sweep rest) :: others) :
    before.SweepCanReturn config self := by
  have sweeps : ∀ phase reply,
      Activity.isSweepOf self
        (.exec self (.recovery reqID key version phase (.sweep rest)) reply) =
          true := by
    intro phase reply
    simp [Activity.isSweepOf, Thread.isPeriodicSweep, Thread.listsDead,
      periodic]
  have fromDeleteRow : ∀ middle : Deployment,
      middle.threadsOf self =
        .recovery reqID key version .deleteRow (.sweep rest) :: others →
        middle.SweepCanReturn config self := by
    intro middle deletes
    rcases Deployment.lookup_of_threadsOf deletes with ⟨relay, present, running⟩
    rcases step_of_resume config .ok present running rfl with
      ⟨next, taken, nextThreads⟩
    exact (afterwards next nextThreads).of_step (sweeps _ _) taken
  rcases Deployment.lookup_of_threadsOf threads with ⟨relay, present, running⟩
  cases phase with
  | awaiting =>
      rcases step_of_resume config (.recovered unattendedWorld []) present
        running rfl with ⟨next, taken, nextThreads⟩
      exact (afterwards next nextThreads).of_step (sweeps _ _) taken
  | deleteTracked =>
      rcases step_of_resume config .ok present running rfl with
        ⟨next, taken, nextThreads⟩
      exact (fromDeleteRow next nextThreads).of_step (sweeps _ _) taken
  | deleteRow => exact fromDeleteRow before threads

/-- The inner loop goes through the listed rows. -/
theorem Deployment.SweepCanReturn.of_rows
    {apps : List UUID} (rows : List (ExecutorKey × String))
    (afterwards : ∀ next : Deployment,
      next.threadsOf self = .sweep ⟨true, [], apps⟩ :: others →
        next.SweepCanReturn config self)
    (threads : before.threadsOf self = .sweep ⟨true, rows, apps⟩ :: others) :
    before.SweepCanReturn config self := by
  induction rows generalizing before with
  | nil => exact afterwards before threads
  | cons row rows induction =>
      rcases row with ⟨key, version⟩
      rcases Deployment.lookup_of_threadsOf threads with
        ⟨relay, present, running⟩
      have sweeps : Activity.isSweepOf self
          (.exec self (.sweep ⟨true, (key, version) :: rows, apps⟩) .ok) =
            true := by
        simp [Activity.isSweepOf, Thread.isPeriodicSweep, Thread.listsDead]
      have resumed : ∃ memory next,
          Thread.resume config self before.now before.executors
            relay.toMemory .ok
            (.sweep ⟨true, (key, version) :: rows, apps⟩) =
              some (memory, [next]) ∧
            (next = .sweep ⟨true, rows, apps⟩ ∨
              next = .recovery relay.nextReq key version .awaiting
                (.sweep ⟨true, rows, apps⟩)) := by
        simp only [Thread.resume, resumeSweep]
        split_ifs
        · exact ⟨_, _, rfl, Or.inl rfl⟩
        · exact ⟨_, _, rfl, Or.inr rfl⟩
      rcases resumed with ⟨memory, next, goesOn, rfl | rfl⟩
      · rcases step_of_resume config .ok present running goesOn with
          ⟨middle, taken, nextThreads⟩
        exact (induction nextThreads).of_step sweeps taken
      · rcases step_of_resume config .ok present running goesOn with
          ⟨middle, taken, nextThreads⟩
        have recovers : middle.SweepCanReturn config self :=
          .of_recovery rfl (fun later laterThreads => induction laterThreads)
            nextThreads
        exact recovers.of_step sweeps taken

/-- The outer loop goes through the applications. -/
theorem Deployment.SweepCanReturn.of_apps
    (quiet : ∀ other ∈ others, other.isPeriodicSweep = false)
    (apps : List UUID)
    (threads : before.threadsOf self = .sweep ⟨true, [], apps⟩ :: others) :
    before.SweepCanReturn config self := by
  have sweeps : Activity.isSweepOf self
      (.exec self (.sweep ⟨true, [], apps⟩) .ok) = true := by
    simp [Activity.isSweepOf, Thread.isPeriodicSweep, Reply.succeeded]
  induction apps generalizing before with
  | nil =>
      rcases Deployment.lookup_of_threadsOf threads with
        ⟨relay, present, running⟩
      rcases step_of_resume config .ok present running rfl with
        ⟨next, taken, nextThreads⟩
      have returned : next.SweepReturned self := by
        intro thread member
        rw [nextThreads] at member
        exact quiet thread member
      have canReturn : next.SweepCanReturn config self :=
        ⟨[], next, rfl, by simp, returned⟩
      exact canReturn.of_step sweeps taken
  | cons appID apps induction =>
      rcases Deployment.lookup_of_threadsOf threads with
        ⟨relay, present, running⟩
      rcases step_of_resume config .ok present running rfl with
        ⟨next, taken, nextThreads⟩
      have canReturn : next.SweepCanReturn config self :=
        .of_rows _
          (fun later laterThreads =>
            induction laterThreads
              (by simp [Activity.isSweepOf, Thread.isPeriodicSweep,
                Reply.succeeded]))
          nextThreads
      exact canReturn.of_step sweeps taken

/-- A sweep which is under way can always be brought to its end. -/
theorem Sweeping.canReturn {running : List Thread}
    (sweeping : Sweeping self others before running)
    (quiet : ∀ other ∈ others, other.isPeriodicSweep = false) :
    before.SweepCanReturn config self := by
  have fromSweep : ∀ rest : Sweep, rest.periodic = true →
      ∀ next : Deployment, next.threadsOf self = .sweep rest :: others →
        next.SweepCanReturn config self := by
    rintro ⟨isPeriodic, rows, apps⟩ periodic next threads
    cases periodic
    exact .of_rows rows (fun _ listed => .of_apps quiet apps listed) threads
  rcases sweeping.atMostOne with rfl | ⟨current, rfl⟩
  · refine ⟨[], before, rfl, by simp, ?_⟩
    intro thread member
    rw [sweeping.threads] at member
    exact quiet thread member
  · have periodic := sweeping.periodic current List.mem_cons_self
    simp only [Thread.isPeriodicSweep] at periodic
    split at periodic
    · exact fromSweep _ periodic before sweeping.threads
    · exact .of_recovery periodic (fromSweep _ periodic) sweeping.threads
    · cases periodic

theorem sweepTick_eq_some
    (taken : before.step config (.trigger self .sweepTick) = some after) :
    ∃ relay, before.instances.lookup self = some relay ∧
      (∀ thread ∈ relay.threads, thread.isPeriodicSweep = false) ∧
      after.threadsOf self =
        .sweep ⟨true, [], relay.manager.deadApps⟩ :: relay.threads ∧
      after.executors = before.executors := by
  simp only [Deployment.step] at taken
  split at taken
  · cases taken
  · rename_i relay present
    simp only [Trigger.fire] at taken
    split_ifs at taken with quiet
    · cases taken
      refine ⟨relay, present, ?_, ?_, rfl⟩
      · intro thread member
        simpa using List.all_eq_true.mp quiet thread member
      · rw [Deployment.threadsOf_put, if_pos rfl]
        rfl
    · cases taken

/-! ## Stored executors are named -/

/-- Every stored executor, and every one about to be stored, has an ID. -/
structure Deployment.NamesStored (deployment : Deployment) : Prop where
  rows : ∀ {key row}, deployment.row key = some row → key.executorID ≠ ""
  upserts : ∀ {self conn leaseExpires},
    .handshake conn (.upsert leaseExpires) ∈ deployment.threadsOf self →
      conn.key.executorID ≠ ""

theorem Deployment.namesStored_empty (now : Time) :
    (Deployment.empty now).NamesStored where
  rows := by
    intro key row found
    simp [Deployment.row, Deployment.empty] at found
  upserts := by
    intro self conn leaseExpires member
    simp [Deployment.threadsOf, Deployment.empty] at member

theorem Deployment.NamesStored.step {activity : Activity}
    (named : before.NamesStored)
    (taken : before.step config activity = some after) :
    after.NamesStored where
  rows := by
    intro key row found
    obtain ⟨result, rowEq, change⟩ := (takes_of_step taken).exists_rowStep found
    cases change with
    | unchanged => exact named.rows rowEq.symm
    | upserted self conn leaseExpires reply sameKey member applied =>
        exact sameKey ▸ named.upserts member
    | touched self conn renewalExpires reply old sameKey member present =>
        exact named.rows present
    | disconnected self conn reply old sameKey member applied present =>
        exact named.rows present
    | markedDead self version reply old member applied present alive =>
        exact named.rows present
    | deleted => cases rowEq
    | reaped self startup graceCutoff reply old member present reapable =>
        exact named.rows present
    | adopted self startup leaseExp reply old member applied present =>
        exact named.rows present
  upserts := by
    intro self conn leaseExpires member
    cases (takes_of_step taken).thread member with
    | kept activity present => exact named.upserts present
    | started same => cases same
    | triggered trigger relay present starts =>
        cases starts with
        | accepted key applicationVersion valid =>
            intro unnamed
            rw [isValidIdentifier, if_pos unnamed] at valid
            cases valid
    | spawned thread reply relay present running follows => cases follows

end Runs

/-! ## What a sweep attempts -/

/--
In every reachable state, a sweep of `sweepAll` whose queries work and which
nothing else disturbs can always be brought to its end, and once it has
returned it has attempted the recovery of every dead row of every application
of which the manager tracks an executor as dead, whatever marked the row.
-/
theorem sweepAll_attempts_trackedApplications
    (config : Config) (now : Time) (earlier : List Activity)
    (before : Deployment)
    (reaches : run (Deployment.step config) (Deployment.empty now) earlier =
      some before)
    (self : UUID) (steps : List Activity) (after : Deployment)
    (sweep : SweepRun config self before steps after) :
    after.SweepCanReturn config self ∧
      (after.SweepReturned self →
        ∀ key, before.HasStatus key .dead →
          (∃ tracked : ExecutorKey, tracked.appID = key.appID ∧
            before.InState self tracked .dead) →
          ∃ activity ∈ steps, activity.dispatches self key = true) := by
  rcases run_cons_eq_some.mp sweep.taken with ⟨begun, tick, swept⟩
  rcases sweepTick_eq_some tick with
    ⟨relay, present, quiet, threads, sameRows⟩
  constructor
  · have sweeping : ∃ running, Sweeping self relay.threads after running := by
      refine ((guardedRun_true_iff.mpr swept).restrict
        sweep.undisturbed).invariant
          (fun deployment => ∃ running,
            Sweeping self relay.threads deployment running) ?_ ?_
      · rintro middle next activity ⟨-, sweeps⟩ taken ⟨running, sweeping⟩
        exact sweeping.step quiet sweeps taken
      · refine ⟨[.sweep ⟨true, [], relay.manager.deadApps⟩], threads,
          Or.inr ⟨_, rfl⟩, ?_⟩
        intro thread member
        cases List.mem_singleton.mp member
        rfl
    rcases sweeping with ⟨running, sweeping⟩
    exact sweeping.canReturn quiet
  · rintro returned key ⟨row, found, isDead⟩
      ⟨tracked, sameApp, exec, entry, inState⟩
    have named : before.NamesStored :=
      run_invariant Deployment.NamesStored
        (fun taken holds => holds.step taken) reaches
        (Deployment.namesStored_empty now)
    have isSwept : key.appID ∈ relay.manager.deadApps := by
      rw [Option.mem_def, Deployment.tracked_of_lookup present] at entry
      exact Manager.mem_deadApps.mpr ⟨tracked, exec, entry, sameApp, inState⟩
    refine sweep_attempts quiet (named.rows found) threads rfl ?_
      sweep.undisturbed swept returned
    rw [sameRows]
    exact Or.inr ⟨isSwept, row, found, isDead⟩

/-- An executor is lost and its grace timer marks it dead. -/
def diedOnWatch : List Activity :=
  boots defaultConfig 0 relayA ++
    connects defaultConfig 0 relayA (execConn 0) ++
    disconnects relayA (execConn 0) ++
    [.advance 60000000000] ++
    expires relayA ⟨(execConn 0).key, "v1", 0, 0, 60 * second⟩

/-- The next sweep lists the executor and finds nobody to recover its work. -/
def sweptInVain : List Activity :=
  let key := (execConn 0).key
  [.exec relayA (.sweep ⟨true, [], [key.appID]⟩) .ok,
    .exec relayA (.sweep ⟨true, [(key, "v1")], []⟩) .ok,
    .exec relayA (.recovery 0 key "v1" .awaiting (.sweep ⟨true, [], []⟩))
      (.recovered unattendedWorld []),
    .exec relayA (.sweep ⟨true, [], []⟩) .ok]

theorem sweepAll_attempts_trackedApplications_diedOnWatch :
    ∃ activity ∈ sweptInVain,
      activity.dispatches relayA (execConn 0).key = true := by
  have reached :
      ((run (Deployment.step defaultConfig) (Deployment.empty 0)
          diedOnWatch).map fun before =>
        (before.HasStatus (execConn 0).key .dead ∧
          before.InState relayA (execConn 0).key .dead : Bool)) =
        some true := by
    decide
  rcases Option.map_eq_some_iff.mp reached with ⟨before, reaches, views⟩
  simp only [decide_eq_true_eq] at views
  have swept :
      ((run (Deployment.step defaultConfig) (Deployment.empty 0)
          (diedOnWatch ++ .trigger relayA .sweepTick :: sweptInVain)).map
        fun after => (after.SweepReturned relayA : Bool)) = some true := by
    decide
  rcases Option.map_eq_some_iff.mp swept with ⟨after, taken, returned⟩
  rw [decide_eq_true_eq] at returned
  rcases run_append_eq_some.mp taken with ⟨middle, toMiddle, sweeps⟩
  rw [reaches] at toMiddle
  cases toMiddle
  exact (sweepAll_attempts_trackedApplications defaultConfig 0 diedOnWatch
    before reaches relayA sweptInVain after ⟨sweeps, by decide⟩).2 returned
      (execConn 0).key views.1 ⟨(execConn 0).key, rfl, views.2⟩

/-- The instance which marked the executor dead stops, and another one starts. -/
def deadLeftBehind : List Activity :=
  diedOnWatch ++ [.crash relayA] ++ boots defaultConfig (60 * second) relayB

/-- The sweep of the new instance tracks nothing and leaves the dead row alone. -/
theorem deadLeftBehind_unswept :
    ∃ before after,
      run (Deployment.step defaultConfig) (Deployment.empty 0)
          deadLeftBehind = some before ∧
        before.HasStatus (execConn 0).key .dead ∧
        SweepRun defaultConfig relayB before
          [.exec relayB (.sweep ⟨true, [], []⟩) .ok] after ∧
        after.SweepReturned relayB ∧
        after.HasStatus (execConn 0).key .dead ∧
        ¬ ∃ activity ∈ [Activity.exec relayB (.sweep ⟨true, [], []⟩) .ok],
          activity.dispatches relayB (execConn 0).key = true := by
  have reached :
      ((run (Deployment.step defaultConfig) (Deployment.empty 0)
          deadLeftBehind).map fun before =>
        (before.HasStatus (execConn 0).key .dead : Bool)) = some true := by
    decide
  have swept :
      ((run (Deployment.step defaultConfig) (Deployment.empty 0)
          (deadLeftBehind ++
            [.trigger relayB .sweepTick,
              .exec relayB (.sweep ⟨true, [], []⟩) .ok])).map fun after =>
        (after.SweepReturned relayB ∧
          after.HasStatus (execConn 0).key .dead : Bool)) = some true := by
    decide
  rcases Option.map_eq_some_iff.mp reached with ⟨before, reaches, isDead⟩
  rcases Option.map_eq_some_iff.mp swept with ⟨after, taken, views⟩
  rw [decide_eq_true_eq] at isDead views
  rcases run_append_eq_some.mp taken with ⟨middle, toMiddle, sweeps⟩
  rw [reaches] at toMiddle
  cases toMiddle
  exact ⟨before, after, reaches, isDead, ⟨sweeps, by decide⟩, views.1,
    views.2, by decide⟩

end DbosRelay.Cluster
