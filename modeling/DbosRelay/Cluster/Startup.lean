import DbosRelay.Cluster.Steps

/-!
# What a restart adopts

`reconcileStartup` of `internal/ha/instance.go` issues `AdoptExpiredExecutors` once
and hands what it returns to the lifecycle manager, one executor after the other.
Then `Start` returns.  In standalone mode nothing adopts an executor afterwards.

The statement leaves out a row whose lease has not run out.  A process which
restarts within the lease of its predecessor's executors therefore never tracks
them.  So an executor left connected is awaited when `Start` returns exactly if its
row could be adopted when the statement ran, and its grace timer has not fired
since.
-/

namespace DbosRelay.Cluster

open DbosRelay.Basic
open DbosRelay.Hub
open DbosRelay.Library.Runs
open DbosRelay.Library.Tables
open DbosRelay.Liveness
open DbosRelay.Store

/-! ## The property -/

/-- The lifecycle manager of an instance has a grace timer armed for an executor. -/
def Deployment.AwaitsGrace (deployment : Deployment) (self : UUID)
    (key : ExecutorKey) : Prop :=
  ∃ exec id, deployment.tracked self key = some exec ∧ exec.Armed id

/--
A step while `Start` runs: no process starts or ends, and `reconcileStartup` is
neither at its statement nor at its end.
-/
def Activity.duringStart : Activity → Bool
  | .start _ => false
  | .crash _ => false
  | .exec _ (.adoption _ (.adopt _)) _ => false
  | .exec _ (.adoption _ (.deliver [])) _ => false
  | _ => true

/-- A grace timer of an executor fires. -/
def Activity.fires (key : ExecutorKey) : Activity → Bool
  | .exec _ (.watcher watcher) reply =>
      watcher.key = key && reply.succeeded
  | _ => false

/--
A process starts after its predecessors have ended.  Its statement is issued and
answered at `adopting`, and `Start` has returned at `started`.
-/
structure Restart (config : Config) (acting : UUID)
    (crashed adopting started : Deployment) (early later : List Activity) :
    Prop where
  stopped : ∀ other, crashed.instances.lookup other = none
  during : ∀ activity ∈ early ++ later, activity.duringStart = true
  starts : ∃ wait, run (Deployment.step config) crashed
    (.advance wait :: .start acting :: early) = some adopting
  returns : ∃ leaseExp reply, run (Deployment.step config) adopting
    (.exec acting (.adoption true (.adopt leaseExp)) .ok ::
      later ++ [.exec acting (.adoption true (.deliver [])) reply]) =
        some started

theorem Activity.fires_eq_true {key : ExecutorKey} {activity : Activity}
    (firing : activity.fires key = true) :
    ∃ self watcher reply, activity = .exec self (.watcher watcher) reply ∧
      watcher.key = key ∧ reply.succeeded = true := by
  unfold Activity.fires at firing
  split at firing
  · rename_i self watcher reply
    rw [Bool.and_eq_true, decide_eq_true_iff] at firing
    exact ⟨self, watcher, reply, rfl, firing⟩
  · cases firing

/-! ## An instance which is starting -/

/-- A goroutine which serves a socket. -/
def Thread.isSocket : Thread → Bool
  | .handshake _ _ => true
  | .teardown _ _ => true
  | .closeExisting _ => true
  | .touchLease _ _ => true
  | _ => false

/-- A phase of `reconcileStartup`, which does not reap. -/
def AdoptionPhase.inStartup : AdoptionPhase → Bool
  | .reap _ => false
  | _ => true

/-- The only instance is at a phase of `reconcileStartup`. -/
structure Starting (deployment : Deployment) (acting : UUID)
    (phase : AdoptionPhase) (relay : Instance) : Prop where
  alone : ∀ other, other ≠ acting → deployment.instances.lookup other = none
  present : deployment.instances.lookup acting = some relay
  startup : phase.inStartup = true
  /-- The server does not listen yet. -/
  unidentified : relay.manager.instanceID = none
  noConns : relay.conns = ∅
  noSockets : ∀ thread ∈ relay.threads, thread.isSocket = false
  reconciling : relay.threads.filter Thread.isAdoption =
    [.adoption true phase]
  timers : TimerInvariant relay.manager

/-- The steps of an instance which is starting. -/
inductive StartingStep (config : Config) (self : UUID) (before : Deployment)
    (relay : Instance) : AdoptionPhase → Activity → Deployment → Instance →
      AdoptionPhase → Prop where
  | waits (phase : AdoptionPhase) (elapsed : Nat) :
      StartingStep config self before relay phase (.advance elapsed)
        { before with now := before.now + elapsed } relay phase
  | sweeps (phase : AdoptionPhase) :
      StartingStep config self before relay phase (.trigger self .sweepTick)
        (before.put self before.executors relay.toMemory
          (.sweep ⟨true, [], relay.manager.deadApps⟩ :: relay.threads))
        { toMemory := relay.toMemory
          threads :=
            .sweep ⟨true, [], relay.manager.deadApps⟩ :: relay.threads }
        phase
  | background (phase : AdoptionPhase) (thread : Thread) (reply : Reply)
      (memory : Memory) (spawned : List Thread)
      (member : thread ∈ relay.threads)
      (elsewhere : thread.isAdoption = false)
      (resumed : thread.resume config self before.now before.executors
        relay.toMemory reply = some (memory, spawned)) :
      StartingStep config self before relay phase (.exec self thread reply)
        (before.put self
          (thread.write self before.now before.executors reply) memory
          (spawned ++ relay.threads.erase thread))
        { toMemory := memory
          threads := spawned ++ relay.threads.erase thread }
        phase
  | delivers (key : ExecutorKey) (version : String)
      (rest : List (ExecutorKey × String)) (reply : Reply)
      (adopted : Manager × Watcher)
      (adopts : adopted =
        relay.manager.adoptDisconnected before.now
          (timeoutFor config reply key.appID) key version) :
      StartingStep config self before relay (.deliver ((key, version) :: rest))
        (.exec self (.adoption true (.deliver ((key, version) :: rest))) reply)
        (before.put self before.executors
          { relay.toMemory with manager := adopted.1 }
          ([.adoption true (.deliver rest), .watcher adopted.2] ++
            relay.threads.erase
              (.adoption true (.deliver ((key, version) :: rest)))))
        { toMemory := { relay.toMemory with manager := adopted.1 }
          threads :=
            [.adoption true (.deliver rest), .watcher adopted.2] ++
              relay.threads.erase
                (.adoption true (.deliver ((key, version) :: rest))) }
        (.deliver rest)

/-- Only the return of `Start` tells the lifecycle manager its instance. -/
theorem ManagerChange.instanceID_eq {config : Config} {self : UUID}
    {now : Time} {manager after : Manager} {reply : Reply} {thread : Thread}
    (change : ManagerChange config self now manager reply thread after)
    (elsewhere : thread.isAdoption = false) (noSocket : thread.isSocket = false) :
    after.instanceID = manager.instanceID := by
  cases change with
  | unchanged => rfl
  | onConnect conn => cases noSocket
  | onDisconnect conn => cases noSocket
  | adoptDisconnected startup key version rest => cases elsewhere
  | watchGracePeriod watcher due =>
      rcases manager.watchGracePeriod_cases watcher with same | ⟨exec, -, -, -, fired⟩
      · rw [same]
      · rw [fired]
        rfl
  | evict key version => rfl
  | delete reqID key version caller => rfl
  | recoveryFailed reqID key version phase caller =>
      rw [Manager.recoveryFailed]
      split
      · rfl
      · dsimp only
        split <;> rfl
  | identified => cases elsewhere

/-- Without connections no goroutine but those of sockets makes one. -/
theorem ConnsChange.eq_empty {now : Time}
    {conns after : Table ExecutorConn ConnState} {thread : Thread}
    (change : ConnsChange now conns thread after) (empty : conns = ∅)
    (noSocket : thread.isSocket = false) : after = ∅ := by
  cases change with
  | unchanged => exact empty
  | register conn => cases noSocket
  | onConnect conn => cases noSocket
  | renew conn renewalExpires => cases noSocket
  | close conn state notRegistering present =>
      rw [empty] at present
      cases present

/-- Goroutines of sockets come from those of sockets, or from a connection. -/
theorem Spawned.isSocket_eq_false {config : Config} {self : UUID} {now : Time}
    {table : ExecutorTable} {memory : Memory} {reply : Reply}
    {thread next : Thread}
    (follows : Spawned config self now table memory reply thread next)
    (empty : memory.conns = ∅) (noSocket : thread.isSocket = false) :
    next.isSocket = false := by
  cases follows with
  | closed thread conn state present isOpen =>
      rw [empty] at present
      cases present
  | upserted => cases noSocket
  | registered => cases noSocket
  | replaced => cases noSocket
  | unregistered => cases noSocket
  | disconnected => cases noSocket
  | _ => rfl

/-- Goroutines of adoptions come from such only. -/
theorem Spawned.isAdoption_eq_false {config : Config} {self : UUID}
    {now : Time} {table : ExecutorTable} {memory : Memory} {reply : Reply}
    {thread next : Thread}
    (follows : Spawned config self now table memory reply thread next)
    (elsewhere : thread.isAdoption = false) : next.isAdoption = false := by
  cases follows with
  | adopted => cases elsewhere
  | delivered => cases elsewhere
  | reaping => cases elsewhere
  | _ => rfl

namespace Starting

variable {config : Config} {self : UUID} {phase : AdoptionPhase}
variable {before after : Deployment} {relay : Instance} {activity : Activity}

theorem adoption_mem (starting : Starting before self phase relay) :
    .adoption true phase ∈ relay.threads := by
  have filtered : .adoption true phase ∈
      relay.threads.filter Thread.isAdoption := by
    rw [starting.reconciling]
    exact List.mem_singleton_self _
  exact List.mem_of_mem_filter filtered

/-- Every goroutine of an adoption is the one of `reconcileStartup`. -/
theorem eq_of_isAdoption (starting : Starting before self phase relay)
    {thread : Thread} (member : thread ∈ relay.threads)
    (adopts : thread.isAdoption = true) : thread = .adoption true phase := by
  have filtered : thread ∈ relay.threads.filter Thread.isAdoption :=
    List.mem_filter.mpr ⟨member, adopts⟩
  rw [starting.reconciling] at filtered
  exact List.mem_singleton.mp filtered

theorem self_of_lookup (starting : Starting before self phase relay)
    {acting : UUID} {other : Instance}
    (found : before.instances.lookup acting = some other) :
    acting = self ∧ other = relay := by
  by_cases same : acting = self
  · subst same
    exact ⟨rfl, Option.some.inj (found.symm.trans starting.present)⟩
  · rw [starting.alone acting same] at found
    cases found

/-- Until `Start` returns only the ticker of the sweep reaches an instance. -/
theorem fire_eq_some (starting : Starting before self phase relay)
    {trigger : Trigger} {memory : Memory} {spawned : List Thread}
    (fired : trigger.fire config self before.now relay =
      some (memory, spawned)) :
    trigger = .sweepTick ∧ memory = relay.toMemory ∧
      spawned = [.sweep ⟨true, [], relay.manager.deadApps⟩] := by
  have notPumping : ∀ conn, relay.pumping conn = false := by
    intro conn
    rw [Memory.pumping, starting.noConns]
    rfl
  cases trigger with
  | accept key applicationVersion =>
      rw [Trigger.fire, starting.unidentified, if_neg (by simp)] at fired
      cases fired
  | hangup conn =>
      rw [Trigger.fire, notPumping, if_neg (by simp)] at fired
      cases fired
  | heartbeat conn =>
      rw [Trigger.fire, notPumping, if_neg (by simp)] at fired
      cases fired
  | adoptionTick =>
      rw [Trigger.fire] at fired
      split_ifs at fired with ticks
      have adopts := List.all_eq_true.mp ticks.2 _ starting.adoption_mem
      cases adopts
  | sweepTick =>
      rw [Trigger.fire] at fired
      split_ifs at fired
      cases fired
      exact ⟨rfl, rfl, rfl⟩

/-- What a step does while `Start` runs. -/
theorem startingStep (starting : Starting before self phase relay)
    (during : activity.duringStart = true)
    (taken : before.step config activity = some after) :
    ∃ nextRelay nextPhase, StartingStep config self before relay phase activity
      after nextRelay nextPhase := by
  cases activity with
  | advance elapsed =>
      cases taken
      exact ⟨relay, phase, .waits phase elapsed⟩
  | start acting => cases during
  | crash acting => cases during
  | trigger acting trigger =>
      simp only [Deployment.step] at taken
      split at taken
      · cases taken
      · rename_i other found
        obtain ⟨rfl, rfl⟩ := starting.self_of_lookup found
        obtain ⟨⟨memory, spawned⟩, fired, rfl⟩ :=
          Option.map_eq_some_iff.mp taken
        obtain ⟨rfl, rfl, rfl⟩ := starting.fire_eq_some fired
        exact ⟨_, phase, .sweeps phase⟩
  | exec acting thread reply =>
      obtain ⟨other, memory, spawned, found, member, resumed, rfl⟩ :=
        step_exec_eq_some taken
      obtain ⟨rfl, rfl⟩ := starting.self_of_lookup found
      cases adopts : thread.isAdoption with
      | false =>
          exact ⟨_, phase, .background phase thread reply memory spawned member
            adopts resumed⟩
      | true =>
          cases starting.eq_of_isAdoption member adopts
          cases phase with
          | adopt leaseExp => cases during
          | deliver pending =>
              cases pending with
              | nil => cases during
              | cons head rest =>
                  obtain ⟨key, version⟩ := head
                  cases resumed
                  exact ⟨_, _, .delivers key version rest reply _ rfl⟩
          | reap graceCutoff => cases starting.startup

/-- The instance is still starting after the step of a goroutine. -/
theorem resumed {thread : Thread} {spawned : List Thread} {memory : Memory}
    {table : ExecutorTable} {nextPhase : AdoptionPhase}
    (starting : Starting before self phase relay)
    (startup : nextPhase.inStartup = true)
    (unidentified : memory.manager.instanceID = none)
    (noConns : memory.conns = ∅) (timers : TimerInvariant memory.manager)
    (noSockets : ∀ next ∈ spawned, next.isSocket = false)
    (reconciling : spawned.filter Thread.isAdoption ++
      [Thread.adoption true phase].erase thread =
        [.adoption true nextPhase]) :
    Starting
      (before.put self table memory (spawned ++ relay.threads.erase thread))
      self nextPhase
      { toMemory := memory
        threads := spawned ++ relay.threads.erase thread } where
  alone := by
    intro other different
    rw [Deployment.lookup_put, if_neg different]
    exact starting.alone other different
  present := by rw [Deployment.lookup_put, if_pos rfl]
  startup := startup
  unidentified := unidentified
  noConns := noConns
  noSockets := by
    intro next among
    rcases List.mem_append.mp among with new | old
    · exact noSockets next new
    · exact starting.noSockets next (List.mem_of_mem_erase old)
  reconciling := by
    rw [List.filter_append, ← List.erase_filter, starting.reconciling]
    exact reconciling
  timers := timers

/-- It keeps the instance starting. -/
theorem step {nextRelay : Instance} {nextPhase : AdoptionPhase}
    (starting : Starting before self phase relay)
    (stepped : StartingStep config self before relay phase activity after
      nextRelay nextPhase) :
    Starting after self nextPhase nextRelay := by
  cases stepped with
  | waits phase elapsed => exact { starting with }
  | sweeps phase =>
      exact
        { starting with
          alone := by
            intro other different
            rw [Deployment.lookup_put, if_neg different]
            exact starting.alone other different
          present := by rw [Deployment.lookup_put, if_pos rfl]
          noSockets := List.forall_mem_cons.mpr ⟨rfl, starting.noSockets⟩
          reconciling := starting.reconciling }
  | background phase thread reply memory spawned member elsewhere resumed =>
      have effects := Effects.of_resume resumed
      have noSocket := starting.noSockets thread member
      apply starting.resumed starting.startup
      · exact (effects.manager.instanceID_eq elsewhere noSocket).trans
          starting.unidentified
      · exact effects.conns.eq_empty starting.noConns noSocket
      · exact effects.manager.timerInvariant starting.timers
      · intro next new
        exact (effects.spawned next new).isSocket_eq_false starting.noConns
          noSocket
      · have none : spawned.filter Thread.isAdoption = [] := by
          rw [List.filter_eq_nil_iff]
          intro next new adopts
          rw [(effects.spawned next new).isAdoption_eq_false elsewhere]
            at adopts
          cases adopts
        have different : thread ≠ .adoption true phase := by
          rintro rfl
          cases elsewhere
        rw [none, List.nil_append]
        exact List.erase_of_not_mem (by simpa using different)
  | delivers key version rest reply adopted adopts =>
      subst adopts
      apply starting.resumed rfl
      · exact (Manager.instanceID_adoptDisconnected ..).trans
          starting.unidentified
      · exact starting.noConns
      · exact starting.timers.adoptDisconnected before.now _ key version
      · intro next new
        simp only [List.mem_cons, List.not_mem_nil, or_false] at new
        rcases new with rfl | rfl
        · rfl
        · rfl
      · rw [List.erase_cons_head]
        rfl

end Starting

theorem Starting.run {config : Config} {self : UUID} {phase : AdoptionPhase}
    {before after : Deployment} {relay : Instance} {labels : List Activity}
    (starting : Starting before self phase relay)
    (during : ∀ activity ∈ labels, activity.duringStart = true)
    (taken : run (Deployment.step config) before labels = some after) :
    ∃ phase relay, Starting after self phase relay := by
  refine run_invariant_within
    (fun deployment => ∃ phase relay, Starting deployment self phase relay)
    ?_ during taken ⟨phase, relay, starting⟩
  rintro before after activity during taken ⟨phase, relay, starting⟩
  obtain ⟨_, _, stepped⟩ := starting.startingStep during taken
  exact ⟨_, _, starting.step stepped⟩

/-! ## An executor which is left alone -/

/-- A goroutine which has decided that an executor is dead. -/
def Thread.hunts (key : ExecutorKey) : Thread → Bool
  | .expiry target _ _ => target = key
  | .graceLoop target _ _ _ => target = key
  | .recovery _ target _ _ (.grace _) => target = key
  | .recovery _ target _ _ (.sweep rest) =>
      target = key || rest.rows.any fun row => row.1 = key
  | .sweep running => running.rows.any fun row => row.1 = key
  | _ => false

/-- An executor is hunted once its timer has fired or its row is dead. -/
theorem Spawned.hunts {config : Config} {self : UUID} {now : Time}
    {table : ExecutorTable} {memory : Memory} {reply : Reply}
    {thread next : Thread} {key : ExecutorKey}
    (follows : Spawned config self now table memory reply thread next)
    (hunting : next.hunts key = true) :
    thread.hunts key = true ∨
      (∃ watcher, thread = .watcher watcher ∧ watcher.key = key) ∨
      ∃ row, table.lookup key = some row ∧ row.status = .dead := by
  cases follows with
  | expired watcher action due fired =>
      exact .inr (.inl ⟨watcher, rfl, of_decide_eq_true hunting⟩)
  | listed periodic appID apps rows dead =>
      obtain ⟨⟨listed, version⟩, among, same⟩ := List.any_eq_true.mp hunting
      cases of_decide_eq_true same
      exact .inr (.inr (dead _ _ among))
  | foreign => exact .inl hunting
  | unguarded => exact .inl hunting
  | markedDead => exact .inl hunting
  | attempted => exact .inl hunting
  | confirmed reqID target version caller acknowledged =>
      cases caller <;> exact .inl hunting
  | deleting reqID target version caller =>
      cases caller <;> exact .inl hunting
  | retried => exact .inl hunting
  | returned reqID target version phase rest =>
      left
      rw [Thread.hunts, Bool.or_eq_true]
      exact .inr hunting
  | swept periodic target version rows apps =>
      left
      simpa [Thread.hunts] using hunting
  | skipped periodic target version rows apps =>
      left
      rw [Thread.hunts, List.any_cons, Bool.or_eq_true]
      exact .inr hunting
  | _ => cases hunting

/-- Only a goroutine which hunts an executor writes to its row. -/
theorem Thread.lookup_write_eq {self : UUID} {now : Time}
    {table : ExecutorTable} {reply : Reply} {thread : Thread}
    {key : ExecutorKey} (noSocket : thread.isSocket = false)
    (elsewhere : thread.isAdoption = false)
    (quiet : thread.hunts key = false) :
    (thread.write self now table reply).lookup key = table.lookup key := by
  have other : ∀ {statement : Statement},
      thread.statement self = some statement →
        (statement.run now table).lookup key = table.lookup key := by
    intro statement issued
    rw [lookup_run]
    cases thread with
    | handshake conn phase => cases noSocket
    | teardown conn phase => cases noSocket
    | closeExisting conn => cases noSocket
    | touchLease conn renewalExpires => cases noSocket
    | watcher armed => cases issued
    | expiry target version phase =>
        cases phase with
        | lookup => cases issued
        | evict => cases issued
        | markDead =>
            cases issued
            exact if_neg (Ne.symm (of_decide_eq_false quiet))
    | graceLoop target version attempt wakeAt => cases issued
    | recovery reqID target version phase caller =>
        have different : target ≠ key := by
          rintro rfl
          cases caller <;> simp [Thread.hunts] at quiet
        cases phase with
        | awaiting => cases issued
        | deleteTracked => cases issued
        | deleteRow =>
            cases issued
            exact if_neg (Ne.symm different)
    | sweep running => cases issued
    | adoption startup phase => cases elsewhere
  rw [Thread.write]
  split
  · rfl
  · rename_i statement issued
    split_ifs
    · exact other issued
    · rfl

/-! ## Executors which are adopted -/

/-- An adopted executor is still to be delivered, or its grace timer is armed. -/
inductive Adoptee (relay : Instance) (key : ExecutorKey)
    (pending : List (ExecutorKey × String)) : Prop where
  | pending (among : key ∈ pending.map Prod.fst)
      (untracked : relay.manager.executors.lookup key = none)
      (unwatched : ∀ watcher, .watcher watcher ∈ relay.threads →
        watcher.key ≠ key)
  | armed (exec : TrackedExecutor) (id : Nat)
      (delivered : key ∉ pending.map Prod.fst)
      (tracked : relay.manager.executors.lookup key = some exec)
      (armed : exec.Armed id)
      (watched : ∀ watcher, .watcher watcher ∈ relay.threads →
        watcher.key = key → watcher.timer = id)

/-- The executor has been adopted and its timer has not fired. -/
structure Adopted (deployment : Deployment) (acting : UUID)
    (key : ExecutorKey) (pending : List (ExecutorKey × String))
    (relay : Instance) : Prop where
  starting : Starting deployment acting (.deliver pending) relay
  distinct : (pending.map Prod.fst).Nodup
  connected : deployment.HasStatus key .connected
  quiet : ∀ thread ∈ relay.threads, thread.hunts key = false
  adoptee : Adoptee relay key pending

/-- The executor is not awaited and not to be delivered. -/
structure Unawaited (deployment : Deployment) (acting : UUID)
    (key : ExecutorKey) (pending : List (ExecutorKey × String))
    (relay : Instance) : Prop where
  starting : Starting deployment acting (.deliver pending) relay
  skipped : key ∉ pending.map Prod.fst
  notDisconnected : ∀ exec, relay.manager.executors.lookup key = some exec →
    exec.state ≠ .disconnected

section Adoption

variable {config : Config} {self : UUID} {key : ExecutorKey}
variable {pending : List (ExecutorKey × String)}
variable {before after : Deployment} {relay : Instance} {activity : Activity}

/-- A watcher whose timer does not fire ends without effect. -/
theorem resume_of_notFiring {thread : Thread} {reply : Reply} {memory : Memory}
    {spawned : List Thread} {watcher : Watcher}
    (watches : thread = .watcher watcher) (sameKey : watcher.key = key)
    (resumed : thread.resume config self before.now before.executors
      relay.toMemory reply = some (memory, spawned))
    (notFiring : (Activity.exec self thread reply).fires key = false) :
    memory = relay.toMemory ∧ spawned = [] := by
  subst watches
  have cancelled : reply.succeeded = false := by
    simpa [Activity.fires, sameKey] using notFiring
  rw [Thread.resume, cancelled, if_neg (by simp)] at resumed
  split_ifs at resumed
  cases resumed
  exact ⟨rfl, rfl⟩

/-- What a goroutine which does not hunt an executor leaves of its entry. -/
theorem Starting.lookup_eq {phase : AdoptionPhase}
    (starting : Starting before self phase relay)
    {thread : Thread} {reply : Reply} {memory : Memory}
    {spawned : List Thread} (member : thread ∈ relay.threads)
    (elsewhere : thread.isAdoption = false)
    (resumed : thread.resume config self before.now before.executors
      relay.toMemory reply = some (memory, spawned))
    (quiet : thread.hunts key = false)
    (notFiring : (Activity.exec self thread reply).fires key = false) :
    memory.manager.executors.lookup key =
      relay.manager.executors.lookup key := by
  have effects := Effects.of_resume resumed
  have noSocket := starting.noSockets thread member
  by_cases watched : ∃ watcher, thread = .watcher watcher ∧ watcher.key = key
  · obtain ⟨watcher, watches, sameKey⟩ := watched
    rw [(resume_of_notFiring watches sameKey resumed notFiring).1]
  rcases effects.manager.tracked starting.timers key with kept | change
  · exact kept
  generalize memory.manager.executors.lookup key = entry at change
  cases change with
  | connected conn exec => cases noSocket
  | disconnected conn exec => cases noSocket
  | adopted startup version rest exec armed => cases elsewhere
  | expired watcher exec sameKey due present recorded isDisconnected =>
      exact absurd ⟨watcher, rfl, sameKey⟩ watched
  | evicted version => simp [Thread.hunts] at quiet
  | deleted reqID version caller =>
      cases caller <;> simp [Thread.hunts] at quiet

/-- Only the delivery of an executor starts a watcher. -/
theorem Starting.not_watcher_mem {phase : AdoptionPhase}
    (starting : Starting before self phase relay)
    {thread : Thread} {reply : Reply} {memory : Memory}
    {spawned : List Thread} (member : thread ∈ relay.threads)
    (elsewhere : thread.isAdoption = false)
    (resumed : thread.resume config self before.now before.executors
      relay.toMemory reply = some (memory, spawned)) (watcher : Watcher) :
    .watcher watcher ∉ spawned := by
  intro new
  have noSocket := starting.noSockets thread member
  have follows := (Effects.of_resume resumed).spawned _ new
  cases follows with
  | armed conn => cases noSocket
  | adoptionArmed => cases elsewhere

/-- An adoptee stays one while its threads and its entry stay. -/
theorem Adoptee.congr {next : Instance} (adoptee : Adoptee relay key pending)
    (sameEntry : next.manager.executors.lookup key =
      relay.manager.executors.lookup key)
    (oldWatchers : ∀ watcher, .watcher watcher ∈ next.threads →
      watcher.key = key → .watcher watcher ∈ relay.threads) :
    Adoptee next key pending := by
  cases adoptee with
  | pending among untracked unwatched =>
      refine .pending among (sameEntry.trans untracked) ?_
      intro watcher member sameKey
      exact unwatched watcher (oldWatchers watcher member sameKey) sameKey
  | armed exec id delivered tracked armed watched =>
      refine .armed exec id delivered (sameEntry.trans tracked) armed ?_
      intro watcher member sameKey
      exact watched watcher (oldWatchers watcher member sameKey) sameKey

/-- The delivery of the next executor. -/
theorem Adoptee.deliver {next : Instance} {head : ExecutorKey}
    {version : String} {rest : List (ExecutorKey × String)} {now : Time}
    {timeout : Duration} {watcher : Watcher}
    (adoptee : Adoptee relay key ((head, version) :: rest))
    (distinct : (((head, version) :: rest).map Prod.fst).Nodup)
    (arms : relay.manager.Arms now timeout head next.manager watcher)
    (others : ∀ other, other ≠ head →
      next.manager.executors.lookup other =
        relay.manager.executors.lookup other)
    (watchers : ∀ other, .watcher other ∈ next.threads →
      other = watcher ∨ .watcher other ∈ relay.threads) :
    Adoptee next key rest := by
  rw [List.map_cons, List.nodup_cons] at distinct
  cases adoptee with
  | pending among untracked unwatched =>
      by_cases first : key = head
      · subst first
        obtain ⟨exec, tracked, armed⟩ := arms.entry
        refine .armed exec _ distinct.1 tracked armed ?_
        intro other member sameKey
        rcases watchers other member with rfl | old
        · exact arms.watchedTimer
        · exact absurd sameKey (unwatched other old)
      · refine .pending ?_ ((others key first).trans untracked) ?_
        · exact (List.mem_cons.mp among).resolve_left first
        · intro other member
          rcases watchers other member with rfl | old
          · rw [arms.watchedKey]
            exact Ne.symm first
          · exact unwatched other old
  | armed exec id delivered tracked armed watched =>
      rw [List.map_cons, List.mem_cons, not_or] at delivered
      refine .armed exec id delivered.2
        ((others key delivered.1).trans tracked) armed ?_
      intro other member sameKey
      rcases watchers other member with rfl | old
      · exact absurd (arms.watchedKey.symm.trans sameKey).symm delivered.1
      · exact watched other old sameKey

/-- While the row is connected and no timer fires, nobody starts to hunt. -/
theorem Adopted.not_hunts (adopted : Adopted before self key pending relay)
    {thread next : Thread} {reply : Reply} {memory : Memory}
    {spawned : List Thread} (member : thread ∈ relay.threads)
    (resumed : thread.resume config self before.now before.executors
      relay.toMemory reply = some (memory, spawned))
    (notFiring : (Activity.exec self thread reply).fires key = false)
    (new : next ∈ spawned) : next.hunts key = false := by
  rw [Bool.eq_false_iff]
  intro hunting
  rcases ((Effects.of_resume resumed).spawned next new).hunts hunting with
    old | ⟨watcher, watches, sameKey⟩ | ⟨row, present, isDead⟩
  · rw [adopted.quiet thread member] at old
    cases old
  · rw [(resume_of_notFiring watches sameKey resumed notFiring).2] at new
    cases new
  · obtain ⟨connectedRow, found, isConnected⟩ := adopted.connected
    have same : connectedRow = row :=
      Option.some.inj (Eq.trans (Eq.symm found) present)
    rw [same, isDead] at isConnected
    cases isConnected

/-- An adopted executor stays adopted until its timer fires. -/
theorem Adopted.step (adopted : Adopted before self key pending relay)
    (during : activity.duringStart = true)
    (notFiring : activity.fires key = false)
    (taken : before.step config activity = some after) :
    ∃ rest next, Adopted after self key rest next := by
  obtain ⟨next, phase, stepped⟩ := adopted.starting.startingStep during taken
  have starting := adopted.starting.step stepped
  generalize delivering : AdoptionPhase.deliver pending = current at stepped
  cases stepped with
  | waits _ elapsed =>
      subst delivering
      exact ⟨pending, relay, { adopted with starting := starting }⟩
  | sweeps _ =>
      subst delivering
      refine ⟨pending, _, starting, adopted.distinct, adopted.connected, ?_, ?_⟩
      · exact List.forall_mem_cons.mpr ⟨rfl, adopted.quiet⟩
      · refine adopted.adoptee.congr rfl ?_
        intro watcher member _
        exact (List.mem_cons.mp member).resolve_left (by nofun)
  | background _ thread reply memory spawned member elsewhere resumed =>
      subst delivering
      have quiet := adopted.quiet thread member
      have noSocket := adopted.starting.noSockets thread member
      refine ⟨pending, _, starting, adopted.distinct, ?_, ?_, ?_⟩
      · obtain ⟨row, present, isConnected⟩ := adopted.connected
        refine ⟨row, ?_, isConnected⟩
        exact (Thread.lookup_write_eq noSocket elsewhere quiet).trans present
      · intro other among
        rcases List.mem_append.mp among with new | old
        · exact adopted.not_hunts member resumed notFiring new
        · exact adopted.quiet other (List.mem_of_mem_erase old)
      · refine adopted.adoptee.congr ?_ ?_
        · exact adopted.starting.lookup_eq member elsewhere resumed quiet
            notFiring
        · intro watcher among _
          rcases List.mem_append.mp among with new | old
          · exact absurd new (adopted.starting.not_watcher_mem member elsewhere
              resumed watcher)
          · exact List.mem_of_mem_erase old
  | delivers head version rest reply arming arms =>
      cases delivering
      subst arms
      refine ⟨rest, _, starting, (List.nodup_cons.mp adopted.distinct).2,
        adopted.connected, ?_, ?_⟩
      · intro other among
        rcases List.mem_append.mp among with new | old
        · simp only [List.mem_cons, List.not_mem_nil, or_false] at new
          rcases new with rfl | rfl
          · rfl
          · rfl
        · exact adopted.quiet other (List.mem_of_mem_erase old)
      · refine adopted.adoptee.deliver adopted.distinct
          (Manager.arms_adoptDisconnected ..) ?_ ?_
        · intro other different
          exact Manager.lookup_adoptDisconnected_of_ne _ _ _ different
        · intro other among
          rcases List.mem_append.mp among with new | old
          · simp only [List.mem_cons, List.not_mem_nil, or_false,
              reduceCtorEq, false_or, Thread.watcher.injEq] at new
            exact .inl new
          · exact .inr (List.mem_of_mem_erase old)

/-- Then it is dead, and not awaited any more. -/
theorem Adopted.fires (adopted : Adopted before self key pending relay)
    (firing : activity.fires key = true)
    (taken : before.step config activity = some after) :
    ∃ rest next, Unawaited after self key rest next := by
  obtain ⟨acting, watcher, reply, rfl, rfl, succeeded⟩ :=
    Activity.fires_eq_true firing
  obtain ⟨next, phase, stepped⟩ := adopted.starting.startingStep rfl taken
  have starting := adopted.starting.step stepped
  cases stepped with
  | background _ _ _ memory spawned member elsewhere resumed =>
      cases adopted.adoptee with
      | pending among untracked unwatched =>
          exact absurd rfl (unwatched watcher member)
      | armed exec id delivered tracked armed watched =>
          have recorded : exec.timer = some watcher.timer := by
            rw [watched watcher member rfl, armed.timer]
          rw [Thread.resume, succeeded, if_pos rfl] at resumed
          split_ifs at resumed
          cases resumed
          refine ⟨pending, _, starting, delivered, ?_⟩
          intro dead found
          change (relay.manager.watchGracePeriod watcher).1.executors.lookup _ =
            _ at found
          rw [Manager.watchGracePeriod_of_recorded tracked recorded armed.state,
            Manager.lookup_store, if_pos rfl] at found
          cases found
          rintro ⟨⟩

/-- An executor which is not awaited stays so while `Start` runs. -/
theorem Unawaited.step (unawaited : Unawaited before self key pending relay)
    (during : activity.duringStart = true)
    (taken : before.step config activity = some after) :
    ∃ rest next, Unawaited after self key rest next := by
  obtain ⟨next, phase, stepped⟩ := unawaited.starting.startingStep during taken
  have starting := unawaited.starting.step stepped
  generalize delivering : AdoptionPhase.deliver pending = current at stepped
  cases stepped with
  | waits _ elapsed =>
      subst delivering
      exact ⟨pending, relay, { unawaited with starting := starting }⟩
  | sweeps _ =>
      subst delivering
      exact ⟨pending, _, starting, unawaited.skipped, unawaited.notDisconnected⟩
  | background _ thread reply memory spawned member elsewhere resumed =>
      subst delivering
      refine ⟨pending, _, starting, unawaited.skipped, ?_⟩
      intro exec found
      have noSocket := unawaited.starting.noSockets thread member
      have change := (Effects.of_resume resumed).manager.tracked
        unawaited.starting.timers key
      rcases change with kept | change
      · exact unawaited.notDisconnected exec (kept.symm.trans found)
      · rw [show memory.manager.executors.lookup key = some exec from found]
          at change
        cases change with
        | connected conn => cases noSocket
        | disconnected conn => cases noSocket
        | adopted => cases elsewhere
        | expired => nofun
  | delivers head version rest reply arming arms =>
      cases delivering
      subst arms
      have skipped := unawaited.skipped
      rw [List.map_cons, List.mem_cons, not_or] at skipped
      refine ⟨rest, _, starting, skipped.2, ?_⟩
      intro exec found
      apply unawaited.notDisconnected exec
      exact (Manager.lookup_adoptDisconnected_of_ne _ _ _
        skipped.1).symm.trans found

theorem Unawaited.run {later : List Activity}
    (unawaited : Unawaited before self key pending relay)
    (during : ∀ activity ∈ later, activity.duringStart = true)
    (taken : run (Deployment.step config) before later = some after) :
    ∃ rest next, Unawaited after self key rest next := by
  refine run_invariant_within
    (fun deployment => ∃ rest next, Unawaited deployment self key rest next)
    ?_ during taken ⟨pending, relay, unawaited⟩
  rintro before after activity during taken ⟨_, _, unawaited⟩
  exact unawaited.step during taken

/-- Whether an adopted executor is awaited depends on its timer alone. -/
theorem Adopted.run {later : List Activity}
    (adopted : Adopted before self key pending relay)
    (during : ∀ activity ∈ later, activity.duringStart = true)
    (taken : run (Deployment.step config) before later = some after) :
    ((∀ activity ∈ later, activity.fires key = false) ∧
        ∃ rest next, Adopted after self key rest next) ∨
      ((¬ ∀ activity ∈ later, activity.fires key = false) ∧
        ∃ rest next, Unawaited after self key rest next) := by
  induction later generalizing before pending relay with
  | nil =>
      cases taken
      exact .inl ⟨List.forall_mem_nil _, pending, relay, adopted⟩
  | cons activity later induction =>
      rw [List.forall_mem_cons] at during
      obtain ⟨middle, stepped, rest⟩ := run_cons_eq_some.mp taken
      cases firing : activity.fires key with
      | true =>
          obtain ⟨_, _, unawaited⟩ := adopted.fires firing stepped
          refine .inr ⟨?_, unawaited.run during.2 rest⟩
          intro never
          rw [never activity (List.mem_cons_self ..)] at firing
          cases firing
      | false =>
          obtain ⟨_, _, adopted⟩ := adopted.step during.1 firing stepped
          simp only [List.forall_mem_cons, firing, true_and]
          exact induction adopted during.2 rest

end Adoption

/-! ## The statement -/

/-- Nothing has happened but the start of the instance. -/
structure Untouched (deployment : Deployment) (acting : UUID)
    (table : ExecutorTable) (leaseExp : Time) (relay : Instance) : Prop where
  starting : Starting deployment acting (.adopt leaseExp) relay
  executors : deployment.executors = table
  untracked : relay.manager.executors = ∅
  idle : ∀ thread ∈ relay.threads, thread.isAdoption = false →
    ∃ periodic, thread = .sweep ⟨periodic, [], []⟩

section Statement

variable {config : Config} {self : UUID} {table : ExecutorTable}
variable {leaseExp : Time} {before after : Deployment} {relay : Instance}

theorem untouched_start
    (stopped : ∀ other, before.instances.lookup other = none)
    (taken : before.step config (.start self) = some after) :
    ∃ leaseExp relay,
      Untouched after self before.executors leaseExp relay := by
  cases takes_of_step taken with
  | start _ absent =>
      refine ⟨before.now + config.leaseDuration,
        newInstance config before.now, ?_, rfl, rfl, ?_⟩
      · exact
          { alone := by
              intro other different
              rw [lookup_insert_eq, if_neg different]
              exact stopped other
            present := by rw [lookup_insert_eq, if_pos rfl]
            startup := rfl
            unidentified := rfl
            noConns := rfl
            noSockets := by simp [newInstance, Thread.isSocket]
            reconciling := rfl
            timers := timerInvariant_newManager }
      · simp [newInstance, Thread.isAdoption]

theorem Untouched.step {activity : Activity}
    (untouched : Untouched before self table leaseExp relay)
    (during : activity.duringStart = true)
    (taken : before.step config activity = some after) :
    ∃ next, Untouched after self table leaseExp next := by
  obtain ⟨next, phase, stepped⟩ := untouched.starting.startingStep during taken
  have starting := untouched.starting.step stepped
  generalize waiting : AdoptionPhase.adopt leaseExp = current at stepped
  cases stepped with
  | waits _ elapsed =>
      subst waiting
      exact ⟨relay, { untouched with starting := starting }⟩
  | sweeps _ =>
      subst waiting
      refine ⟨_, starting, untouched.executors, untouched.untracked, ?_⟩
      refine List.forall_mem_cons.mpr ⟨fun _ => ⟨true, ?_⟩, untouched.idle⟩
      rw [Manager.deadApps, untouched.untracked]
      rfl
  | background _ thread reply memory spawned member elsewhere resumed =>
      subst waiting
      obtain ⟨periodic, rfl⟩ := untouched.idle thread member elsewhere
      cases resumed
      refine ⟨_, starting, untouched.executors, untouched.untracked, ?_⟩
      intro other among
      exact untouched.idle other (List.mem_of_mem_erase among)
  | delivers => cases waiting

theorem Untouched.run {early : List Activity}
    (untouched : Untouched before self table leaseExp relay)
    (during : ∀ activity ∈ early, activity.duringStart = true)
    (taken : run (Deployment.step config) before early = some after) :
    ∃ next, Untouched after self table leaseExp next := by
  refine run_invariant_within
    (fun deployment => ∃ next, Untouched deployment self table leaseExp next)
    ?_ during taken ⟨relay, untouched⟩
  rintro before after activity during taken ⟨_, untouched⟩
  exact untouched.step during taken

/-- The statement returns what can be adopted. -/
theorem Untouched.adopts {issued : Time}
    (untouched : Untouched before self table leaseExp relay)
    (taken : before.step config
      (.exec self (.adoption true (.adopt issued)) .ok) = some after) :
    ∃ next,
      Starting after self
          (.deliver (adoptedExecutors table before.now self)) next ∧
        next.manager.executors = ∅ ∧
        (∀ thread ∈ next.threads, thread.isAdoption = false →
          ∃ periodic, thread = .sweep ⟨periodic, [], []⟩) ∧
        after.executors =
          adoptExpiredExecutors table before.now self (some leaseExp) := by
  obtain ⟨other, memory, spawned, found, member, resumed, rfl⟩ :=
    step_exec_eq_some taken
  obtain ⟨-, rfl⟩ := untouched.starting.self_of_lookup found
  cases untouched.starting.eq_of_isAdoption member rfl
  cases resumed
  have starting := untouched.starting
  rw [untouched.executors]
  refine
    ⟨{ toMemory := other.toMemory
       threads :=
        [.adoption true (.deliver (adoptedExecutors table before.now self))] ++
          other.threads.erase (.adoption true (.adopt leaseExp)) },
      ?_, untouched.untracked, ?_, rfl⟩
  · apply starting.resumed rfl starting.unidentified starting.noConns
      starting.timers
    · intro thread new
      cases List.mem_singleton.mp new
      rfl
    · rw [List.erase_cons_head]
      rfl
  · intro thread among elsewhere
    rcases List.mem_cons.mp among with rfl | old
    · cases elsewhere
    · exact untouched.idle thread (List.mem_of_mem_erase old) elsewhere

/-- An executor is adopted exactly if its row can be. -/
theorem Untouched.adopted_or_unawaited {issued : Time} {key : ExecutorKey}
    {row : Executor} (untouched : Untouched before self table leaseExp relay)
    (taken : before.step config
      (.exec self (.adoption true (.adopt issued)) .ok) = some after)
    (present : table.lookup key = some row)
    (isConnected : row.status = .connected) :
    (row.Adoptable before.now self ∧
        ∃ pending next, Adopted after self key pending next) ∨
      (¬ row.Adoptable before.now self ∧
        ∃ pending next, Unawaited after self key pending next) := by
  obtain ⟨next, starting, untracked, idle, executors⟩ :=
    untouched.adopts taken
  have entry : next.manager.executors.lookup key = none := by
    rw [untracked]
    rfl
  by_cases adoptable : row.Adoptable before.now self
  · refine .inl ⟨adoptable, _, next, starting, adoptedExecutors_nodup .., ?_,
      ?_, ?_⟩
    · refine ⟨row.adopted before.now self (some leaseExp), ?_, ?_⟩
      · rw [Option.mem_def, Deployment.row, executors, adoptExpiredExecutors,
          lookup_mapValues, present]
        rfl
      · rw [Executor.adopted, if_pos adoptable]
        exact isConnected
    · intro thread member
      cases adopts : thread.isAdoption with
      | true => rw [starting.eq_of_isAdoption member adopts]; rfl
      | false =>
          obtain ⟨periodic, rfl⟩ := idle thread member adopts
          rfl
    · refine .pending ?_ entry ?_
      · exact List.mem_map.mpr ⟨_, mem_adoptedExecutors.mpr
          ⟨row, present, adoptable, rfl⟩, rfl⟩
      · intro watcher member
        obtain ⟨periodic, isSweep⟩ := idle _ member rfl
        cases isSweep
  · refine .inr ⟨adoptable, _, next, starting, ?_, ?_⟩
    · intro among
      obtain ⟨⟨other, version⟩, listed, rfl⟩ := List.mem_map.mp among
      obtain ⟨found, sameRow, isAdoptable, -⟩ := mem_adoptedExecutors.mp listed
      cases Option.some.inj (sameRow.symm.trans present)
      exact adoptable isAdoptable
    · intro exec found
      rw [entry] at found
      cases found

end Statement

/-! ## After the return -/

/-- The instance runs, and none of its goroutines adopts. -/
def Deployment.AdoptsNothing (deployment : Deployment) (self : UUID) : Prop :=
  ∃ relay, deployment.instances.lookup self = some relay ∧
    ∀ thread ∈ relay.threads, thread.isAdoption = false

section Returned

variable {config : Config} {self : UUID} {phase : AdoptionPhase}
variable {before after : Deployment} {relay : Instance} {reply : Reply}

theorem Starting.returns (starting : Starting before self phase relay)
    (taken : before.step config
      (.exec self (.adoption true (.deliver [])) reply) = some after) :
    phase = .deliver [] ∧
      (∀ key, after.tracked self key =
        relay.manager.executors.lookup key) ∧
      after.AdoptsNothing self := by
  obtain ⟨other, memory, spawned, found, member, resumed, rfl⟩ :=
    step_exec_eq_some taken
  obtain ⟨-, rfl⟩ := starting.self_of_lookup found
  cases starting.eq_of_isAdoption member rfl
  cases resumed
  refine ⟨rfl, ?_, ?_⟩
  · intro key
    rw [Deployment.tracked_put, if_pos rfl]
    rfl
  · refine ⟨_, by rw [Deployment.lookup_put, if_pos rfl], ?_⟩
    have none : (other.threads.erase
        (.adoption true (.deliver []))).filter Thread.isAdoption = [] := by
      rw [← List.erase_filter, starting.reconciling, List.erase_cons_head]
    intro thread among
    rw [List.filter_eq_nil_iff] at none
    exact Bool.eq_false_iff.mpr (none thread among)

theorem Adopted.awaitsGrace {key : ExecutorKey}
    {pending : List (ExecutorKey × String)}
    (adopted : Adopted before self key pending relay)
    (taken : before.step config
      (.exec self (.adoption true (.deliver [])) reply) = some after) :
    after.AwaitsGrace self key := by
  obtain ⟨delivered, tracked, -⟩ := adopted.starting.returns taken
  cases delivered
  cases adopted.adoptee with
  | pending among => cases among
  | armed exec id _ found armed =>
      exact ⟨exec, id, (tracked key).trans found, armed⟩

theorem Unawaited.not_awaitsGrace {key : ExecutorKey}
    {pending : List (ExecutorKey × String)}
    (unawaited : Unawaited before self key pending relay)
    (taken : before.step config
      (.exec self (.adoption true (.deliver [])) reply) = some after) :
    ¬ after.AwaitsGrace self key := by
  rintro ⟨exec, id, found, armed⟩
  rw [(unawaited.starting.returns taken).2.1] at found
  exact unawaited.notDisconnected exec found armed.state

/-- In standalone mode no adoption begins. -/
theorem Deployment.AdoptsNothing.step {activity : Activity}
    (standalone : config.standalone = true)
    (nothing : before.AdoptsNothing self) (running : activity ≠ .crash self)
    (taken : before.step config activity = some after) :
    after.AdoptsNothing self := by
  obtain ⟨relay, present, idle⟩ := nothing
  have change := (takes_of_step taken).lookup self
  generalize afterEq : after.instances.lookup self = found at change
  cases change with
  | unchanged => exact ⟨relay, afterEq.trans present, idle⟩
  | started absent =>
      rw [absent] at present
      cases present
  | crashed => exact absurd rfl running
  | triggered trigger old memory spawned found effects =>
      cases Option.some.inj (found.symm.trans present)
      refine ⟨_, afterEq, ?_⟩
      intro thread among
      rcases List.mem_append.mp among with new | kept
      · cases effects.spawned thread new with
        | adoptionTicks shared =>
            rw [standalone] at shared
            cases shared
        | _ => rfl
      · exact idle thread kept
  | ran thread reply old memory spawned found member effects =>
      cases Option.some.inj (found.symm.trans present)
      refine ⟨_, afterEq, ?_⟩
      intro next among
      rcases List.mem_append.mp among with new | kept
      · exact (effects.spawned next new).isAdoption_eq_false
          (idle thread member)
      · exact idle next (List.mem_of_mem_erase kept)

theorem Deployment.AdoptsNothing.run {labels : List Activity}
    (standalone : config.standalone = true)
    (nothing : before.AdoptsNothing self) (running : .crash self ∉ labels)
    (taken : run (Deployment.step config) before labels = some after)
    {thread : Thread} (steps : .exec self thread reply ∈ labels) :
    thread.isAdoption = false := by
  induction labels generalizing before with
  | nil => cases steps
  | cons activity labels induction =>
      obtain ⟨middle, stepped, rest⟩ := run_cons_eq_some.mp taken
      rw [List.mem_cons, not_or] at running
      rcases List.mem_cons.mp steps with rfl | later
      · obtain ⟨relay, present, idle⟩ := nothing
        obtain ⟨other, -, -, found, member, -, -⟩ := step_exec_eq_some stepped
        cases Option.some.inj (found.symm.trans present)
        exact idle thread member
      · exact induction
          (nothing.step standalone (Ne.symm running.1) stepped) running.2 rest
          later

end Returned

/-! ## The main theorem -/

section Restarted

variable {config : Config} {self : UUID}
variable {crashed adopting started : Deployment} {early later : List Activity}

/-- Until its statement a restarted process leaves the table as it was. -/
theorem Restart.untouched
    (restart : Restart config self crashed adopting started early later) :
    ∃ leaseExp relay,
      Untouched adopting self crashed.executors leaseExp relay := by
  obtain ⟨wait, starts⟩ := restart.starts
  obtain ⟨waited, waits, rest⟩ := run_cons_eq_some.mp starts
  obtain ⟨began, begins, earlyRun⟩ := run_cons_eq_some.mp rest
  cases waits
  have stopped : ∀ other, ({ crashed with now := crashed.now + wait } :
      Deployment).instances.lookup other = none := restart.stopped
  obtain ⟨leaseExp, relay, untouched⟩ := untouched_start stopped begins
  refine ⟨leaseExp, untouched.run ?_ earlyRun⟩
  intro activity member
  exact restart.during activity (List.mem_append_left _ member)

/--
An executor left connected is awaited when `Start` returns exactly if its lease had
run out, or it had none, when the statement was issued, the row was not the
adopter's own, and its grace timer has not fired since.  In standalone mode nothing
is adopted afterwards.
-/
theorem awaitsGrace_iff_adoptable (standalone : config.standalone = true)
    (restart : Restart config self crashed adopting started early later) :
    (∀ key row, crashed.row key = some row → row.status = .connected →
      (started.AwaitsGrace self key ↔
        row.Adoptable adopting.now self ∧
          ∀ activity ∈ later, activity.fires key = false)) ∧
    ∀ labels target, run (Deployment.step config) started labels = some target →
      .crash self ∉ labels →
        ∀ thread reply, .exec self thread reply ∈ labels →
          thread.isAdoption = false := by
  obtain ⟨issued, reply, returns⟩ := restart.returns
  obtain ⟨adopted, adopts, rest⟩ := run_cons_eq_some.mp returns
  obtain ⟨delivered, laterRun, last⟩ := run_append_eq_some.mp rest
  obtain ⟨_, ends, ended⟩ := run_cons_eq_some.mp last
  cases ended
  obtain ⟨leaseExp, relay, untouched⟩ := restart.untouched
  have during : ∀ activity ∈ later, activity.duringStart = true :=
    fun activity member =>
      restart.during activity (List.mem_append_right _ member)
  constructor
  · intro key row present isConnected
    rcases untouched.adopted_or_unawaited adopts present isConnected with
      ⟨adoptable, _, _, adopted⟩ | ⟨notAdoptable, _, _, unawaited⟩
    · rcases adopted.run during laterRun with
        ⟨never, _, _, adopted⟩ | ⟨fired, _, _, unawaited⟩
      · exact ⟨fun _ => ⟨adoptable, never⟩, fun _ => adopted.awaitsGrace ends⟩
      · constructor
        · intro awaits
          exact absurd awaits (unawaited.not_awaitsGrace ends)
        · intro condition
          exact absurd condition.2 fired
    · obtain ⟨_, _, unawaited⟩ := unawaited.run during laterRun
      constructor
      · intro awaits
        exact absurd awaits (unawaited.not_awaitsGrace ends)
      · intro condition
        exact absurd condition.1 notAdoptable
  · obtain ⟨_, starting, -⟩ := untouched.adopts adopts
    obtain ⟨_, _, starting⟩ := starting.run during laterRun
    intro labels target labelsRun running thread reply steps
    exact (starting.returns ends).2.2.run standalone running labelsRun steps

end Restarted

/-! ## Two restarts -/

/-- The defaults of an embedded relay. -/
def embeddedConfig : Config := { defaultConfig with standalone := true }

/-- An executor connects, and the relay crashes. -/
def crashesConnected : List Activity :=
  boots embeddedConfig 0 relayA ++
    connects embeddedConfig 0 relayA (execConn 0) ++ [.crash relayA]

/-- `reconcileStartup` of a process started at `now`, with what it adopts. -/
def reconciles (self : UUID) (now : Time)
    (adopted : List (ExecutorKey × String)) : List Activity :=
  .exec self (.adoption true (.adopt (now + 60 * second))) .ok ::
    adopted.tails.map fun rest => .exec self (.adoption true (.deliver rest)) .ok

theorem stopped_of_entries {deployment : Deployment}
    (empty : deployment.instances.entries = []) (other : UUID) :
    deployment.instances.lookup other = none := by
  rw [AList.lookup, empty]
  rfl

/-- The process restarts a second after the lease has run out. -/
theorem restart_afterLease :
    ∃ crashed adopting started,
      run (Deployment.step embeddedConfig) (Deployment.empty 0)
          crashesConnected = some crashed ∧
        Restart embeddedConfig relayB crashed adopting started []
          [.exec relayB (.adoption true
            (.deliver [((execConn 0).key, "v1")])) .ok] ∧
        started.AwaitsGrace relayB (execConn 0).key := by
  have evaluated :
      ((run (Deployment.step embeddedConfig) (Deployment.empty 0)
          crashesConnected).bind fun crashed =>
        (run (Deployment.step embeddedConfig) crashed
            [.advance 61000000000, .start relayB]).bind fun adopting =>
          (run (Deployment.step embeddedConfig) adopting
              (reconciles relayB (61 * second)
                [((execConn 0).key, "v1")])).map fun _ =>
            ((crashed.instances.entries.isEmpty : Bool),
              (∃ row ∈ crashed.row (execConn 0).key, row.status = .connected ∧
                row.Adoptable adopting.now relayB : Bool))) =
        some (true, true) := by
    decide
  obtain ⟨crashed, history, rest⟩ := Option.bind_eq_some_iff.mp evaluated
  obtain ⟨adopting, starts, rest⟩ := Option.bind_eq_some_iff.mp rest
  obtain ⟨started, returns, values⟩ := Option.map_eq_some_iff.mp rest
  obtain ⟨empty, adoptable⟩ := Prod.mk.inj values
  obtain ⟨row, present, isConnected, adoptable⟩ := of_decide_eq_true adoptable
  have restart : Restart embeddedConfig relayB crashed adopting started []
      [.exec relayB (.adoption true
        (.deliver [((execConn 0).key, "v1")])) .ok] :=
    { stopped := stopped_of_entries (List.isEmpty_iff.mp empty)
      during := by decide
      starts := ⟨_, starts⟩
      returns := ⟨_, _, returns⟩ }
  refine ⟨crashed, adopting, started, history, restart, ?_⟩
  exact ((awaitsGrace_iff_adoptable rfl restart).1 _ row present
    isConnected).mpr ⟨adoptable, by decide⟩

/-- The process restarts after a second, within the lease. -/
theorem restart_withinLease :
    ¬ ∀ config origin history self crashed adopting started early later,
      config.standalone = true →
        run (Deployment.step config) (Deployment.empty origin) history =
            some crashed →
          Restart config self crashed adopting started early later →
            ∀ key, crashed.HasStatus key .connected →
              started.AwaitsGrace self key := by
  intro awaits
  have evaluated :
      ((run (Deployment.step embeddedConfig) (Deployment.empty 0)
          crashesConnected).bind fun crashed =>
        (run (Deployment.step embeddedConfig) crashed
            [.advance 1000000000, .start relayB]).bind fun adopting =>
          (run (Deployment.step embeddedConfig) adopting
              (reconciles relayB second [])).map fun started =>
            ((crashed.instances.entries.isEmpty : Bool),
              (crashed.HasStatus (execConn 0).key .connected : Bool),
              started.tracked relayB (execConn 0).key)) =
        some (true, true, none) := by
    decide
  obtain ⟨crashed, history, rest⟩ := Option.bind_eq_some_iff.mp evaluated
  obtain ⟨adopting, starts, rest⟩ := Option.bind_eq_some_iff.mp rest
  obtain ⟨started, returns, values⟩ := Option.map_eq_some_iff.mp rest
  obtain ⟨empty, values⟩ := Prod.mk.inj values
  obtain ⟨isConnected, untracked⟩ := Prod.mk.inj values
  have restart : Restart embeddedConfig relayB crashed adopting started []
      [] :=
    { stopped := stopped_of_entries (List.isEmpty_iff.mp empty)
      during := by decide
      starts := ⟨_, starts⟩
      returns := ⟨_, _, returns⟩ }
  obtain ⟨exec, id, found, -⟩ :=
    awaits embeddedConfig 0 crashesConnected relayB crashed adopting started [] []
      rfl history restart (execConn 0).key (of_decide_eq_true isConnected)
  rw [untracked] at found
  cases found

end DbosRelay.Cluster
