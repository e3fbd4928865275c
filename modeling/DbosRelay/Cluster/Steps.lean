import DbosRelay.Cluster.Accesses
import DbosRelay.Cluster.System

/-!
# What a step of the deployment can do

Every invariant of the deployment is about the stored row of an executor, its
entry in a manager, its connection in a registry, or the goroutines under way.
One lemma for each of these lists the steps which can change it.
-/

namespace DbosRelay.Cluster

open DbosRelay.Basic
open DbosRelay.Hub
open DbosRelay.Library.Runs
open DbosRelay.Library.Tables
open DbosRelay.Liveness
open DbosRelay.Store

/-! ## Triggers -/

/-- The goroutine a trigger starts. -/
inductive Triggered (config : Config) (self : UUID) (now : Time)
    (relay : Instance) : Trigger → Thread → Prop where
  | accepted (key : ExecutorKey) (applicationVersion : String)
      (valid : isValidIdentifier config key.executorID false = true) :
      Triggered config self now relay (.accept key applicationVersion)
        (.handshake ⟨key, applicationVersion, relay.nextConn⟩
          (.upsert (now + config.hubLeaseDuration)))
  | hungUp (conn : ExecutorConn) (state : ConnState)
      (present : relay.conns.lookup conn = some state)
      (isOpen : state.closed = false) :
      Triggered config self now relay (.hangup conn)
        (.teardown conn .unregister)
  | beats (conn : ExecutorConn) (state : ConnState)
      (present : relay.conns.lookup conn = some state)
      (isOpen : state.closed = false) :
      Triggered config self now relay (.heartbeat conn)
        (.touchLease conn (now + config.hubLeaseDuration))
  | adoptionTicks (shared : config.standalone = false) :
      Triggered config self now relay .adoptionTick
        (.adoption false (.adopt (now + config.leaseDuration)))
  | sweepTicks :
      Triggered config self now relay .sweepTick
        (.sweep ⟨true, [], relay.manager.deadApps⟩)

/-- The effects of a trigger. -/
structure TriggerEffects (config : Config) (acting : UUID) (now : Time)
    (relay : Instance) (trigger : Trigger) (after : Memory)
    (spawned : List Thread) : Prop where
  manager : after.manager = relay.manager
  registry : after.registry = relay.registry
  conns : after.conns = relay.conns ∨
    ∃ conn state, relay.conns.lookup conn = some state ∧
      after.conns = relay.conns.insert conn { state with closed := true }
  spawned : ∀ next ∈ spawned,
    Triggered config acting now relay trigger next

theorem Memory.pumping_eq_true {memory : Memory} {conn : ExecutorConn}
    (pumping : memory.pumping conn = true) :
    ∃ state, memory.conns.lookup conn = some state ∧
      state.handshakeDone = true ∧ state.closed = false := by
  rw [Memory.pumping] at pumping
  split at pumping
  · cases pumping
  · rename_i state present
    rw [Bool.and_eq_true, Bool.not_eq_true'] at pumping
    exact ⟨state, present, pumping⟩

theorem TriggerEffects.of_fire
    {config : Config} {self : UUID} {now : Time} {relay : Instance}
    {trigger : Trigger} {after : Memory} {spawned : List Thread}
    (fired : trigger.fire config self now relay = some (after, spawned)) :
    TriggerEffects config self now relay trigger after spawned := by
  have startsOne : ∀ {next : Thread} {nextConn : Nat},
      Triggered config self now relay trigger next →
        TriggerEffects config self now relay trigger
          { relay.toMemory with nextConn := nextConn } [next] := by
    intro next nextConn starts
    refine ⟨rfl, rfl, Or.inl rfl, ?_⟩
    intro other member
    cases List.mem_singleton.mp member
    exact starts
  cases trigger with
  | accept key applicationVersion =>
      simp only [Trigger.fire] at fired
      split_ifs at fired with accepted
      cases fired
      exact startsOne (.accepted key applicationVersion accepted.2)
  | hangup conn =>
      simp only [Trigger.fire] at fired
      split_ifs at fired with pumping
      rcases Memory.pumping_eq_true pumping with
        ⟨state, present, -, isOpen⟩
      simp only [Memory.closeConn, present, isOpen] at fired
      cases fired
      refine ⟨rfl, rfl, Or.inr ⟨conn, state, present, rfl⟩, ?_⟩
      intro other member
      cases List.mem_singleton.mp member
      exact .hungUp conn state present isOpen
  | heartbeat conn =>
      simp only [Trigger.fire] at fired
      split_ifs at fired with ready
      rcases Memory.pumping_eq_true ready.1 with
        ⟨state, present, -, isOpen⟩
      cases fired
      exact startsOne (.beats conn state present isOpen)
  | adoptionTick =>
      simp only [Trigger.fire] at fired
      split_ifs at fired with ticks
      cases fired
      exact startsOne (.adoptionTicks (by simpa using ticks.1))
  | sweepTick =>
      simp only [Trigger.fire] at fired
      split_ifs at fired
      cases fired
      exact startsOne .sweepTicks

/-! ## Steps -/

/-- The steps of a deployment, as a relation. -/
inductive Takes (config : Config) (before : Deployment) :
    Activity → Deployment → Prop where
  | advance (elapsed : Nat) :
      Takes config before (.advance elapsed)
        { before with now := before.now + elapsed }
  | start (self : UUID) (absent : before.instances.lookup self = none) :
      Takes config before (.start self)
        { before with
          instances :=
            before.instances.insert self (newInstance config before.now) }
  | crash (self : UUID) :
      Takes config before (.crash self)
        { before with instances := before.instances.erase self }
  | trigger (self : UUID) (trigger : Trigger) (relay : Instance)
      (memory : Memory) (spawned : List Thread)
      (present : before.instances.lookup self = some relay)
      (effects : TriggerEffects config self before.now relay trigger memory
        spawned) :
      Takes config before (.trigger self trigger)
        (before.put self before.executors memory (spawned ++ relay.threads))
  | exec (self : UUID) (thread : Thread) (reply : Reply) (relay : Instance)
      (memory : Memory) (spawned : List Thread)
      (present : before.instances.lookup self = some relay)
      (member : thread ∈ relay.threads)
      (effects : Effects config self before.now before.executors
        relay.toMemory reply thread memory spawned) :
      Takes config before (.exec self thread reply)
        (before.put self
          (thread.write self before.now before.executors reply)
          memory (spawned ++ relay.threads.erase thread))

/-- The step of a goroutine, computed. -/
theorem step_exec_eq_some
    {config : Config} {before after : Deployment}
    {self : UUID} {thread : Thread} {reply : Reply}
    (taken : before.step config (.exec self thread reply) = some after) :
    ∃ relay memory spawned,
      before.instances.lookup self = some relay ∧
        thread ∈ relay.threads ∧
        thread.resume config self before.now before.executors
          relay.toMemory reply = some (memory, spawned) ∧
        after =
          before.put self
            (thread.write self before.now before.executors reply) memory
            (spawned ++ relay.threads.erase thread) := by
  simp only [Deployment.step] at taken
  split at taken
  · cases taken
  · rename_i relay present
    split_ifs at taken with member
    rcases Option.map_eq_some_iff.mp taken with
      ⟨⟨memory, spawned⟩, resumed, rfl⟩
    exact ⟨relay, memory, spawned, present, member, resumed, rfl⟩

theorem takes_of_step
    {config : Config} {before after : Deployment} {activity : Activity}
    (taken : before.step config activity = some after) :
    Takes config before activity after := by
  cases activity with
  | advance elapsed =>
      cases taken
      exact .advance elapsed
  | start self =>
      simp only [Deployment.step] at taken
      split_ifs at taken with absent
      cases taken
      exact .start self absent
  | crash self =>
      simp only [Deployment.step] at taken
      split_ifs at taken
      cases taken
      exact .crash self
  | trigger self trigger =>
      simp only [Deployment.step] at taken
      split at taken
      · cases taken
      · rename_i relay present
        rcases Option.map_eq_some_iff.mp taken with
          ⟨⟨memory, spawned⟩, fired, rfl⟩
        exact .trigger self trigger relay memory spawned present
          (TriggerEffects.of_fire fired)
  | exec self thread reply =>
      rcases step_exec_eq_some taken with
        ⟨relay, memory, spawned, present, member, resumed, rfl⟩
      exact .exec self thread reply relay memory spawned present member
        (Effects.of_resume resumed)

/-! ## The views after an update -/

namespace Deployment

variable (deployment : Deployment) (self other : UUID)

@[simp]
theorem lookup_put (table : ExecutorTable) (memory : Memory)
    (threads : List Thread) :
    (deployment.put self table memory threads).instances.lookup other =
      if other = self then some { toMemory := memory, threads := threads }
      else deployment.instances.lookup other :=
  lookup_insert_eq _ _ _ _

@[simp]
theorem row_put (table : ExecutorTable) (memory : Memory)
    (threads : List Thread) (key : ExecutorKey) :
    (deployment.put self table memory threads).row key = table.lookup key :=
  rfl

@[simp]
theorem tracked_put (table : ExecutorTable) (memory : Memory)
    (threads : List Thread) (key : ExecutorKey) :
    (deployment.put self table memory threads).tracked other key =
      if other = self then memory.manager.executors.lookup key
      else deployment.tracked other key := by
  rw [tracked, lookup_put]
  split_ifs <;> rfl

@[simp]
theorem registered_put (table : ExecutorTable) (memory : Memory)
    (threads : List Thread) (key : ExecutorKey) :
    (deployment.put self table memory threads).registered other key =
      if other = self then memory.registry.getExecutorConn key
      else deployment.registered other key := by
  rw [registered, lookup_put]
  split_ifs <;> rfl

@[simp]
theorem threadsOf_put (table : ExecutorTable) (memory : Memory)
    (threads : List Thread) :
    (deployment.put self table memory threads).threadsOf other =
      if other = self then threads else deployment.threadsOf other := by
  rw [threadsOf, lookup_put]
  split_ifs <;> rfl

variable {deployment self}

theorem tracked_of_lookup {relay : Instance}
    (present : deployment.instances.lookup self = some relay)
    (key : ExecutorKey) :
    deployment.tracked self key = relay.manager.executors.lookup key := by
  rw [tracked, present, Option.bind_some]

theorem registered_of_lookup {relay : Instance}
    (present : deployment.instances.lookup self = some relay)
    (key : ExecutorKey) :
    deployment.registered self key = relay.registry.getExecutorConn key := by
  rw [registered, present, Option.bind_some]

theorem connState_of_lookup {relay : Instance}
    (present : deployment.instances.lookup self = some relay)
    (conn : ExecutorConn) :
    deployment.connState self conn = relay.conns.lookup conn := by
  rw [connState, present, Option.bind_some]

theorem threadsOf_of_lookup {relay : Instance}
    (present : deployment.instances.lookup self = some relay) :
    deployment.threadsOf self = relay.threads := by
  rw [threadsOf, present]
  rfl

end Deployment

/-! ## An instance -/

/-- What a step may leave of an instance. -/
inductive InstanceStep (config : Config) (before : Deployment) (self : UUID) :
    Activity → Option Instance → Prop where
  | unchanged {activity : Activity}
      (elsewhere : ∀ thread reply, activity ≠ .exec self thread reply) :
      InstanceStep config before self activity (before.instances.lookup self)
  | started (absent : before.instances.lookup self = none) :
      InstanceStep config before self (.start self)
        (some (newInstance config before.now))
  | crashed : InstanceStep config before self (.crash self) none
  | triggered (trigger : Trigger) (relay : Instance) (memory : Memory)
      (spawned : List Thread)
      (present : before.instances.lookup self = some relay)
      (effects : TriggerEffects config self before.now relay trigger memory
        spawned) :
      InstanceStep config before self (.trigger self trigger)
        (some { toMemory := memory, threads := spawned ++ relay.threads })
  | ran (thread : Thread) (reply : Reply) (relay : Instance)
      (memory : Memory) (spawned : List Thread)
      (present : before.instances.lookup self = some relay)
      (member : thread ∈ relay.threads)
      (effects : Effects config self before.now before.executors
        relay.toMemory reply thread memory spawned) :
      InstanceStep config before self (.exec self thread reply)
        (some
          { toMemory := memory
            threads := spawned ++ relay.threads.erase thread })

section Instances

variable {config : Config} {before after : Deployment} {activity : Activity}

theorem Takes.lookup
    (takes : Takes config before activity after) (self : UUID) :
    InstanceStep config before self activity
      (after.instances.lookup self) := by
  cases takes with
  | advance elapsed => exact .unchanged (by simp)
  | start started absent =>
      rw [lookup_insert_eq]
      split_ifs with same
      · subst same
        exact .started absent
      · exact .unchanged (by simp)
  | crash crashed =>
      rw [lookup_erase_eq]
      split_ifs with same
      · subst same
        exact .crashed
      · exact .unchanged (by simp)
  | trigger acting trigger relay memory spawned present effects =>
      rw [Deployment.lookup_put]
      split_ifs with same
      · subst same
        exact .triggered trigger relay memory spawned present effects
      · exact .unchanged (by simp)
  | exec acting thread reply relay memory spawned present member effects =>
      rw [Deployment.lookup_put]
      split_ifs with same
      · subst same
        exact .ran thread reply relay memory spawned present member effects
      · refine .unchanged ?_
        intro other otherReply sameActivity
        cases sameActivity
        exact same rfl

end Instances

/-! ## The goroutines under way -/

/-- Why a goroutine is under way after a step. -/
inductive ThreadStep (config : Config) (before : Deployment) (self : UUID)
    (next : Thread) : Activity → Prop where
  | kept (activity : Activity) (member : next ∈ before.threadsOf self) :
      ThreadStep config before self next activity
  | started
      (same : next =
        .adoption true (.adopt (before.now + config.leaseDuration))) :
      ThreadStep config before self next (.start self)
  | triggered (trigger : Trigger) (relay : Instance)
      (present : before.instances.lookup self = some relay)
      (starts : Triggered config self before.now relay trigger next) :
      ThreadStep config before self next (.trigger self trigger)
  | spawned (thread : Thread) (reply : Reply) (relay : Instance)
      (present : before.instances.lookup self = some relay)
      (member : thread ∈ before.threadsOf self)
      (follows : Spawned config self before.now before.executors
        relay.toMemory reply thread next) :
      ThreadStep config before self next (.exec self thread reply)

section Steps

variable {config : Config} {before after : Deployment} {activity : Activity}

theorem Takes.thread
    (takes : Takes config before activity after)
    {self : UUID} {next : Thread} (member : next ∈ after.threadsOf self) :
    ThreadStep config before self next activity := by
  have change := takes.lookup self
  rw [Deployment.threadsOf] at member
  generalize after.instances.lookup self = found at change member
  cases change with
  | unchanged => exact .kept _ member
  | started absent => exact .started (List.mem_singleton.mp member)
  | crashed => simp at member
  | triggered trigger relay memory spawned present effects =>
      rcases List.mem_append.mp member with new | old
      · exact .triggered trigger relay present (effects.spawned next new)
      · rw [← Deployment.threadsOf_of_lookup present] at old
        exact .kept _ old
  | ran thread reply relay memory spawned present running effects =>
      rcases List.mem_append.mp member with new | old
      · rw [← Deployment.threadsOf_of_lookup present] at running
        exact .spawned thread reply relay present running
          (effects.spawned next new)
      · rw [← Deployment.threadsOf_of_lookup present] at old
        exact .kept _ (List.mem_of_mem_erase old)

/-! ## Time -/

theorem Takes.now_le (takes : Takes config before activity after) :
    before.now ≤ after.now := by
  cases takes with
  | advance elapsed => exact Int.le.intro elapsed rfl
  | start => exact le_rfl
  | crash => exact le_rfl
  | trigger => exact le_rfl
  | exec => exact le_rfl

/-! ## The row of an executor -/

/-- What a step may leave of the row of `key`. -/
inductive RowStep (before : Deployment) (key : ExecutorKey) :
    Activity → Option Executor → Prop where
  | unchanged (activity : Activity) :
      RowStep before key activity (before.row key)
  | upserted (self : UUID) (conn : ExecutorConn) (leaseExpires : Time)
      (reply : Reply) (sameKey : conn.key = key)
      (member : .handshake conn (.upsert leaseExpires) ∈
        before.threadsOf self)
      (applied : reply.applied = true) :
      RowStep before key
        (.exec self (.handshake conn (.upsert leaseExpires)) reply)
        (some (upsertedRow before.now conn.applicationVersion (some self)
          (some leaseExpires) (before.row key)))
  | touched (self : UUID) (conn : ExecutorConn) (renewalExpires : Time)
      (reply : Reply) (row : Executor) (sameKey : conn.key = key)
      (member : .touchLease conn renewalExpires ∈ before.threadsOf self)
      (present : before.row key = some row) :
      RowStep before key (.exec self (.touchLease conn renewalExpires) reply)
        (some (row.touched before.now (some renewalExpires)))
  | disconnected (self : UUID) (conn : ExecutorConn) (reply : Reply)
      (row : Executor) (sameKey : conn.key = key)
      (member : .teardown conn .disconnect ∈ before.threadsOf self)
      (applied : reply.applied = true)
      (present : before.row key = some row) :
      RowStep before key (.exec self (.teardown conn .disconnect) reply)
        (some (row.disconnected before.now))
  | markedDead (self : UUID) (version : String) (reply : Reply)
      (row : Executor)
      (member : .expiry key version .markDead ∈ before.threadsOf self)
      (applied : reply.applied = true)
      (present : before.row key = some row) (alive : row.status ≠ .dead) :
      RowStep before key (.exec self (.expiry key version .markDead) reply)
        (some row.markedDead)
  | deleted (self : UUID) (reqID : Nat) (version : String) (caller : Caller)
      (reply : Reply)
      (member : .recovery reqID key version .deleteRow caller ∈
        before.threadsOf self) :
      RowStep before key
        (.exec self (.recovery reqID key version .deleteRow caller) reply)
        none
  | reaped (self : UUID) (startup : Bool) (graceCutoff : Time)
      (reply : Reply) (row : Executor)
      (member : .adoption startup (.reap graceCutoff) ∈
        before.threadsOf self)
      (present : before.row key = some row)
      (reapable : row.Reapable graceCutoff) :
      RowStep before key
        (.exec self (.adoption startup (.reap graceCutoff)) reply)
        (some { row with status := .dead })
  | adopted (self : UUID) (startup : Bool) (leaseExp : Time)
      (reply : Reply) (row : Executor)
      (member : .adoption startup (.adopt leaseExp) ∈ before.threadsOf self)
      (applied : reply.applied = true)
      (present : before.row key = some row)
      (adoptable : row.Adoptable before.now self) :
      RowStep before key
        (.exec self (.adoption startup (.adopt leaseExp)) reply)
        (some
          { row with
            ownerInstanceID := some self
            leaseExpiresAt := some leaseExp })

/-- A statement which changes nothing of a missing row. -/
theorem RowStep.of_map {key : ExecutorKey} {update : Executor → Executor}
    (changes : ∀ row, before.row key = some row →
      RowStep before key activity (some (update row))) :
    RowStep before key activity ((before.row key).map update) := by
  cases present : before.row key with
  | none =>
      rw [Option.map_none, ← present]
      exact .unchanged _
  | some row => exact changes row present

theorem RowStep.of_statement
    {self : UUID} {thread : Thread} {reply : Reply} {statement : Statement}
    (member : thread ∈ before.threadsOf self)
    (issues : thread.statement self = some statement)
    (applied : reply.applied = true) (key : ExecutorKey) :
    RowStep before key (.exec self thread reply)
      (statement.rowAfter before.now key (before.row key)) := by
  simp only [Thread.statement] at issues
  split at issues
  · rename_i conn leaseExpires
    cases issues
    rw [Statement.rowAfter]
    split_ifs with same
    · exact .upserted self conn leaseExpires reply same.symm member applied
    · exact .unchanged _
  · rename_i conn
    cases issues
    rw [Statement.rowAfter]
    split_ifs with same
    · exact .of_map fun row present =>
        .disconnected self conn reply row same.symm member applied present
    · exact .unchanged _
  · rename_i conn renewalExpires
    cases issues
    rw [Statement.rowAfter]
    split_ifs with same
    · exact .of_map fun row present =>
        .touched self conn renewalExpires reply row same.symm member present
    · exact .unchanged _
  · rename_i target version
    cases issues
    rw [Statement.rowAfter]
    split_ifs with same
    · subst same
      refine .of_map fun row present => ?_
      split_ifs with isDead
      · rw [← present]
        exact .unchanged _
      · exact .markedDead self version reply row member applied present isDead
    · exact .unchanged _
  · rename_i reqID target version caller
    cases issues
    rw [Statement.rowAfter]
    split_ifs with same
    · subst same
      exact .deleted self reqID version caller reply member
    · exact .unchanged _
  · rename_i startup leaseExp
    cases issues
    refine .of_map fun row present => ?_
    rw [Executor.adopted]
    split_ifs with adoptable
    · exact .adopted self startup leaseExp reply row member applied present
        adoptable
    · rw [← present]
      exact .unchanged _
  · rename_i startup graceCutoff
    cases issues
    refine .of_map fun row present => ?_
    rw [Executor.reaped]
    split_ifs with reapable
    · exact .reaped self startup graceCutoff reply row member present reapable
    · rw [← present]
      exact .unchanged _
  · cases issues

theorem Takes.row
    (takes : Takes config before activity after) (key : ExecutorKey) :
    RowStep before key activity (after.row key) := by
  cases takes with
  | advance => exact .unchanged _
  | start => exact .unchanged _
  | crash => exact .unchanged _
  | trigger => exact .unchanged _
  | exec self thread reply relay memory spawned present member effects =>
      rw [← Deployment.threadsOf_of_lookup present] at member
      rw [Deployment.row_put, Thread.write]
      split
      · exact .unchanged _
      · rename_i statement issues
        split_ifs with applied
        · rw [lookup_run]
          exact .of_statement member issues applied key
        · exact .unchanged _

/-- A row of the next state, up to an equation, by the step which has left it. -/
theorem Takes.exists_rowStep
    (takes : Takes config before activity after) {key : ExecutorKey}
    {row : Executor} (found : after.row key = some row) :
    ∃ result, some row = result ∧ RowStep before key activity result :=
  ⟨_, rfl, found ▸ takes.row key⟩

/-- An `UpsertExecutor` which takes effect. -/
theorem row_of_upsert
    {self : UUID} {conn : ExecutorConn} {leaseExpires : Time} {reply : Reply}
    (taken : before.step config
      (.exec self (.handshake conn (.upsert leaseExpires)) reply) =
        some after)
    (applied : reply.applied = true) :
    after.row conn.key =
      some (upsertedRow before.now conn.applicationVersion (some self)
        (some leaseExpires) (before.row conn.key)) := by
  rcases step_exec_eq_some taken with
    ⟨relay, memory, spawned, present, running, resumed, rfl⟩
  rw [Deployment.row_put]
  simp only [Thread.write, Thread.statement, applied, if_true, Statement.run]
  rw [lookup_upsertExecutor, if_pos rfl]
  rfl

/-- Where a connected row comes from. -/
inductive ConnectedStep (before : Deployment) (key : ExecutorKey) :
    Activity → Executor → Prop where
  | unchanged {activity : Activity} {row : Executor}
      (present : before.row key = some row) :
      ConnectedStep before key activity row
  | upserted (self : UUID) (conn : ExecutorConn) (leaseExpires : Time)
      (reply : Reply) (sameKey : conn.key = key)
      (applied : reply.applied = true) :
      ConnectedStep before key
        (.exec self (.handshake conn (.upsert leaseExpires)) reply)
        (upsertedRow before.now conn.applicationVersion (some self)
          (some leaseExpires) (before.row key))
  | touched (self : UUID) (conn : ExecutorConn) (renewalExpires : Time)
      (reply : Reply) (old : Executor) (sameKey : conn.key = key)
      (member : .touchLease conn renewalExpires ∈ before.threadsOf self)
      (present : before.row key = some old)
      (wasConnected : old.status = .connected) :
      ConnectedStep before key
        (.exec self (.touchLease conn renewalExpires) reply)
        (old.touched before.now (some renewalExpires))
  | adopted (self : UUID) (startup : Bool) (leaseExp : Time)
      (reply : Reply) (old : Executor) (applied : reply.applied = true)
      (present : before.row key = some old)
      (wasConnected : old.status = .connected)
      (adoptable : old.Adoptable before.now self) :
      ConnectedStep before key
        (.exec self (.adoption startup (.adopt leaseExp)) reply)
        { old with
          ownerInstanceID := some self
          leaseExpiresAt := some leaseExp }

theorem Takes.row_connected
    (takes : Takes config before activity after)
    {key : ExecutorKey} {row : Executor}
    (found : after.row key = some row)
    (isConnected : row.status = .connected) :
    ConnectedStep before key activity row := by
  obtain ⟨result, rowEq, change⟩ := takes.exists_rowStep found
  cases change with
  | unchanged => exact .unchanged rowEq.symm
  | upserted self conn leaseExpires reply sameKey member applied =>
      cases rowEq
      exact .upserted self conn leaseExpires reply sameKey applied
  | touched self conn renewalExpires reply old sameKey member present =>
      cases rowEq
      exact .touched self conn renewalExpires reply old sameKey member present
        isConnected
  | disconnected =>
      cases rowEq
      cases isConnected
  | markedDead =>
      cases rowEq
      cases isConnected
  | deleted => cases rowEq
  | reaped =>
      cases rowEq
      cases isConnected
  | adopted self startup leaseExp reply old member applied present adoptable =>
      cases rowEq
      exact .adopted self startup leaseExp reply old applied present
        isConnected adoptable

/-- A row becomes connected by an `UpsertExecutor` only. -/
theorem Takes.hasStatus_connected
    (takes : Takes config before activity after) {key : ExecutorKey}
    (isConnected : after.HasStatus key .connected) :
    before.HasStatus key .connected ∨
      ∃ self conn leaseExpires reply,
        activity = .exec self (.handshake conn (.upsert leaseExpires)) reply ∧
          conn.key = key ∧ reply.applied = true := by
  rcases isConnected with ⟨row, found, status⟩
  cases takes.row_connected found status with
  | unchanged present => exact Or.inl ⟨row, present, status⟩
  | upserted self conn leaseExpires reply sameKey applied =>
      exact Or.inr ⟨self, conn, leaseExpires, reply, rfl, sameKey, applied⟩
  | touched self conn renewalExpires reply old sameKey member present
      wasConnected =>
      exact Or.inl ⟨old, present, wasConnected⟩
  | adopted self startup leaseExp reply old applied present wasConnected =>
      exact Or.inl ⟨old, present, wasConnected⟩

/-- A row becomes dead when it is marked or reaped only. -/
theorem Takes.hasStatus_dead
    (takes : Takes config before activity after) {key : ExecutorKey}
    (isDead : after.HasStatus key .dead) :
    before.HasStatus key .dead ∨
      (∃ self version reply,
        activity = .exec self (.expiry key version .markDead) reply ∧
          .expiry key version .markDead ∈ before.threadsOf self) ∨
      ∃ self startup graceCutoff row,
        .adoption startup (.reap graceCutoff) ∈ before.threadsOf self ∧
          before.row key = some row ∧ row.Reapable graceCutoff := by
  rcases isDead with ⟨row, found, status⟩
  obtain ⟨result, rowEq, change⟩ := takes.exists_rowStep found
  cases change with
  | unchanged => exact Or.inl ⟨row, rowEq.symm, status⟩
  | upserted =>
      cases rowEq
      cases status
  | touched self conn renewalExpires reply old sameKey member present =>
      cases rowEq
      exact Or.inl ⟨old, present, status⟩
  | disconnected =>
      cases rowEq
      cases status
  | markedDead self version reply old member =>
      exact Or.inr (Or.inl ⟨self, version, reply, rfl, member⟩)
  | deleted => cases rowEq
  | reaped self startup graceCutoff reply old member present reapable =>
      exact Or.inr (Or.inr
        ⟨self, startup, graceCutoff, old, member, present, reapable⟩)
  | adopted self startup leaseExp reply old member applied present =>
      cases rowEq
      exact Or.inl ⟨old, present, status⟩

/-! ## The registered connection of an executor -/

/-- What a step may do to the registered connection of `key`. -/
inductive RegisteredStep (before : Deployment) (self : UUID)
    (key : ExecutorKey) : Activity → Option ExecutorConn → Prop where
  | unchanged (activity : Activity) :
      RegisteredStep before self key activity (before.registered self key)
  | crashed : RegisteredStep before self key (.crash self) none
  | registered (conn : ExecutorConn) (reply : Reply)
      (sameKey : conn.key = key)
      (member : .handshake conn .register ∈ before.threadsOf self) :
      RegisteredStep before self key
        (.exec self (.handshake conn .register) reply) (some conn)
  | unregistered (conn : ExecutorConn) (reply : Reply)
      (sameKey : conn.key = key)
      (member : .teardown conn .unregister ∈ before.threadsOf self)
      (wasRegistered : before.registered self key = some conn) :
      RegisteredStep before self key
        (.exec self (.teardown conn .unregister) reply) none

/-- What the step of a goroutine does to the registry of its instance. -/
theorem RegistryChange.registeredStep {self : UUID} {thread : Thread}
    {relay : Instance} {registry : Registry}
    (change : RegistryChange relay.registry thread registry)
    (present : before.instances.lookup self = some relay)
    (member : thread ∈ before.threadsOf self)
    (reply : Reply) (key : ExecutorKey) :
    RegisteredStep before self key (.exec self thread reply)
      (registry.getExecutorConn key) := by
  have unchanged := Deployment.registered_of_lookup present key
  cases change with
  | unchanged =>
      rw [← unchanged]
      exact .unchanged _
  | register conn =>
      rw [Registry.getExecutorConn_register, ← unchanged]
      split_ifs with sameKey
      · exact .registered conn reply sameKey.symm member
      · exact .unchanged _
  | unregister conn taken =>
      rw [Registry.getExecutorConn_unregister taken, ← unchanged]
      split_ifs with sameKey
      · refine .unregistered conn reply sameKey.symm member ?_
        rw [unchanged, sameKey]
        exact Registry.getExecutorConn_of_unregister taken
      · exact .unchanged _

theorem Takes.registered
    (takes : Takes config before activity after)
    (self : UUID) (key : ExecutorKey) :
    RegisteredStep before self key activity (after.registered self key) := by
  have change := takes.lookup self
  rw [Deployment.registered]
  generalize after.instances.lookup self = found at change ⊢
  cases change with
  | unchanged => exact .unchanged _
  | started absent =>
      have nothing : before.registered self key = none := by
        rw [Deployment.registered, absent, Option.bind_none]
      rw [Option.bind_some, newInstance,
        Registry.getExecutorConn_newRegistry, ← nothing]
      exact .unchanged _
  | crashed => exact .crashed
  | triggered trigger relay memory spawned present effects =>
      rw [Option.bind_some, effects.registry,
        ← Deployment.registered_of_lookup present]
      exact .unchanged _
  | ran thread reply relay memory spawned present member effects =>
      rw [← Deployment.threadsOf_of_lookup present] at member
      exact effects.registry.registeredStep present member reply key

/-- A connection is registered by its own handshake only. -/
theorem Takes.registered_some
    (takes : Takes config before activity after)
    {self : UUID} {key : ExecutorKey} {conn : ExecutorConn}
    (found : after.registered self key = some conn) :
    before.registered self key = some conn ∨
      ∃ reply, activity = .exec self (.handshake conn .register) reply ∧
        conn.key = key := by
  have change := takes.registered self key
  rw [found] at change
  generalize connEq : some conn = result at change
  cases change with
  | unchanged => exact Or.inl rfl
  | crashed => cases connEq
  | registered other reply sameKey member =>
      cases connEq
      exact Or.inr ⟨reply, rfl, sameKey⟩
  | unregistered => cases connEq

/-! ## The connections of an instance -/

/-- The handshake of a connection has been completed. -/
def Deployment.HandshakeDone (deployment : Deployment) (self : UUID)
    (conn : ExecutorConn) : Prop :=
  ∃ state ∈ deployment.connState self conn, state.handshakeDone = true

instance (deployment : Deployment) (self : UUID) (conn : ExecutorConn) :
    Decidable (deployment.HandshakeDone self conn) :=
  inferInstanceAs
    (Decidable (∃ state ∈ deployment.connState self conn, _ = true))

/-- A connection has been made and not been closed since. -/
def Deployment.Open (deployment : Deployment) (self : UUID)
    (conn : ExecutorConn) : Prop :=
  ∃ state ∈ deployment.connState self conn, state.closed = false

instance (deployment : Deployment) (self : UUID) (conn : ExecutorConn) :
    Decidable (deployment.Open self conn) :=
  inferInstanceAs
    (Decidable (∃ state ∈ deployment.connState self conn, _ = false))

/-- The step enters a connection into the registry. -/
def Activity.Registers (self : UUID) (conn : ExecutorConn)
    (activity : Activity) : Prop :=
  ∃ reply, activity = .exec self (.handshake conn .register) reply

@[simp]
theorem Activity.registers_exec {acting self : UUID} {thread : Thread}
    {reply : Reply} {conn : ExecutorConn} :
    (Activity.exec acting thread reply).Registers self conn ↔
      acting = self ∧ thread = .handshake conn .register := by
  constructor
  · rintro ⟨other, same⟩
    cases same
    exact ⟨rfl, rfl⟩
  · rintro ⟨rfl, rfl⟩
    exact ⟨reply, rfl⟩

/-- What a step may do to the state of a connection. -/
inductive ConnStep (before : Deployment) (self : UUID)
    (conn : ExecutorConn) : Activity → Option ConnState → Prop where
  | unchanged {activity : Activity}
      (notRegistering : ¬ activity.Registers self conn) :
      ConnStep before self conn activity (before.connState self conn)
  | crashed : ConnStep before self conn (.crash self) none
  | registered (reply : Reply) :
      ConnStep before self conn
        (.exec self (.handshake conn .register) reply)
        (some ⟨false, false, before.now⟩)
  | connected (reply : Reply) (state : ConnState)
      (present : before.connState self conn = some state) :
      ConnStep before self conn
        (.exec self (.handshake conn .onConnect) reply)
        (some { state with handshakeDone := true })
  | renewed {activity : Activity} (state : ConnState)
      (notRegistering : ¬ activity.Registers self conn)
      (present : before.connState self conn = some state) :
      ConnStep before self conn activity
        (some { state with lastRenewedAt := before.now })
  | closed {activity : Activity} (state : ConnState)
      (notRegistering : ¬ activity.Registers self conn)
      (present : before.connState self conn = some state) :
      ConnStep before self conn activity (some { state with closed := true })

/-- A connection which is updated in place is left alone where there is none. -/
theorem ConnStep.of_map {self : UUID} {conn : ExecutorConn}
    {update : ConnState → ConnState}
    (notRegistering : ¬ activity.Registers self conn)
    (updated : ∀ state, before.connState self conn = some state →
      ConnStep before self conn activity (some (update state))) :
    ConnStep before self conn activity
      ((before.connState self conn).map update) := by
  cases found : before.connState self conn with
  | none =>
      rw [Option.map_none, ← found]
      exact .unchanged notRegistering
  | some state => exact updated state found

/-- What the step of a goroutine does to the connections of its instance. -/
theorem ConnsChange.connStep {self : UUID} {thread : Thread} {relay : Instance}
    {conns : Table ExecutorConn ConnState}
    (change : ConnsChange before.now relay.conns thread conns)
    (present : before.instances.lookup self = some relay)
    (reply : Reply) (conn : ExecutorConn) :
    ConnStep before self conn (.exec self thread reply)
      (conns.lookup conn) := by
  have unchanged := Deployment.connState_of_lookup present conn
  cases change with
  | unchanged notRegistering =>
      rw [← unchanged]
      exact .unchanged (by simpa using notRegistering conn)
  | register registering =>
      rw [lookup_insert_eq, ← unchanged]
      split_ifs with sameConn
      · subst sameConn
        exact .registered reply
      · exact .unchanged (by simpa using Ne.symm sameConn)
  | onConnect connecting =>
      rw [lookup_modify_eq, ← Deployment.connState_of_lookup present,
        ← unchanged]
      split_ifs with sameConn
      · subst sameConn
        exact .of_map (by simp) (ConnStep.connected reply)
      · exact .unchanged (by simp)
  | renew renewing renewalExpires =>
      rw [lookup_modify_eq, ← Deployment.connState_of_lookup present,
        ← unchanged]
      split_ifs with sameConn
      · subst sameConn
        exact .of_map (by simp) fun state => .renewed state (by simp)
      · exact .unchanged (by simp)
  | close closing old notRegistering found =>
      have notThis :
          ¬ (Activity.exec self thread reply).Registers self conn := by
        simpa using notRegistering conn
      rw [lookup_insert_eq, ← unchanged]
      split_ifs with sameConn
      · subst sameConn
        exact .closed old notThis (unchanged.trans found)
      · exact .unchanged notThis

theorem Takes.connState
    (takes : Takes config before activity after)
    (self : UUID) (conn : ExecutorConn) :
    ConnStep before self conn activity (after.connState self conn) := by
  have change := takes.lookup self
  rw [Deployment.connState]
  generalize after.instances.lookup self = found at change ⊢
  cases change with
  | unchanged elsewhere =>
      refine .unchanged ?_
      rintro ⟨reply, same⟩
      exact elsewhere _ reply same
  | started absent =>
      have nothing : before.connState self conn = none := by
        rw [Deployment.connState, absent, Option.bind_none]
      rw [Option.bind_some, newInstance, AList.lookup_empty, ← nothing]
      exact .unchanged (by simp [Activity.Registers])
  | crashed => exact .crashed
  | triggered trigger relay memory spawned present effects =>
      have notRegistering :
          ¬ (Activity.trigger self trigger).Registers self conn := by
        simp [Activity.Registers]
      have unchanged := Deployment.connState_of_lookup present conn
      rw [Option.bind_some]
      rcases effects.conns with kept | ⟨closing, state, found, closed⟩
      · rw [kept, ← unchanged]
        exact .unchanged notRegistering
      · rw [closed, lookup_insert_eq, ← unchanged]
        split_ifs with sameConn
        · subst sameConn
          exact .closed state notRegistering (unchanged.trans found)
        · exact .unchanged notRegistering
  | ran thread reply relay memory spawned present member effects =>
      exact effects.conns.connStep present reply conn

/-- A handshake is completed by its own `OnConnect` only. -/
theorem Takes.handshakeDone
    (takes : Takes config before activity after)
    {self : UUID} {conn : ExecutorConn}
    (done : after.HandshakeDone self conn) :
    (before.HandshakeDone self conn ∧ ¬ activity.Registers self conn) ∨
      ∃ reply, activity = .exec self (.handshake conn .onConnect) reply := by
  rcases done with ⟨state, found, isDone⟩
  have change := takes.connState self conn
  rw [Option.mem_def] at found
  rw [found] at change
  generalize stateEq : some state = result at change
  cases change with
  | unchanged notRegistering =>
      exact Or.inl ⟨⟨state, stateEq.symm, isDone⟩, notRegistering⟩
  | crashed => cases stateEq
  | registered reply =>
      cases stateEq
      cases isDone
  | connected reply old present => exact Or.inr ⟨reply, rfl⟩
  | renewed old notRegistering present =>
      cases stateEq
      exact Or.inl ⟨⟨old, present, isDone⟩, notRegistering⟩
  | closed old notRegistering present =>
      cases stateEq
      exact Or.inl ⟨⟨old, present, isDone⟩, notRegistering⟩

/-- A connection is opened by its own `Register` only. -/
theorem Takes.open
    (takes : Takes config before activity after)
    {self : UUID} {conn : ExecutorConn}
    (isOpen : after.Open self conn) :
    before.Open self conn ∨ activity.Registers self conn := by
  rcases isOpen with ⟨state, found, notClosed⟩
  have change := takes.connState self conn
  rw [Option.mem_def] at found
  rw [found] at change
  generalize stateEq : some state = result at change
  cases change with
  | unchanged => exact Or.inl ⟨state, stateEq.symm, notClosed⟩
  | crashed => cases stateEq
  | registered reply => exact Or.inr ⟨reply, rfl⟩
  | connected reply old present =>
      cases stateEq
      exact Or.inl ⟨old, present, notClosed⟩
  | renewed old notRegistering present =>
      cases stateEq
      exact Or.inl ⟨old, present, notClosed⟩
  | closed old notRegistering present =>
      cases stateEq
      cases notClosed

/-! ## Well-formed deployments -/

/-- What holds in every deployment the steps reach. -/
structure Deployment.WellFormed (deployment : Deployment) : Prop where
  timers : ∀ {self relay}, deployment.instances.lookup self = some relay →
    TimerInvariant relay.manager
  watchers : ∀ {self relay watcher},
    deployment.instances.lookup self = some relay →
      Thread.watcher watcher ∈ relay.threads →
        watcher.timer < relay.manager.nextTimer
  registeredKey : ∀ {self key conn},
    deployment.registered self key = some conn → conn.key = key

theorem Deployment.wellFormed_empty (now : Time) :
    (Deployment.empty now).WellFormed where
  timers := by
    intro self relay present
    simp [Deployment.empty] at present
  watchers := by
    intro self relay watcher present
    simp [Deployment.empty] at present
  registeredKey := by
    intro self key conn present
    simp [Deployment.registered, Deployment.empty] at present

theorem Deployment.WellFormed.step
    (wellFormed : before.WellFormed)
    (takes : Takes config before activity after) :
    after.WellFormed where
  timers := by
    intro self relay present
    have change := takes.lookup self
    rw [present] at change
    generalize relayEq : some relay = result at change
    cases change with
    | unchanged => exact wellFormed.timers relayEq.symm
    | started absent =>
        cases relayEq
        exact timerInvariant_newManager
    | crashed => cases relayEq
    | triggered trigger old memory spawned found effects =>
        cases relayEq
        show TimerInvariant memory.manager
        rw [effects.manager]
        exact wellFormed.timers found
    | ran thread reply old memory spawned found running effects =>
        cases relayEq
        exact effects.manager.timerInvariant (wellFormed.timers found)
  watchers := by
    intro self relay watcher present member
    have change := takes.lookup self
    rw [present] at change
    generalize relayEq : some relay = result at change
    cases change with
    | unchanged => exact wellFormed.watchers relayEq.symm member
    | started absent =>
        cases relayEq
        simp [newInstance] at member
    | crashed => cases relayEq
    | triggered trigger old memory spawned found effects =>
        cases relayEq
        show watcher.timer < memory.manager.nextTimer
        rw [effects.manager]
        rcases List.mem_append.mp member with new | kept
        · cases effects.spawned _ new
        · exact wellFormed.watchers found kept
    | ran thread reply old memory spawned found running effects =>
        cases relayEq
        show watcher.timer < memory.manager.nextTimer
        rcases List.mem_append.mp member with new | kept
        · have arms := effects.armed watcher new
          rw [arms.watchedTimer, arms.nextTimer]
          exact Nat.lt_succ_self _
        · exact Nat.lt_of_lt_of_le
            (wellFormed.watchers found (List.mem_of_mem_erase kept))
            effects.manager.nextTimer_le
  registeredKey := by
    intro self key conn present
    rcases takes.registered_some present with kept | ⟨reply, -, sameKey⟩
    · exact wellFormed.registeredKey kept
    · exact sameKey

/-! ## The entry of an executor -/

/-- What a step may do to the entry of `key` in the manager of `self`. -/
inductive TrackedStep (before : Deployment) (self : UUID)
    (key : ExecutorKey) : Activity → Option TrackedExecutor → Prop where
  | unchanged (activity : Activity) :
      TrackedStep before self key activity (before.tracked self key)
  | crashed : TrackedStep before self key (.crash self) none
  | changed {entry : Option TrackedExecutor}
      (thread : Thread) (reply : Reply) (relay : Instance)
      (present : before.instances.lookup self = some relay)
      (member : thread ∈ before.threadsOf self)
      (change : TrackedChange before.now relay.manager.nextTimer key
        (before.tracked self key) thread entry) :
      TrackedStep before self key (.exec self thread reply) entry

theorem Takes.tracked
    (takes : Takes config before activity after)
    (wellFormed : before.WellFormed) (self : UUID) (key : ExecutorKey) :
    TrackedStep before self key activity (after.tracked self key) := by
  have change := takes.lookup self
  rw [Deployment.tracked]
  generalize after.instances.lookup self = found at change ⊢
  cases change with
  | unchanged => exact .unchanged _
  | started absent =>
      have nothing : before.tracked self key = none := by
        rw [Deployment.tracked, absent, Option.bind_none]
      rw [Option.bind_some, newInstance, newManager, AList.lookup_empty,
        ← nothing]
      exact .unchanged _
  | crashed => exact .crashed
  | triggered trigger relay memory spawned present effects =>
      rw [Option.bind_some, effects.manager,
        ← Deployment.tracked_of_lookup present]
      exact .unchanged _
  | ran thread reply relay memory spawned present member effects =>
      have unchanged := Deployment.tracked_of_lookup present key
      rw [Option.bind_some]
      rcases effects.manager.tracked (wellFormed.timers present) key with
        kept | change
      · rw [kept, ← unchanged]
        exact .unchanged _
      · rw [← unchanged] at change
        rw [← Deployment.threadsOf_of_lookup present] at member
        exact .changed thread reply relay present member change

/-- Where an entry comes from. -/
theorem Takes.tracked_some
    (takes : Takes config before activity after)
    (wellFormed : before.WellFormed)
    {self : UUID} {key : ExecutorKey} {exec : TrackedExecutor}
    (found : after.tracked self key = some exec) :
    before.tracked self key = some exec ∨
      ∃ thread reply relay,
        activity = .exec self thread reply ∧
          before.instances.lookup self = some relay ∧
          thread ∈ before.threadsOf self ∧
          TrackedChange before.now relay.manager.nextTimer key
            (before.tracked self key) thread (some exec) := by
  have change := takes.tracked wellFormed self key
  rw [found] at change
  generalize entryEq : some exec = result at change
  cases change with
  | unchanged => exact Or.inl rfl
  | crashed => cases entryEq
  | changed thread reply relay present member tracked =>
      exact Or.inr ⟨thread, reply, relay, rfl, present, member, tracked⟩

/-- An executor becomes connected to a manager by an `OnConnect` only. -/
theorem Takes.inState_connected
    (takes : Takes config before activity after)
    (wellFormed : before.WellFormed) {self : UUID} {key : ExecutorKey}
    (isConnected : after.InState self key .connected) :
    before.InState self key .connected ∨
      ∃ conn reply,
        activity = .exec self (.handshake conn .onConnect) reply ∧
          conn.key = key := by
  rcases isConnected with ⟨exec, found, state⟩
  rcases takes.tracked_some wellFormed found with
    kept | ⟨thread, reply, relay, rfl, present, member, tracked⟩
  · exact Or.inl ⟨exec, kept, state⟩
  cases tracked with
  | connected conn _ sameKey => exact Or.inr ⟨conn, reply, rfl, sameKey⟩
  | disconnected conn _ sameKey wasConnected armed =>
      rw [armed.state] at state
      cases state
  | adopted startup version rest _ armed =>
      rw [armed.state] at state
      cases state
  | expired => cases state

/-- `OnConnect` leaves its executor connected. -/
theorem Deployment.WellFormed.inState_onConnect
    {self : UUID} {conn : ExecutorConn} {reply : Reply}
    (wellFormed : before.WellFormed)
    (taken : before.step config
      (.exec self (.handshake conn .onConnect) reply) = some after) :
    after.InState self conn.key .connected := by
  rcases step_exec_eq_some taken with
    ⟨relay, memory, spawned, present, member, resumed, rfl⟩
  cases resumed
  rcases (wellFormed.timers present).onConnect_self conn.key
      conn.applicationVersion .socket with
    ⟨exec, found, -, isConnected⟩
  refine ⟨exec, ?_, isConnected⟩
  rw [Option.mem_def, Deployment.tracked_put, if_pos rfl]
  exact found

/-- `OnDisconnect` leaves its executor unconnected. -/
theorem Deployment.WellFormed.not_inState_onDisconnect
    {self : UUID} {conn : ExecutorConn} {reply : Reply}
    (wellFormed : before.WellFormed)
    (taken : before.step config
      (.exec self (.teardown conn .onDisconnect) reply) = some after) :
    ¬ after.InState self conn.key .connected := by
  rcases step_exec_eq_some taken with
    ⟨relay, memory, spawned, present, member, resumed, rfl⟩
  cases resumed
  rintro ⟨exec, found, isConnected⟩
  rw [Option.mem_def, Deployment.tracked_put, if_pos rfl] at found
  rcases (wellFormed.timers present).onDisconnect_self before.now
      (timeoutFor config reply conn.key.appID) conn.key with
    ⟨-, watcher, -, arms⟩ | ⟨⟨old, oldFound, notConnected⟩, unchanged, -, -⟩
  · rcases arms.entry with ⟨new, newFound, armed⟩
    cases Option.some.inj (newFound.symm.trans found)
    rw [armed.state] at isConnected
    cases isConnected
  · cases Option.some.inj (oldFound.symm.trans (unchanged.symm.trans found))
    exact notConnected isConnected

/-! ## The goroutines which pursue an executor -/

/-- Where the goroutines which pursue an executor come from. -/
theorem ThreadStep.pursues
    {self : UUID} {key : ExecutorKey} {next : Thread}
    (step : ThreadStep config before self next activity)
    (pursuing : next.pursues key = true) :
    (∃ thread ∈ before.threadsOf self, thread.pursues key = true) ∨
      (∃ watcher reply exec,
        activity = .exec self (.watcher watcher) reply ∧
          .watcher watcher ∈ before.threadsOf self ∧
          watcher.key = key ∧ watcher.fireAt ≤ before.now ∧
          before.tracked self key = some exec ∧
          exec.timer = some watcher.timer ∧ exec.state = .disconnected) ∨
      before.HasStatus key .dead := by
  cases step with
  | kept activity member => exact Or.inl ⟨next, member, pursuing⟩
  | started same =>
      subst same
      cases pursuing
  | triggered trigger relay present starts =>
      cases starts <;> cases pursuing
  | spawned thread reply relay present member follows =>
      cases follows with
      | expired watcher action due fired =>
          have sameKey : watcher.key = key := of_decide_eq_true pursuing
          rcases relay.manager.watchGracePeriod_cases watcher with
            unchanged | ⟨exec, found, recorded, isDisconnected, -⟩
          · rw [unchanged] at fired
            cases fired
          · refine Or.inr (Or.inl ⟨watcher, reply, exec, rfl, member, sameKey,
              due, ?_, recorded, isDisconnected⟩)
            rw [Deployment.tracked_of_lookup present, ← sameKey]
            exact found
      | listed periodic appID apps rows dead =>
          rcases List.any_eq_true.mp pursuing with
            ⟨⟨listed, version⟩, listedMember, same⟩
          have sameKey : listed = key := of_decide_eq_true same
          rcases dead listed version listedMember with ⟨row, found, isDead⟩
          rw [sameKey] at found
          exact Or.inr (Or.inr ⟨row, found, isDead⟩)
      | swept periodic target version rows apps =>
          refine Or.inl ⟨_, member, ?_⟩
          simp only [Thread.pursues, List.any_cons] at pursuing ⊢
          rw [pursuing, Bool.or_true]
      | skipped periodic target version rows apps =>
          refine Or.inl ⟨_, member, ?_⟩
          simp only [Thread.pursues, List.any_cons] at pursuing ⊢
          rw [pursuing, Bool.or_true]
      | confirmed reqID target version caller acknowledged =>
          cases caller <;> exact Or.inl ⟨_, member, pursuing⟩
      | deleting reqID target version caller =>
          cases caller <;> exact Or.inl ⟨_, member, pursuing⟩
      | foreign => exact Or.inl ⟨_, member, pursuing⟩
      | unguarded => exact Or.inl ⟨_, member, pursuing⟩
      | markedDead => exact Or.inl ⟨_, member, pursuing⟩
      | attempted => exact Or.inl ⟨_, member, pursuing⟩
      | retried => exact Or.inl ⟨_, member, pursuing⟩
      | returned => exact Or.inl ⟨_, member, pursuing⟩
      | _ => cases pursuing

/-- Only a goroutine which pursues an executor dispatches its recovery. -/
theorem Takes.pursues_of_dispatches
    (takes : Takes config before activity after)
    {self : UUID} {key : ExecutorKey}
    (named : activity.dispatches self key = true) :
    ∃ thread ∈ before.threadsOf self, thread.pursues key = true := by
  cases takes with
  | exec acting thread reply relay memory spawned present member effects =>
      rw [← Deployment.threadsOf_of_lookup present] at member
      simp only [Activity.dispatches] at named
      split at named
      · rename_i same
        cases same
        simp only [Bool.and_eq_true, decide_eq_true_eq] at named
        rw [named.1] at member
        exact ⟨_, member, by simp [Thread.pursues, named.2]⟩
      · rename_i same
        cases same
        simp only [Bool.and_eq_true, decide_eq_true_eq] at named
        rw [named.1.1] at member
        exact ⟨_, member, by simp [Thread.pursues, named.1.2]⟩
      · cases named
  | _ => cases named

end Steps

end DbosRelay.Cluster
