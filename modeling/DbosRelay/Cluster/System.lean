import DbosRelay.Cluster.Threads
import DbosRelay.Library.Runs

/-!
# Relay instances over one store

Any number of instances share the executors table.  Instances start and crash
at any time, sockets are accepted and lost, tickers fire, and in between any
goroutine of any instance takes its next step.  One clock serves the database
and the instances.
-/

namespace DbosRelay.Cluster

open DbosRelay.Basic
open DbosRelay.Hub
open DbosRelay.Library.Runs
open DbosRelay.Library.Tables
open DbosRelay.Liveness
open DbosRelay.Store

/-- A running instance. -/
structure Instance extends Memory where
  threads : List Thread

/-- The whole system. -/
structure Deployment where
  now : Time
  executors : ExecutorTable
  instances : Table UUID Instance

/-- No instance runs and no executor has ever registered. -/
def Deployment.empty (now : Time) : Deployment where
  now := now
  executors := ∅
  instances := ∅

/-! ## What the outside world does to an instance -/

/-- What starts a goroutine of a running instance. -/
inductive Trigger where
  | accept (key : ExecutorKey) (applicationVersion : String)
  | hangup (conn : ExecutorConn)
  | heartbeat (conn : ExecutorConn)
  | adoptionTick
  | sweepTick
deriving DecidableEq, Repr

/-- The goroutine of `adoptionLoop`, or the startup which precedes it. -/
def Thread.isAdoption : Thread → Bool
  | .adoption _ _ => true
  | _ => false

/-- The goroutine of `sweepLoop`, also while it waits for a recovery. -/
def Thread.isPeriodicSweep : Thread → Bool
  | .sweep running => running.periodic
  | .recovery _ _ _ _ (.sweep rest) => rest.periodic
  | _ => false

/-- The renewal of a connection's lease is under way. -/
def Thread.isTouchOf (conn : ExecutorConn) : Thread → Bool
  | .touchLease touched _ => touched = conn
  | _ => false

/-- The connection is open and its pumps are running. -/
def Memory.pumping (memory : Memory) (conn : ExecutorConn) : Bool :=
  match memory.conns.lookup conn with
  | none => false
  | some state => state.handshakeDone && !state.closed

/-- `NewManager`, `New` and the beginning of `Start`. -/
def newInstance (config : Config) (now : Time) : Instance where
  manager := newManager
  registry := newRegistry
  conns := ∅
  nextConn := 0
  nextReq := 0
  threads := [.adoption true (.adopt (now + config.leaseDuration))]

/-- A trigger reaches an instance. -/
def Trigger.fire (config : Config) (self : UUID) (now : Time)
    (relay : Instance) : Trigger → Option (Memory × List Thread)
  | .accept key applicationVersion =>
      -- The server listens once the startup has set the instance identity.
      if relay.manager.instanceID = some self ∧
          isValidIdentifier config key.executorID false then
        let conn : ExecutorConn :=
          ⟨key, applicationVersion, relay.nextConn⟩
        some
          ({ relay.toMemory with nextConn := relay.nextConn + 1 },
            [.handshake conn (.upsert (now + config.hubLeaseDuration))])
      else none
  | .hangup conn =>
      if relay.pumping conn then some (relay.closeConn conn)
      else none
  | .heartbeat conn =>
      if relay.pumping conn ∧
          relay.threads.all fun thread => !thread.isTouchOf conn then
        some
          (relay.toMemory,
            [.touchLease conn (now + config.hubLeaseDuration)])
      else none
  | .adoptionTick =>
      if !config.standalone ∧
          relay.threads.all fun thread => !thread.isAdoption then
        some
          (relay.toMemory,
            [.adoption false (.adopt (now + config.leaseDuration))])
      else none
  | .sweepTick =>
      if relay.threads.all fun thread => !thread.isPeriodicSweep then
        some
          (relay.toMemory,
            [.sweep ⟨true, [], relay.manager.deadApps⟩])
      else none

/-! ## Steps -/

/-- One step of the deployment. -/
inductive Activity where
  | advance (elapsed : Nat)
  | start (self : UUID)
  | crash (self : UUID)
  | trigger (self : UUID) (trigger : Trigger)
  | exec (self : UUID) (thread : Thread) (reply : Reply)

/-- Replace the state of one instance and the executors table. -/
def Deployment.put (deployment : Deployment) (self : UUID) (table : ExecutorTable)
    (memory : Memory) (threads : List Thread) : Deployment :=
  { deployment with
    executors := table
    instances :=
      deployment.instances.insert self { toMemory := memory, threads := threads } }

/-- Take a step; `none` when it is not possible. -/
def Deployment.step (config : Config) (deployment : Deployment) :
    Activity → Option Deployment
  | .advance elapsed => some { deployment with now := deployment.now + elapsed }
  | .start self =>
      if deployment.instances.lookup self = none then
        some
          { deployment with
            instances :=
              deployment.instances.insert self
                (newInstance config deployment.now) }
      else none
  | .crash self =>
      if deployment.instances.lookup self = none then none
      else some { deployment with instances := deployment.instances.erase self }
  | .trigger self trigger =>
      match deployment.instances.lookup self with
      | none => none
      | some relay =>
          (trigger.fire config self deployment.now relay).map
            fun (memory, spawned) =>
              deployment.put self deployment.executors memory
                (spawned ++ relay.threads)
  | .exec self thread reply =>
      match deployment.instances.lookup self with
      | none => none
      | some relay =>
          if thread ∈ relay.threads then
            (thread.resume config self deployment.now deployment.executors
              relay.toMemory reply).map
              fun (memory, spawned) =>
                deployment.put self
                  (thread.write self deployment.now deployment.executors reply)
                  memory (spawned ++ relay.threads.erase thread)
          else none

/-- The step dispatches a recovery of `key` from `self`. -/
def Activity.dispatches (self : UUID) (key : ExecutorKey) : Activity → Bool
  | .exec acting (.graceLoop target _ _ _) _ => acting = self && target = key
  | .exec acting (.sweep ⟨_, (target, _) :: _, _⟩) _ =>
      acting = self && target = key && target.executorID ≠ ""
  | _ => false

/--
A goroutine which has decided that `key` is dead and will mark it so, or
recover it, or which may try its recovery once more.
-/
def Thread.pursues (key : ExecutorKey) : Thread → Bool
  | .expiry target _ _ => target = key
  | .graceLoop target _ _ _ => target = key
  | .recovery _ target _ _ (.grace _) => target = key
  | .recovery _ _ _ _ (.sweep rest) => rest.rows.any fun row => row.1 = key
  | .sweep running => running.rows.any fun row => row.1 = key
  | _ => false

/-! ## Common histories -/

/-- An instance starts, finds nothing to adopt and learns its identity. -/
def boots (config : Config) (now : Time) (self : UUID) : List Activity :=
  [.start self,
    .exec self (.adoption true (.adopt (now + config.leaseDuration))) .ok,
    .exec self (.adoption true (.deliver [])) .ok]

/-- An executor connects and completes its handshake. -/
def connects (config : Config) (now : Time) (self : UUID)
    (conn : ExecutorConn) : List Activity :=
  [.trigger self (.accept conn.key conn.applicationVersion),
    .exec self (.handshake conn (.upsert (now + config.hubLeaseDuration))) .ok,
    .exec self (.handshake conn .register) .ok,
    .exec self (.handshake conn .onConnect) .ok]

/-- The socket of an executor is lost and its connection torn down. -/
def disconnects (self : UUID) (conn : ExecutorConn) : List Activity :=
  [.trigger self (.hangup conn),
    .exec self (.teardown conn .unregister) .ok,
    .exec self (.teardown conn .disconnect) .ok,
    .exec self (.teardown conn .onDisconnect) .ok]

/-- A grace timer fires and the executor is marked dead. -/
def expires (self : UUID) (watcher : Watcher) : List Activity :=
  [.exec self (.watcher watcher) .ok,
    .exec self (.expiry watcher.key watcher.version .lookup) .ok,
    .exec self (.expiry watcher.key watcher.version .markDead) .ok]

/-- The defaults of the relay. -/
def defaultConfig : Config where
  hubLeaseDuration := 60 * second
  haLeaseDuration := 0
  standalone := false
  executorTimeoutSecs _ := none
  isPrint _ := true

/-- An instance. -/
def relayA : UUID := ⟨0xA⟩

/-- Another instance. -/
def relayB : UUID := ⟨0xB⟩

/-- The connections of one executor, in the order it makes them. -/
def execConn (serial : Nat) : ExecutorConn :=
  ⟨⟨⟨7⟩, "exec-1"⟩, "v1", serial⟩

/-- A peer at the same version acknowledges every recovery. -/
def acknowledgingPeer : RecoveryWorld where
  direct := none
  findHealthyPeers := .ok [⟨⟨7⟩, "exec-2", "v1"⟩]
  sendRecovery _ := ⟨.ok (some ⟨true, none⟩), false⟩
  transportProbes := true
  probe _ := .truthful
  allowVersionMismatch := false

/-- An executor and a peer connect, the executor is lost, declared dead and its recovery dispatched. -/
def recoveryDispatched : List Activity :=
  boots defaultConfig 0 relayA ++
    connects defaultConfig 0 relayA (execConn 0) ++
    connects defaultConfig 0 relayA ⟨⟨⟨7⟩, "exec-2"⟩, "v1", 1⟩ ++
    disconnects relayA (execConn 0) ++
    [.advance 60000000000] ++
    expires relayA ⟨(execConn 0).key, "v1", 0, 0, 60 * second⟩ ++
    [.exec relayA (.graceLoop (execConn 0).key "v1" 1 (60 * second)) .ok]

/-- The acknowledgement arrives and the record is deleted. -/
def recordDeleted : List Activity :=
  let key := (execConn 0).key
  [.exec relayA (.recovery 0 key "v1" .awaiting (.grace 1))
      (.recovered acknowledgingPeer []),
    .exec relayA (.recovery 0 key "v1" .deleteTracked (.grace 1)) .ok,
    .exec relayA (.recovery 0 key "v1" .deleteRow (.grace 1)) .ok]

/-! ## Views of a deployment -/

namespace Deployment

/-- The stored row of an executor. -/
def row (deployment : Deployment) (key : ExecutorKey) : Option Executor :=
  deployment.executors.lookup key

/-- The entry of an executor in the lifecycle manager of an instance. -/
def tracked (deployment : Deployment) (self : UUID) (key : ExecutorKey) :
    Option TrackedExecutor :=
  (deployment.instances.lookup self).bind fun relay =>
    relay.manager.executors.lookup key

/-- The connection of an executor in the registry of an instance. -/
def registered (deployment : Deployment) (self : UUID) (key : ExecutorKey) :
    Option ExecutorConn :=
  (deployment.instances.lookup self).bind fun relay =>
    relay.registry.getExecutorConn key

/-- The state of a connection of an instance. -/
def connState (deployment : Deployment) (self : UUID) (conn : ExecutorConn) :
    Option ConnState :=
  (deployment.instances.lookup self).bind fun relay =>
    relay.conns.lookup conn

/-- The goroutines of an instance. -/
def threadsOf (deployment : Deployment) (self : UUID) : List Thread :=
  ((deployment.instances.lookup self).map Instance.threads).getD []

/-- The stored row of an executor has a status. -/
def HasStatus (deployment : Deployment) (key : ExecutorKey)
    (status : ExecutorStatus) : Prop :=
  ∃ row ∈ deployment.row key, row.status = status

instance (deployment : Deployment) (key : ExecutorKey)
    (status : ExecutorStatus) :
    Decidable (deployment.HasStatus key status) :=
  inferInstanceAs (Decidable (∃ row ∈ deployment.row key, _ = status))

/-- The lifecycle manager of an instance has an executor in a state. -/
def InState (deployment : Deployment) (self : UUID) (key : ExecutorKey)
    (state : Liveness.State) : Prop :=
  ∃ exec ∈ deployment.tracked self key, exec.state = state

instance (deployment : Deployment) (self : UUID) (key : ExecutorKey)
    (state : Liveness.State) :
    Decidable (deployment.InState self key state) :=
  inferInstanceAs (Decidable (∃ exec ∈ deployment.tracked self key, _ = state))

/-- A goroutine of some instance has a property. -/
def SomeThread (deployment : Deployment) (has : UUID → Thread → Prop) : Prop :=
  ∃ entry ∈ deployment.instances.entries, ∃ thread ∈ entry.2.threads,
    has entry.1 thread

instance (deployment : Deployment) (has : UUID → Thread → Prop)
    [∀ self thread, Decidable (has self thread)] :
    Decidable (deployment.SomeThread has) :=
  inferInstanceAs
    (Decidable (∃ entry ∈ deployment.instances.entries,
      ∃ thread ∈ entry.2.threads, has entry.1 thread))

theorem someThread_iff {deployment : Deployment}
    {has : UUID → Thread → Prop} :
    deployment.SomeThread has ↔
      ∃ self, ∃ thread ∈ deployment.threadsOf self, has self thread := by
  constructor
  · rintro ⟨⟨self, relay⟩, present, thread, member, holds⟩
    refine ⟨self, thread, ?_, holds⟩
    rw [threadsOf, mem_entries_iff.mp present]
    exact member
  · rintro ⟨self, thread, member, holds⟩
    rw [threadsOf] at member
    cases present : deployment.instances.lookup self with
    | none => simp [present] at member
    | some relay =>
        rw [present] at member
        exact ⟨⟨self, relay⟩, mem_entries_iff.mpr present, thread, member,
          holds⟩

end Deployment

end DbosRelay.Cluster
