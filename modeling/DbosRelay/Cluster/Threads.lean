import DbosRelay.Hub.Registry
import DbosRelay.Liveness.Dispatch
import DbosRelay.Liveness.Manager
import DbosRelay.Store.Executors

/-!
# The goroutines of one instance

One relay instance runs the socket hub, the lifecycle manager and the instance
manager over one shared memory.  Their goroutines interleave between any two
accesses to that memory or to the database, so each goroutine is a value which
records how far it has come, and `Thread.resume` takes it over its next access.

A write to the database may be applied, may fail, or may be applied although
its answer is lost; the reply of a step says which.  The goroutines of the
probe endpoint (`internal/liveness/probe.go`), which serve executors without a
socket, are not part of this system.

Sources: `internal/hub/hub.go`, `internal/hub/conn.go`,
`internal/liveness/manager.go`, `internal/ha/instance.go`.
-/

namespace DbosRelay.Cluster

open DbosRelay.Basic
open DbosRelay.Hub
open DbosRelay.Library.Tables
open DbosRelay.Liveness
open DbosRelay.Store

/-! ## Settings -/

/-- What the instances are configured with. -/
structure Config where
  /-- `Hub.leaseDuration`. -/
  hubLeaseDuration : Duration
  /-- `ManagerOptions.LeaseDuration` of the instance manager. -/
  haLeaseDuration : Duration
  standalone : Bool
  /-- `executorTimeoutSecs` of each application's decoded settings. -/
  executorTimeoutSecs : UUID → Option Int
  /-- `unicode.IsPrint`. -/
  isPrint : Char → Bool

/-- `LeaseDuration` with the default of `NewManager`. -/
def Config.leaseDuration (config : Config) : Duration :=
  if config.haLeaseDuration ≤ 0 then 60 * second else config.haLeaseDuration

/-- `unicode.IsControl`. -/
def isControl (char : Char) : Bool :=
  char.toNat < 0x20 || (0x7f ≤ char.toNat && char.toNat < 0xa0)

/-- `isValidIdentifier`. -/
def isValidIdentifier (config : Config) (identifier : String)
    (allowEmpty : Bool) : Bool :=
  if identifier = "" then allowEmpty
  else if 255 < identifier.utf8ByteSize then false
  else identifier.toList.all fun char =>
    !(isControl char || !config.isPrint char)

/-! ## Goroutines -/

/-- `ServeHTTP` after the executor has sent its information. -/
inductive HandshakePhase where
  | upsert (leaseExpires : Time)
  | register
  | onConnect
deriving DecidableEq, Repr

/-- The `unregister` callback of a closed connection. -/
inductive TeardownPhase where
  | unregister
  | disconnect
  | onDisconnect
deriving DecidableEq, Repr

/-- `watchGracePeriod` after its critical section. -/
inductive ExpiryPhase where
  | lookup
  | evict
  | markDead
deriving DecidableEq, Repr

/-- `RecoverDeadExecutor`: waiting for its verdict, then deleting the record. -/
inductive RecoveryPhase where
  | awaiting
  | deleteTracked
  | deleteRow
deriving DecidableEq, Repr

/--
`SweepDeadExecutors` for one application at a time: the listed rows which are
still to be recovered and the applications which are still to be listed.  The
periodic sweep of `sweepAll` has several, the one started by a connect one.
-/
structure Sweep where
  periodic : Bool
  rows : List (ExecutorKey × String)
  apps : List UUID
deriving DecidableEq, Repr

/-- Who called `RecoverDeadExecutor`. -/
inductive Caller where
  | grace (attempt : Nat)
  | sweep (rest : Sweep)
deriving DecidableEq, Repr

/-- `reconcileStartup` and one iteration of `adoptionLoop`. -/
inductive AdoptionPhase where
  | adopt (leaseExp : Time)
  | deliver (adopted : List (ExecutorKey × String))
  | reap (graceCutoff : Time)
deriving DecidableEq, Repr

/-- A goroutine between two accesses to shared state. -/
inductive Thread where
  | handshake (conn : ExecutorConn) (phase : HandshakePhase)
  | teardown (conn : ExecutorConn) (phase : TeardownPhase)
  | closeExisting (conn : ExecutorConn)
  | touchLease (conn : ExecutorConn) (renewalExpires : Time)
  | watcher (watcher : Watcher)
  | expiry (key : ExecutorKey) (version : String) (phase : ExpiryPhase)
  | graceLoop (key : ExecutorKey) (version : String) (attempt : Nat)
      (wakeAt : Time)
  | recovery (reqID : Nat) (key : ExecutorKey) (version : String)
      (phase : RecoveryPhase) (caller : Caller)
  | sweep (sweep : Sweep)
  | adoption (startup : Bool) (phase : AdoptionPhase)
deriving DecidableEq, Repr

/-- The answer a goroutine waits for. -/
inductive Reply where
  | ok
  | failed (error : String)
  | lost (error : String)
  | recovered (world : RecoveryWorld) (workflows : List PendingWorkflow)

/-- The statement takes effect. -/
def Reply.applied : Reply → Bool
  | .ok | .lost _ => true
  | _ => false

/-- The caller sees no error. -/
def Reply.succeeded : Reply → Bool
  | .ok => true
  | _ => false

theorem Reply.applied_of_succeeded {reply : Reply}
    (succeeded : reply.succeeded = true) : reply.applied = true := by
  cases reply with
  | ok => rfl
  | failed error => cases succeeded
  | lost error => rfl
  | recovered world workflows => cases succeeded

/-- The answer acknowledges the recovery of `key`, whose record is deleted next. -/
def Reply.confirms (key : ExecutorKey) (version : String) : Reply → Bool
  | .recovered world workflows =>
      match (recoverDeadExecutor world key.appID key.executorID version
          workflows).1 with
      | .confirmed _ => true
      | .refused _ => false
  | _ => false

/-! ## Memory -/

/-- The fields of an `ExecutorConn` which change; its pumps start when its handshake is done. -/
structure ConnState where
  handshakeDone : Bool
  closed : Bool
  lastRenewedAt : Time
deriving DecidableEq, Repr

/-- The memory the goroutines of an instance share. -/
structure Memory where
  manager : Manager
  registry : Registry
  conns : Table ExecutorConn ConnState
  nextConn : Nat
  nextReq : Nat

/-- `ExecutorConn.Close`: the first call starts the teardown. -/
def Memory.closeConn (memory : Memory) (conn : ExecutorConn) :
    Memory × List Thread :=
  match memory.conns.lookup conn with
  | none => (memory, [])
  | some state =>
      if state.closed then (memory, [])
      else
        ({ memory with
            conns := memory.conns.insert conn { state with closed := true } },
          [.teardown conn .unregister])

/-- `ExecutorConn.leaseDuration`, which the hub leaves at its default. -/
def connLeaseDuration : Duration := 60 * second

/-- `maxRetries` of the recovery goroutine. -/
def maxRetries : Nat := 3

/-- The pause after a failed attempt: one second, then doubled. -/
def backoff (attempt : Nat) : Duration := 2 ^ (attempt - 1) * second

/-- The executor has a foreign owner, in the words of `watchGracePeriod`. -/
def isOtherOwner (manager : Manager) (row : Executor) : Bool :=
  match manager.instanceID, row.ownerInstanceID with
  | some self, some owner => owner ≠ self
  | _, _ => false

/-- The lease of the row has not run out. -/
def isFutureLease (row : Executor) (now : Time) : Bool :=
  match row.leaseExpiresAt with
  | some lease => now < lease
  | none => false

/-- The timeout a lookup with this reply resolves for an application. -/
def timeoutFor (config : Config) (reply : Reply) (appID : UUID) : Duration :=
  resolveTimeout
    (if reply.succeeded then config.executorTimeoutSecs appID else none)

/-! ## One access of a goroutine -/

/-- The statement a goroutine of instance `self` issues next, if any. -/
def Thread.statement (self : UUID) : Thread → Option Statement
  | .handshake conn (.upsert leaseExpires) =>
      some
        (.upsertExecutor conn.key conn.applicationVersion (some self)
          (some leaseExpires))
  | .teardown conn .disconnect => some (.disconnectExecutor conn.key)
  | .touchLease conn renewalExpires =>
      some (.touchExecutorLastSeen conn.key (some renewalExpires))
  | .expiry key _ .markDead => some (.setExecutorDead key)
  | .recovery _ key _ .deleteRow _ => some (.deleteExecutor key)
  | .adoption _ (.adopt leaseExp) =>
      some (.adoptExpiredExecutors self (some leaseExp))
  | .adoption _ (.reap graceCutoff) =>
      some (.reapExpiredExecutors graceCutoff)
  | _ => none

/-- The executors table after a goroutine's access. -/
def Thread.write (self : UUID) (now : Time) (table : ExecutorTable)
    (reply : Reply) (thread : Thread) : ExecutorTable :=
  match thread.statement self with
  | none => table
  | some statement =>
      if reply.applied then statement.run now table else table

/-- What follows the return of `RecoverDeadExecutor`. -/
def Caller.resume (now : Time) (memory : Memory) (key : ExecutorKey)
    (version : String) (error : Option RecoveryError) :
    Caller → Memory × List Thread
  | .sweep rest => (memory, [.sweep rest])
  | .grace attempt =>
      match error with
      | none => (memory, [])
      | some error =>
          if attempt = maxRetries then
            if error = .noHealthyPeers then (memory, [])
            else
              ({ memory with manager := memory.manager.recoveryFailed key },
                [])
          else
            (memory,
              [.graceLoop key version (attempt + 1) (now + backoff attempt)])

/-- `RecoverDeadExecutor` is called. -/
def Memory.dispatch (memory : Memory) (key : ExecutorKey) (version : String)
    (caller : Caller) : Memory × List Thread :=
  ({ memory with nextReq := memory.nextReq + 1 },
    [.recovery memory.nextReq key version .awaiting caller])

/-- `ServeHTTP` from the `UpsertExecutor` on. -/
def resumeHandshake (now : Time) (memory : Memory) (conn : ExecutorConn)
    (reply : Reply) : HandshakePhase → Memory × List Thread
  | .upsert _ =>
      if reply.succeeded then (memory, [.handshake conn .register])
      else (memory, [])
  | .register =>
      let existing := (memory.registry.getExecutorConn conn.key).toList
      ({ memory with
          registry := memory.registry.register conn
          conns :=
            memory.conns.insert conn
              { handshakeDone := false
                closed := false
                lastRenewedAt := now } },
        .handshake conn .onConnect :: existing.map Thread.closeExisting)
  | .onConnect =>
      let connected :=
        memory.manager.onConnect conn.key conn.applicationVersion .socket
      ({ memory with
          manager := connected.1
          conns :=
            modify memory.conns conn fun state =>
              { state with handshakeDone := true } },
        if connected.2 = none then
          [.sweep ⟨false, [], [conn.key.appID]⟩]
        else [])

/-- The `unregister` callback. -/
def resumeTeardown (config : Config) (now : Time) (memory : Memory)
    (conn : ExecutorConn) (reply : Reply) :
    TeardownPhase → Memory × List Thread
  | .unregister =>
      match memory.registry.unregister conn with
      | none => (memory, [])
      | some registry =>
          ({ memory with registry := registry },
            [.teardown conn .disconnect])
  -- An error of the write is logged and the callback goes on.
  | .disconnect => (memory, [.teardown conn .onDisconnect])
  | .onDisconnect =>
      let result :=
        memory.manager.onDisconnect now
          (timeoutFor config reply conn.key.appID) conn.key .socket
      ({ memory with manager := result.1 },
        result.2.toList.map Thread.watcher)

/-- `triggerLeaseTouch` once its write has returned. -/
def resumeTouchLease (now : Time) (memory : Memory) (conn : ExecutorConn)
    (reply : Reply) : Memory × List Thread :=
  if reply.succeeded then
    ({ memory with
        conns :=
          modify memory.conns conn fun state =>
            { state with lastRenewedAt := now } }, [])
  else
    match memory.conns.lookup conn with
    | none => (memory, [])
    | some state =>
        if connLeaseDuration < now - state.lastRenewedAt then
          memory.closeConn conn
        else (memory, [])

/-- `watchGracePeriod` from the ownership lookup on. -/
def resumeExpiry (now : Time) (table : ExecutorTable) (memory : Memory)
    (key : ExecutorKey) (version : String) (reply : Reply) :
    ExpiryPhase → Memory × List Thread
  | .lookup =>
      match table.lookup key with
      | some row =>
          if reply.succeeded ∧ row.status = .connected ∧
              isOtherOwner memory.manager row ∧ isFutureLease row now then
            (memory, [.expiry key version .evict])
          else (memory, [.expiry key version .markDead])
      | none => (memory, [.expiry key version .markDead])
  | .evict =>
      ({ memory with manager := memory.manager.evictExecutor key }, [])
  | .markDead =>
      if reply.succeeded ∧ (setExecutorDead table key).isSome then
        (memory, [.graceLoop key version 1 now])
      else (memory, [])

/-- `RecoverDeadExecutor`. -/
def resumeRecovery (now : Time) (memory : Memory) (reqID : Nat)
    (key : ExecutorKey) (version : String) (caller : Caller)
    (reply : Reply) : RecoveryPhase → Option (Memory × List Thread)
  | .awaiting =>
      match reply with
      | .recovered world workflows =>
          match (recoverDeadExecutor world key.appID key.executorID version
              workflows).1 with
          | .confirmed _ =>
              some
                (memory, [.recovery reqID key version .deleteTracked caller])
          | .refused error =>
              some (caller.resume now memory key version (some error))
      | _ => none
  | .deleteTracked =>
      some
        ({ memory with manager := memory.manager.evictExecutor key },
          [.recovery reqID key version .deleteRow caller])
  | .deleteRow =>
      match reply with
      | .ok => some (caller.resume now memory key version none)
      | .failed error | .lost error =>
          some
            (caller.resume now memory key version
              (some (.deletingRecord error)))
      | .recovered _ _ => none

/-- `SweepDeadExecutors` and the loop of `sweepAll`. -/
def resumeSweep (table : ExecutorTable) (memory : Memory) (reply : Reply)
    (sweep : Sweep) : Memory × List Thread :=
  match sweep.rows, sweep.apps with
  | (key, version) :: rows, apps =>
      let rest : Sweep := ⟨sweep.periodic, rows, apps⟩
      if key.executorID = "" then (memory, [.sweep rest])
      else memory.dispatch key version (.sweep rest)
  | [], [] => (memory, [])
  | [], appID :: apps =>
      let rows :=
        if reply.succeeded then
          (listDeadExecutorsByApplication table appID).map fun listed =>
            (listed.1, listed.2.applicationVersion)
        else []
      (memory, [.sweep ⟨sweep.periodic, rows, apps⟩])

/-- `reconcileStartup` and `adoptionLoop`. -/
def resumeAdoption (config : Config) (self : UUID) (now : Time)
    (table : ExecutorTable) (memory : Memory) (startup : Bool)
    (reply : Reply) : AdoptionPhase → Memory × List Thread
  | .adopt _ =>
      let adopted :=
        if reply.succeeded then adoptedExecutors table now self else []
      (memory, [.adoption startup (.deliver adopted)])
  | .deliver ((key, version) :: adopted) =>
      let result :=
        memory.manager.adoptDisconnected now
          (timeoutFor config reply key.appID) key version
      ({ memory with manager := result.1 },
        [.adoption startup (.deliver adopted), .watcher result.2])
  | .deliver [] =>
      if startup then
        -- `Start` returns and the instance learns its own identity.
        ({ memory with manager := memory.manager.setInstanceID self }, [])
      else
        (memory, [.adoption startup (.reap (now - config.leaseDuration))])
  | .reap _ => (memory, [])

/--
Take a goroutine of instance `self` over its next access: the memory and the
goroutines which come in its place.  `none` is a goroutine which cannot go on.
-/
def Thread.resume (config : Config) (self : UUID) (now : Time)
    (table : ExecutorTable) (memory : Memory) (reply : Reply) :
    Thread → Option (Memory × List Thread)
  | .handshake conn phase =>
      some (resumeHandshake now memory conn reply phase)
  | .teardown conn phase =>
      some (resumeTeardown config now memory conn reply phase)
  | .closeExisting conn => some (memory.closeConn conn)
  | .touchLease conn _ => some (resumeTouchLease now memory conn reply)
  | .watcher armed =>
      if reply.succeeded then
        if armed.fireAt ≤ now then
          let fired := memory.manager.watchGracePeriod armed
          -- The only action of this section is `triggerRecovery`.
          some
            ({ memory with manager := fired.1 },
              fired.2.toList.map fun _ =>
                .expiry armed.key armed.version .lookup)
        else none
      else if armed.timerDone ∈ memory.manager.closed then
        some (memory, [])
      else none
  | .expiry key version phase =>
      some (resumeExpiry now table memory key version reply phase)
  | .graceLoop key version attempt wakeAt =>
      if wakeAt ≤ now then
        some (memory.dispatch key version (.grace attempt))
      else none
  | .recovery reqID key version phase caller =>
      resumeRecovery now memory reqID key version caller reply phase
  | .sweep running => some (resumeSweep table memory reply running)
  | .adoption startup phase =>
      some (resumeAdoption config self now table memory startup reply phase)

end DbosRelay.Cluster
