import DbosRelay.Cluster.Threads
import DbosRelay.Liveness.Timers

/-!
# What one access of a goroutine can do

A goroutine's access to the shared memory passes through one section of the
lifecycle manager, changes the registry or the connections, and leaves other
goroutines in its place.  This module says once, for each of these, which
goroutine can do what; `Effects.of_resume` is the only proof of the development
which looks into the goroutines.
-/

namespace DbosRelay.Cluster

open DbosRelay.Basic
open DbosRelay.Hub
open DbosRelay.Library.Tables
open DbosRelay.Liveness
open DbosRelay.Store

/-! ## The parts of the memory -/

/-- The sections of the lifecycle manager a goroutine may pass through. -/
inductive ManagerChange (config : Config) (self : UUID) (now : Time)
    (manager : Manager) (reply : Reply) : Thread → Manager → Prop where
  | unchanged (thread : Thread) :
      ManagerChange config self now manager reply thread manager
  | onConnect (conn : ExecutorConn) :
      ManagerChange config self now manager reply
        (.handshake conn .onConnect)
        (manager.onConnect conn.key conn.applicationVersion .socket).1
  | onDisconnect (conn : ExecutorConn) :
      ManagerChange config self now manager reply
        (.teardown conn .onDisconnect)
        (manager.onDisconnect now (timeoutFor config reply conn.key.appID)
          conn.key .socket).1
  | adoptDisconnected (startup : Bool) (key : ExecutorKey) (version : String)
      (rest : List (ExecutorKey × String)) :
      ManagerChange config self now manager reply
        (.adoption startup (.deliver ((key, version) :: rest)))
        (manager.adoptDisconnected now (timeoutFor config reply key.appID)
          key version).1
  | watchGracePeriod (watcher : Watcher) (due : watcher.fireAt ≤ now) :
      ManagerChange config self now manager reply
        (.watcher watcher) (manager.watchGracePeriod watcher).1
  | evict (key : ExecutorKey) (version : String) :
      ManagerChange config self now manager reply
        (.expiry key version .evict) (manager.evictExecutor key)
  | delete (reqID : Nat) (key : ExecutorKey) (version : String)
      (caller : Caller) :
      ManagerChange config self now manager reply
        (.recovery reqID key version .deleteTracked caller)
        (manager.evictExecutor key)
  | recoveryFailed (reqID : Nat) (key : ExecutorKey) (version : String)
      (phase : RecoveryPhase) (caller : Caller) :
      ManagerChange config self now manager reply
        (.recovery reqID key version phase caller)
        (manager.recoveryFailed key)
  | identified :
      ManagerChange config self now manager reply
        (.adoption true (.deliver [])) (manager.setInstanceID self)

/-- What a goroutine may do to the registry. -/
inductive RegistryChange (registry : Registry) : Thread → Registry → Prop where
  | unchanged (thread : Thread) : RegistryChange registry thread registry
  | register (conn : ExecutorConn) :
      RegistryChange registry (.handshake conn .register)
        (registry.register conn)
  | unregister (conn : ExecutorConn) {removed : Registry}
      (taken : registry.unregister conn = some removed) :
      RegistryChange registry (.teardown conn .unregister) removed

/-- What a goroutine may do to the connections. -/
inductive ConnsChange (now : Time) (conns : Table ExecutorConn ConnState) :
    Thread → Table ExecutorConn ConnState → Prop where
  | unchanged {thread : Thread}
      (notRegistering : ∀ other, thread ≠ .handshake other .register) :
      ConnsChange now conns thread conns
  | register (conn : ExecutorConn) :
      ConnsChange now conns (.handshake conn .register)
        (conns.insert conn ⟨false, false, now⟩)
  | onConnect (conn : ExecutorConn) :
      ConnsChange now conns (.handshake conn .onConnect)
        (modify conns conn fun state => { state with handshakeDone := true })
  | renew (conn : ExecutorConn) (renewalExpires : Time) :
      ConnsChange now conns (.touchLease conn renewalExpires)
        (modify conns conn fun state => { state with lastRenewedAt := now })
  | close {thread : Thread} (conn : ExecutorConn) (state : ConnState)
      (notRegistering : ∀ other, thread ≠ .handshake other .register)
      (present : conns.lookup conn = some state) :
      ConnsChange now conns thread
        (conns.insert conn { state with closed := true })

/-- The goroutines which may come in the place of one which takes a step. -/
inductive Spawned (config : Config) (self : UUID) (now : Time)
    (table : ExecutorTable) (memory : Memory) (reply : Reply) :
    Thread → Thread → Prop where
  | upserted (conn : ExecutorConn) (leaseExpires : Time)
      (replied : reply.succeeded = true) :
      Spawned config self now table memory reply
        (.handshake conn (.upsert leaseExpires)) (.handshake conn .register)
  | registered (conn : ExecutorConn) :
      Spawned config self now table memory reply
        (.handshake conn .register) (.handshake conn .onConnect)
  | replaced (conn existing : ExecutorConn) :
      Spawned config self now table memory reply
        (.handshake conn .register) (.closeExisting existing)
  | connected (conn : ExecutorConn) :
      Spawned config self now table memory reply
        (.handshake conn .onConnect) (.sweep ⟨false, [], [conn.key.appID]⟩)
  | closed (thread : Thread) (conn : ExecutorConn) (state : ConnState)
      (present : memory.conns.lookup conn = some state)
      (isOpen : state.closed = false) :
      Spawned config self now table memory reply
        thread (.teardown conn .unregister)
  | unregistered (conn : ExecutorConn) (removed : Registry)
      (taken : memory.registry.unregister conn = some removed) :
      Spawned config self now table memory reply
        (.teardown conn .unregister) (.teardown conn .disconnect)
  | disconnected (conn : ExecutorConn) :
      Spawned config self now table memory reply
        (.teardown conn .disconnect) (.teardown conn .onDisconnect)
  | armed (conn : ExecutorConn) (watcher : Watcher)
      (arms : (memory.manager.onDisconnect now
        (timeoutFor config reply conn.key.appID) conn.key .socket).2 =
          some watcher) :
      Spawned config self now table memory reply
        (.teardown conn .onDisconnect) (.watcher watcher)
  | expired (watcher : Watcher) (action : Action)
      (due : watcher.fireAt ≤ now)
      (fired : (memory.manager.watchGracePeriod watcher).2 = some action) :
      Spawned config self now table memory reply
        (.watcher watcher) (.expiry watcher.key watcher.version .lookup)
  | foreign (key : ExecutorKey) (version : String) :
      Spawned config self now table memory reply
        (.expiry key version .lookup) (.expiry key version .evict)
  | unguarded (key : ExecutorKey) (version : String)
      (noForeignLease : reply.succeeded = true →
        ∀ row ∈ table.lookup key, row.status = .connected →
          isOtherOwner memory.manager row = true →
            isFutureLease row now = false) :
      Spawned config self now table memory reply
        (.expiry key version .lookup) (.expiry key version .markDead)
  | markedDead (key : ExecutorKey) (version : String)
      (marked : (setExecutorDead table key).isSome) :
      Spawned config self now table memory reply
        (.expiry key version .markDead) (.graceLoop key version 1 now)
  | attempted (key : ExecutorKey) (version : String) (attempt : Nat)
      (wakeAt : Time) (due : wakeAt ≤ now) :
      Spawned config self now table memory reply
        (.graceLoop key version attempt wakeAt)
        (.recovery memory.nextReq key version .awaiting (.grace attempt))
  | confirmed (reqID : Nat) (key : ExecutorKey) (version : String)
      (caller : Caller) (acknowledged : reply.confirms key version = true) :
      Spawned config self now table memory reply
        (.recovery reqID key version .awaiting caller)
        (.recovery reqID key version .deleteTracked caller)
  | deleting (reqID : Nat) (key : ExecutorKey) (version : String)
      (caller : Caller) :
      Spawned config self now table memory reply
        (.recovery reqID key version .deleteTracked caller)
        (.recovery reqID key version .deleteRow caller)
  | retried (reqID : Nat) (key : ExecutorKey) (version : String)
      (phase : RecoveryPhase) (attempt : Nat) :
      Spawned config self now table memory reply
        (.recovery reqID key version phase (.grace attempt))
        (.graceLoop key version (attempt + 1) (now + backoff attempt))
  | returned (reqID : Nat) (key : ExecutorKey) (version : String)
      (phase : RecoveryPhase) (rest : Sweep) :
      Spawned config self now table memory reply
        (.recovery reqID key version phase (.sweep rest)) (.sweep rest)
  | swept (periodic : Bool) (key : ExecutorKey) (version : String)
      (rows : List (ExecutorKey × String)) (apps : List UUID) :
      Spawned config self now table memory reply
        (.sweep ⟨periodic, (key, version) :: rows, apps⟩)
        (.recovery memory.nextReq key version .awaiting
          (.sweep ⟨periodic, rows, apps⟩))
  | skipped (periodic : Bool) (key : ExecutorKey) (version : String)
      (rows : List (ExecutorKey × String)) (apps : List UUID) :
      Spawned config self now table memory reply
        (.sweep ⟨periodic, (key, version) :: rows, apps⟩)
        (.sweep ⟨periodic, rows, apps⟩)
  | listed (periodic : Bool) (appID : UUID) (apps : List UUID)
      (rows : List (ExecutorKey × String))
      (dead : ∀ key version, (key, version) ∈ rows →
        ∃ row, table.lookup key = some row ∧ row.status = .dead) :
      Spawned config self now table memory reply
        (.sweep ⟨periodic, [], appID :: apps⟩) (.sweep ⟨periodic, rows, apps⟩)
  | adopted (startup : Bool) (leaseExp : Time)
      (adopted : List (ExecutorKey × String)) :
      Spawned config self now table memory reply
        (.adoption startup (.adopt leaseExp))
        (.adoption startup (.deliver adopted))
  | delivered (startup : Bool) (key : ExecutorKey) (version : String)
      (rest : List (ExecutorKey × String)) :
      Spawned config self now table memory reply
        (.adoption startup (.deliver ((key, version) :: rest)))
        (.adoption startup (.deliver rest))
  | adoptionArmed (startup : Bool) (key : ExecutorKey) (version : String)
      (rest : List (ExecutorKey × String)) :
      Spawned config self now table memory reply
        (.adoption startup (.deliver ((key, version) :: rest)))
        (.watcher
          (memory.manager.adoptDisconnected now
            (timeoutFor config reply key.appID) key version).2)
  | reaping :
      Spawned config self now table memory reply
        (.adoption false (.deliver []))
        (.adoption false (.reap (now - config.leaseDuration)))

/-! ## Every access -/

/-- The effects of one access of a goroutine, part by part. -/
structure Effects (config : Config) (acting : UUID) (now : Time)
    (table : ExecutorTable) (memory : Memory) (reply : Reply)
    (thread : Thread) (after : Memory) (spawned : List Thread) : Prop where
  manager : ManagerChange config acting now memory.manager reply thread
    after.manager
  registry : RegistryChange memory.registry thread after.registry
  conns : ConnsChange now memory.conns thread after.conns
  armed : ∀ watcher, Thread.watcher watcher ∈ spawned →
    memory.manager.Arms now
      (timeoutFor config reply watcher.key.appID) watcher.key
      after.manager watcher
  spawned : ∀ next ∈ spawned,
    Spawned config acting now table memory reply thread next

namespace Effects

variable {config : Config} {self : UUID} {now : Time}
variable {table : ExecutorTable} {memory after : Memory}
variable {reply : Reply} {thread next : Thread} {spawned : List Thread}

/-- The goroutine ends. -/
theorem ended
    (notRegistering : ∀ other, thread ≠ .handshake other .register) :
    Effects config self now table memory reply thread memory [] where
  manager := .unchanged _
  registry := .unchanged _
  conns := .unchanged notRegistering
  armed := by simp
  spawned := by simp

/-- The goroutine goes on without touching the memory. -/
theorem goesOn
    (follows : Spawned config self now table memory reply thread next)
    (notWatcher : ∀ watcher, next ≠ .watcher watcher)
    (notRegistering : ∀ other, thread ≠ .handshake other .register) :
    Effects config self now table memory reply thread memory [next] where
  manager := .unchanged _
  registry := .unchanged _
  conns := .unchanged notRegistering
  armed := by
    intro watcher member
    exact (notWatcher watcher (List.mem_singleton.mp member).symm).elim
  spawned := by
    intro other member
    cases List.mem_singleton.mp member
    exact follows

/-- The goroutine ends with a section of the manager. -/
theorem endedInManager {manager : Manager}
    (change : ManagerChange config self now memory.manager reply thread
      manager)
    (notRegistering : ∀ other, thread ≠ .handshake other .register) :
    Effects config self now table memory reply thread
      { memory with manager := manager } [] where
  manager := change
  registry := .unchanged _
  conns := .unchanged notRegistering
  armed := by simp
  spawned := by simp

/-- A recovery is dispatched. -/
theorem dispatched {key : ExecutorKey} {version : String} {caller : Caller}
    (follows : Spawned config self now table memory reply thread
      (.recovery memory.nextReq key version .awaiting caller))
    (notRegistering : ∀ other, thread ≠ .handshake other .register) :
    Effects config self now table memory reply thread
      (memory.dispatch key version caller).1
      (memory.dispatch key version caller).2 where
  manager := .unchanged _
  registry := .unchanged _
  conns := .unchanged notRegistering
  armed := by simp [Memory.dispatch]
  spawned := by
    intro other member
    cases List.mem_singleton.mp member
    exact follows

theorem closeConn {conn : ExecutorConn}
    (notRegistering : ∀ other, thread ≠ .handshake other .register)
    (resumed : memory.closeConn conn = (after, spawned)) :
    Effects config self now table memory reply thread after spawned := by
  rw [Memory.closeConn] at resumed
  split at resumed
  · cases resumed
    exact ended notRegistering
  · rename_i state present
    split_ifs at resumed with alreadyClosed
    · cases resumed
      exact ended notRegistering
    · cases resumed
      refine ⟨.unchanged _, .unchanged _,
        .close conn state notRegistering present, by simp, ?_⟩
      intro other member
      cases List.mem_singleton.mp member
      exact .closed thread conn state present
        (Bool.eq_false_iff.mpr alreadyClosed)

theorem caller
    {reqID : Nat} {key : ExecutorKey} {version : String}
    {phase : RecoveryPhase} {caller : Caller} {error : Option RecoveryError}
    (resumed : caller.resume now memory key version error =
      (after, spawned)) :
    Effects config self now table memory reply
      (.recovery reqID key version phase caller) after spawned := by
  cases caller with
  | sweep rest =>
      cases resumed
      exact goesOn (.returned reqID key version phase rest) (by simp) (by simp)
  | grace attempt =>
      cases error with
      | none =>
          cases resumed
          exact ended (by simp)
      | some error =>
          simp only [Caller.resume] at resumed
          split_ifs at resumed
          · cases resumed
            exact ended (by simp)
          · cases resumed
            exact endedInManager (.recoveryFailed reqID key version phase _)
              (by simp)
          · cases resumed
            exact goesOn (.retried reqID key version phase attempt) (by simp)
              (by simp)

theorem handshake {conn : ExecutorConn} {phase : HandshakePhase}
    (resumed : resumeHandshake now memory conn reply phase =
      (after, spawned)) :
    Effects config self now table memory reply (.handshake conn phase)
      after spawned := by
  cases phase with
  | upsert leaseExpires =>
      simp only [resumeHandshake] at resumed
      split_ifs at resumed with replied
      · cases resumed
        exact goesOn (.upserted conn leaseExpires replied) (by simp) (by simp)
      · cases resumed
        exact ended (by simp)
  | register =>
      cases resumed
      refine ⟨.unchanged _, .register conn, .register conn, by simp, ?_⟩
      intro other member
      rcases List.mem_cons.mp member with rfl | existing
      · exact .registered conn
      · rcases List.mem_map.mp existing with ⟨replaced, -, rfl⟩
        exact .replaced conn replaced
  | onConnect =>
      cases resumed
      have sweeps : ∀ other ∈
          (if (memory.manager.onConnect conn.key conn.applicationVersion
              .socket).2 = none then
            [Thread.sweep ⟨false, [], [conn.key.appID]⟩]
          else []), other = .sweep ⟨false, [], [conn.key.appID]⟩ := by
        intro other member
        split_ifs at member
        · exact List.mem_singleton.mp member
        · simp at member
      refine ⟨.onConnect conn, .unchanged _, .onConnect conn, ?_, ?_⟩
      · intro watcher member
        cases sweeps _ member
      · intro other member
        rw [sweeps other member]
        exact .connected conn

theorem teardown {conn : ExecutorConn} {phase : TeardownPhase}
    (resumed : resumeTeardown config now memory conn reply phase =
      (after, spawned)) :
    Effects config self now table memory reply (.teardown conn phase)
      after spawned := by
  cases phase with
  | unregister =>
      simp only [resumeTeardown] at resumed
      split at resumed
      · cases resumed
        exact ended (by simp)
      · rename_i removed taken
        cases resumed
        refine ⟨.unchanged _, .unregister conn taken, .unchanged (by simp),
          by simp, ?_⟩
        intro other member
        cases List.mem_singleton.mp member
        exact .unregistered conn removed taken
  | disconnect =>
      cases resumed
      exact goesOn (.disconnected conn) (by simp) (by simp)
  | onDisconnect =>
      cases resumed
      refine ⟨.onDisconnect conn, .unchanged _, .unchanged (by simp), ?_, ?_⟩
      · intro watcher member
        rcases List.mem_map.mp member with ⟨started, arms, same⟩
        cases same
        have armed := Manager.arms_of_onDisconnect (Option.mem_toList.mp arms)
        rw [armed.watchedKey]
        exact armed
      · intro other member
        rcases List.mem_map.mp member with ⟨watcher, arms, rfl⟩
        exact .armed conn watcher (Option.mem_toList.mp arms)

theorem touchLease {conn : ExecutorConn} {renewalExpires : Time}
    (resumed : resumeTouchLease now memory conn reply = (after, spawned)) :
    Effects config self now table memory reply
      (.touchLease conn renewalExpires) after spawned := by
  rw [resumeTouchLease] at resumed
  split_ifs at resumed
  · cases resumed
    exact ⟨.unchanged _, .unchanged _, .renew conn renewalExpires, by simp,
      by simp⟩
  · split at resumed
    · cases resumed
      exact ended (by simp)
    · split_ifs at resumed
      · exact closeConn (by simp) resumed
      · cases resumed
        exact ended (by simp)

theorem expiry {key : ExecutorKey} {version : String} {phase : ExpiryPhase}
    (resumed : resumeExpiry now table memory key version reply phase =
      (after, spawned)) :
    Effects config self now table memory reply (.expiry key version phase)
      after spawned := by
  cases phase with
  | lookup =>
      simp only [resumeExpiry] at resumed
      split at resumed
      · rename_i row present
        split_ifs at resumed with foreign
        · cases resumed
          exact goesOn (.foreign key version) (by simp) (by simp)
        · cases resumed
          refine goesOn (.unguarded key version ?_) (by simp) (by simp)
          intro replied stored found isConnected otherOwner
          rw [present] at found
          cases found
          by_contra futureLease
          rw [Bool.not_eq_false] at futureLease
          exact foreign ⟨replied, isConnected, otherOwner, futureLease⟩
      · rename_i absent
        cases resumed
        refine goesOn (.unguarded key version ?_) (by simp) (by simp)
        intro _ stored found
        rw [absent] at found
        cases found
  | evict =>
      cases resumed
      exact endedInManager (.evict key version) (by simp)
  | markDead =>
      simp only [resumeExpiry] at resumed
      split_ifs at resumed with marked
      · cases resumed
        exact goesOn (.markedDead key version marked.2) (by simp) (by simp)
      · cases resumed
        exact ended (by simp)

theorem recovery
    {reqID : Nat} {key : ExecutorKey} {version : String} {caller : Caller}
    {phase : RecoveryPhase}
    (resumed : resumeRecovery now memory reqID key version caller reply
      phase = some (after, spawned)) :
    Effects config self now table memory reply
      (.recovery reqID key version phase caller) after spawned := by
  cases phase with
  | awaiting =>
      simp only [resumeRecovery] at resumed
      split at resumed
      · split at resumed
        · rename_i target verdict
          cases resumed
          refine goesOn (.confirmed reqID key version caller ?_) (by simp)
            (by simp)
          rw [Reply.confirms, verdict]
        · exact Effects.caller (Option.some.inj resumed)
      · cases resumed
  | deleteTracked =>
      cases resumed
      refine ⟨.delete reqID key version caller, .unchanged _,
        .unchanged (by simp), by simp, ?_⟩
      intro other member
      cases List.mem_singleton.mp member
      exact .deleting reqID key version caller
  | deleteRow =>
      simp only [resumeRecovery] at resumed
      split at resumed
      · exact Effects.caller (Option.some.inj resumed)
      · exact Effects.caller (Option.some.inj resumed)
      · exact Effects.caller (Option.some.inj resumed)
      · cases resumed

theorem sweep {running : Sweep}
    (resumed : resumeSweep table memory reply running = (after, spawned)) :
    Effects config self now table memory reply (.sweep running)
      after spawned := by
  rcases running with ⟨periodic, rows, apps⟩
  simp only [resumeSweep] at resumed
  split at resumed
  · split_ifs at resumed
    · cases resumed
      exact goesOn (.skipped _ _ _ _ _) (by simp) (by simp)
    · cases resumed
      exact dispatched (.swept _ _ _ _ _) (by simp)
  · cases resumed
    exact ended (by simp)
  · rename_i appID apps
    cases resumed
    refine goesOn (.listed _ _ _ _ ?_) (by simp) (by simp)
    intro key version member
    split_ifs at member
    · rcases List.mem_map.mp member with ⟨⟨listedKey, row⟩, listed, same⟩
      cases same
      rw [mem_listDeadExecutorsByApplication] at listed
      exact ⟨row, listed.1, listed.2.2⟩
    · simp at member

theorem adoption {startup : Bool} {phase : AdoptionPhase}
    (resumed : resumeAdoption config self now table memory startup reply
      phase = (after, spawned)) :
    Effects config self now table memory reply (.adoption startup phase)
      after spawned := by
  cases phase with
  | adopt leaseExp =>
      cases resumed
      exact goesOn (.adopted startup leaseExp _) (by simp) (by simp)
  | deliver remaining =>
      cases remaining with
      | nil =>
          simp only [resumeAdoption] at resumed
          split_ifs at resumed with isStartup
          · cases resumed
            rw [isStartup]
            exact endedInManager .identified (by simp)
          · cases resumed
            rw [Bool.eq_false_iff.mpr isStartup]
            exact goesOn .reaping (by simp) (by simp)
      | cons head rest =>
          rcases head with ⟨key, version⟩
          cases resumed
          refine ⟨.adoptDisconnected startup key version rest, .unchanged _,
            .unchanged (by simp), ?_, ?_⟩
          · intro watcher member
            have same : watcher = (memory.manager.adoptDisconnected now
                (timeoutFor config reply key.appID) key version).2 := by
              simpa using member
            have arms := memory.manager.arms_adoptDisconnected now
              (timeoutFor config reply key.appID) key version
            rw [same, arms.watchedKey]
            exact arms
          · intro other member
            rcases List.mem_cons.mp member with rfl | armed
            · exact .delivered startup key version rest
            · cases List.mem_singleton.mp armed
              exact .adoptionArmed startup key version rest
  | reap graceCutoff =>
      cases resumed
      exact ended (by simp)

/-- Every access of a goroutine has the listed effects and no others. -/
theorem of_resume
    (resumed : thread.resume config self now table memory reply =
      some (after, spawned)) :
    Effects config self now table memory reply thread after spawned := by
  cases thread with
  | handshake conn phase =>
      exact Effects.handshake (Option.some.inj resumed)
  | teardown conn phase =>
      exact Effects.teardown (Option.some.inj resumed)
  | closeExisting conn =>
      exact Effects.closeConn (by simp) (Option.some.inj resumed)
  | touchLease conn renewalExpires =>
      exact Effects.touchLease (Option.some.inj resumed)
  | watcher armed =>
      simp only [Thread.resume] at resumed
      split_ifs at resumed with replied due cancelled
      · cases resumed
        refine ⟨.watchGracePeriod armed due, .unchanged _,
          .unchanged (by simp), by simp, ?_⟩
        intro other member
        rcases List.mem_map.mp member with ⟨action, acted, rfl⟩
        exact .expired armed action due (Option.mem_toList.mp acted)
      · cases resumed
        exact ended (by simp)
  | expiry key version phase =>
      exact Effects.expiry (Option.some.inj resumed)
  | graceLoop key version attempt wakeAt =>
      simp only [Thread.resume] at resumed
      split_ifs at resumed with due
      cases resumed
      exact dispatched (.attempted key version attempt wakeAt due) (by simp)
  | recovery reqID key version phase caller =>
      exact Effects.recovery resumed
  | sweep running =>
      exact Effects.sweep (Option.some.inj resumed)
  | adoption startup phase =>
      exact Effects.adoption (Option.some.inj resumed)

end Effects

/-! ## The entry of one executor -/

/--
What an access may do to the entry of the executor `key` in a manager whose
next timer is `nextTimer`.
-/
inductive TrackedChange (now : Time) (nextTimer : Nat) (key : ExecutorKey)
    (previous : Option TrackedExecutor) :
    Thread → Option TrackedExecutor → Prop where
  | connected (conn : ExecutorConn) (exec : TrackedExecutor)
      (sameKey : conn.key = key) (unarmed : exec.Unarmed)
      (isConnected : exec.state = .connected) :
      TrackedChange now nextTimer key previous
        (.handshake conn .onConnect) (some exec)
  | disconnected (conn : ExecutorConn) (exec : TrackedExecutor)
      (sameKey : conn.key = key)
      (wasConnected : ∀ old ∈ previous, old.state = .connected)
      (armed : exec.Armed nextTimer) :
      TrackedChange now nextTimer key previous
        (.teardown conn .onDisconnect) (some exec)
  | adopted (startup : Bool) (version : String)
      (rest : List (ExecutorKey × String)) (exec : TrackedExecutor)
      (armed : exec.Armed nextTimer) :
      TrackedChange now nextTimer key previous
        (.adoption startup (.deliver ((key, version) :: rest))) (some exec)
  | expired (watcher : Watcher) (exec : TrackedExecutor)
      (sameKey : watcher.key = key) (due : watcher.fireAt ≤ now)
      (present : previous = some exec)
      (recorded : exec.timer = some watcher.timer)
      (isDisconnected : exec.state = .disconnected) :
      TrackedChange now nextTimer key previous (.watcher watcher)
        (some { exec with state := .dead, timer := none, cancelTimer := none })
  | evicted (version : String) :
      TrackedChange now nextTimer key previous
        (.expiry key version .evict) none
  | deleted (reqID : Nat) (version : String) (caller : Caller) :
      TrackedChange now nextTimer key previous
        (.recovery reqID key version .deleteTracked caller) none

theorem ManagerChange.tracked
    {config : Config} {self : UUID} {now : Time} {manager after : Manager}
    {reply : Reply} {thread : Thread}
    (change : ManagerChange config self now manager reply thread after)
    (invariant : TimerInvariant manager) (key : ExecutorKey) :
    after.executors.lookup key = manager.executors.lookup key ∨
      TrackedChange now manager.nextTimer key (manager.executors.lookup key)
        thread (after.executors.lookup key) := by
  cases change with
  | unchanged => exact Or.inl rfl
  | onConnect conn =>
      by_cases same : key = conn.key
      · rcases invariant.onConnect_self conn.key conn.applicationVersion
          .socket with ⟨exec, found, unarmed, isConnected⟩
        rw [same, found]
        exact Or.inr (.connected conn exec rfl unarmed isConnected)
      · exact Or.inl (Manager.lookup_onConnect_of_ne _ _ same)
  | onDisconnect conn =>
      by_cases same : key = conn.key
      · subst same
        rcases invariant.onDisconnect_self now
            (timeoutFor config reply conn.key.appID) conn.key with
          ⟨wasConnected, watcher, -, arms⟩ | ⟨-, unchanged, -, -⟩
        · rcases arms.entry with ⟨exec, found, armed⟩
          rw [found]
          exact Or.inr (.disconnected conn exec rfl wasConnected armed)
        · exact Or.inl unchanged
      · exact Or.inl (Manager.lookup_onDisconnect_of_ne _ _ _ same)
  | adoptDisconnected startup target version rest =>
      by_cases same : key = target
      · subst same
        have arms := manager.arms_adoptDisconnected now
          (timeoutFor config reply key.appID) key version
        rcases arms.entry with ⟨exec, found, armed⟩
        rw [found]
        exact Or.inr (.adopted startup version rest exec armed)
      · exact Or.inl (Manager.lookup_adoptDisconnected_of_ne _ _ _ same)
  | watchGracePeriod watcher due =>
      rcases manager.watchGracePeriod_cases watcher with
        unchanged | ⟨exec, present, recorded, isDisconnected, expired⟩
      · rw [unchanged]
        exact Or.inl rfl
      · rw [expired, Manager.lookup_store]
        split_ifs with same
        · rw [← same] at present
          rw [present]
          exact Or.inr
            (.expired watcher exec same.symm due rfl recorded isDisconnected)
        · exact Or.inl rfl
  | evict target version =>
      rw [Manager.lookup_evictExecutor]
      split_ifs with same
      · subst same
        exact Or.inr (.evicted version)
      · exact Or.inl rfl
  | delete reqID target version caller =>
      rw [Manager.lookup_evictExecutor]
      split_ifs with same
      · subst same
        exact Or.inr (.deleted reqID version caller)
      · exact Or.inl rfl
  | recoveryFailed reqID target version phase caller =>
      exact Or.inl (manager.lookup_recoveryFailed target key)
  | identified => exact Or.inl rfl

/-- Every section keeps the timer invariant. -/
theorem ManagerChange.timerInvariant
    {config : Config} {self : UUID} {now : Time} {manager after : Manager}
    {reply : Reply} {thread : Thread}
    (change : ManagerChange config self now manager reply thread after)
    (invariant : TimerInvariant manager) :
    TimerInvariant after := by
  cases change with
  | unchanged => exact invariant
  | onConnect conn => exact invariant.onConnect _ _ _
  | onDisconnect conn => exact invariant.onDisconnect _ _ _ _
  | adoptDisconnected startup key version rest =>
      exact invariant.adoptDisconnected _ _ _ _
  | watchGracePeriod watcher due => exact invariant.watchGracePeriod _
  | evict key version => exact invariant.evictExecutor _
  | delete reqID key version caller => exact invariant.evictExecutor _
  | recoveryFailed reqID key version phase caller =>
      exact invariant.recoveryFailed _
  | identified => exact invariant.of_lookup_eq (fun _ => rfl) rfl rfl

theorem ManagerChange.nextTimer_le
    {config : Config} {self : UUID} {now : Time} {manager after : Manager}
    {reply : Reply} {thread : Thread}
    (change : ManagerChange config self now manager reply thread after) :
    manager.nextTimer ≤ after.nextTimer := by
  cases change with
  | unchanged => exact le_rfl
  | onConnect conn => rw [Manager.nextTimer_onConnect]
  | onDisconnect conn => exact Manager.nextTimer_le_onDisconnect _ _ _ _ _
  | adoptDisconnected startup key version rest =>
      rw [(manager.arms_adoptDisconnected _ _ _ _).nextTimer]
      exact Nat.le_succ _
  | watchGracePeriod watcher due =>
      rcases manager.watchGracePeriod_cases watcher with
        unchanged | ⟨exec, -, -, -, expired⟩
      · rw [unchanged]
      · rw [expired]
        exact le_rfl
  | evict key version => exact le_rfl
  | delete reqID key version caller => exact le_rfl
  | recoveryFailed reqID key version phase caller =>
      rw [Manager.nextTimer_recoveryFailed]
  | identified => exact le_rfl

end DbosRelay.Cluster
