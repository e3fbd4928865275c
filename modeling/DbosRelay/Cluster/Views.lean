import DbosRelay.Cluster.Steps

/-!
# The three views of an executor

The registry of an instance, the stored row and the lifecycle manager each
have a view of whether an executor is connected.  A handshake updates them in
the order row, registry, manager; a teardown in the order registry, row,
manager.  The registry's lock is released in between, so a handshake and a
teardown of the same executor may interleave and leave the views in
disagreement.  They agree whenever nothing is under way, as long as a handshake
and a teardown do not overlap and the writes do what they report.
-/

namespace DbosRelay.Cluster

open DbosRelay.Basic
open DbosRelay.Hub
open DbosRelay.Library.Runs
open DbosRelay.Library.Tables
open DbosRelay.Liveness
open DbosRelay.Store

/-! ## The property -/

/-- Registry, store and manager agree on whether an executor is connected. -/
def Deployment.ViewsAgree (deployment : Deployment) (self : UUID)
    (key : ExecutorKey) : Prop :=
  ((deployment.registered self key).isSome = true ↔
      deployment.HasStatus key .connected) ∧
    (deployment.HasStatus key .connected ↔
      deployment.InState self key .connected)

instance (deployment : Deployment) (self : UUID) (key : ExecutorKey) :
    Decidable (deployment.ViewsAgree self key) :=
  inferInstanceAs (Decidable ((_ ↔ _) ∧ (_ ↔ _)))

/-- A handshake of `key` past its `UpsertExecutor`. -/
def Thread.joins (key : ExecutorKey) : Thread → Bool
  | .handshake conn .register => conn.key = key
  | .handshake conn .onConnect => conn.key = key
  | _ => false

/-- A teardown of `key` past a successful `Unregister`. -/
def Thread.leaves (key : ExecutorKey) : Thread → Bool
  | .teardown conn .disconnect => conn.key = key
  | .teardown conn .onDisconnect => conn.key = key
  | _ => false

/-- A handshake or a teardown of `key`, in any phase. -/
def Thread.concerns (key : ExecutorKey) : Thread → Bool
  | .handshake conn _ => conn.key = key
  | .teardown conn _ => conn.key = key
  | _ => false

/-- No handshake and no teardown of an executor is under way. -/
def Deployment.Settled (deployment : Deployment) (self : UUID)
    (key : ExecutorKey) : Prop :=
  ∀ thread ∈ deployment.threadsOf self, thread.concerns key = false

instance (deployment : Deployment) (self : UUID) (key : ExecutorKey) :
    Decidable (deployment.Settled self key) :=
  inferInstanceAs
    (Decidable (∀ thread ∈ deployment.threadsOf self, _ = false))

/-- Connections are made and lost at `self`, and nothing else happens. -/
def Activity.isConnectionStep (self : UUID) : Activity → Bool
  | .advance _ => true
  | .trigger acting (.accept _ _) => acting = self
  | .trigger acting (.hangup _) => acting = self
  | .exec acting (.handshake _ _) _ => acting = self
  | .exec acting (.teardown _ _) _ => acting = self
  | .exec acting (.closeExisting _) _ => acting = self
  | _ => false

/-! ## When handshakes and teardowns keep apart -/

/--
An executor is stored as connected only while no earlier connection of it is
being torn down, a connection is unregistered only while no handshake of the
executor is past that point, and the two writes do what they report.
-/
def connectionsApart (before : Deployment) : Activity → Bool
  | .exec self (.handshake conn (.upsert _)) reply =>
      !reply.applied ||
        (reply.succeeded &&
          (before.threadsOf self).all fun thread =>
            !thread.leaves conn.key)
  | .exec self (.teardown conn .unregister) _ =>
      decide (before.registered self conn.key ≠ some conn) ||
        (before.threadsOf self).all fun thread => !thread.joins conn.key
  | .exec _ (.teardown _ .disconnect) reply => reply.applied
  | _ => true

/-! ## The invariant -/

/-- The step a handshake or a teardown of `key` has reached at `acting`. -/
structure Phased (deployment : Deployment) (acting : UUID)
    (key : ExecutorKey) : Prop where
  wellFormed : deployment.WellFormed
  stored : ∀ thread ∈ deployment.threadsOf acting,
    thread.joins key = true → deployment.HasStatus key .connected
  registered : ∀ conn, .handshake conn .onConnect ∈
      deployment.threadsOf acting →
    conn.key = key → (deployment.registered acting key).isSome = true
  apart : ∀ joining ∈ deployment.threadsOf acting,
    joining.joins key = true →
      ∀ leaving ∈ deployment.threadsOf acting, leaving.leaves key = false
  unregistered : ∀ thread ∈ deployment.threadsOf acting,
    thread.leaves key = true → deployment.registered acting key = none
  notStored : ∀ conn, .teardown conn .onDisconnect ∈
      deployment.threadsOf acting →
    conn.key = key → ¬ deployment.HasStatus key .connected
  agree :
    (∀ thread ∈ deployment.threadsOf acting,
      thread.joins key = false ∧ thread.leaves key = false) →
    deployment.ViewsAgree acting key

/-- A step which leaves the three views of `key` and its phases alone. -/
structure Quiet (before after : Deployment) (acting : UUID)
    (key : ExecutorKey) : Prop where
  row : after.row key = before.row key
  tracked : after.tracked acting key = before.tracked acting key
  registered : after.registered acting key = before.registered acting key
  threads : ∀ thread, thread.joins key = true ∨ thread.leaves key = true →
    (thread ∈ after.threadsOf acting ↔ thread ∈ before.threadsOf acting)

section Views

variable {config : Config} {before after : Deployment}
variable {self : UUID} {key : ExecutorKey}

theorem Phased.of_quiet
    (phased : Phased before self key) (quiet : Quiet before after self key)
    (wellFormed : after.WellFormed) :
    Phased after self key where
  wellFormed := wellFormed
  stored := by
    intro thread member joins
    rw [Deployment.HasStatus, quiet.row]
    exact phased.stored thread
      ((quiet.threads thread (Or.inl joins)).mp member) joins
  registered := by
    intro conn member sameKey
    rw [quiet.registered]
    have joins : (Thread.handshake conn .onConnect).joins key = true := by
      simp [Thread.joins, sameKey]
    exact phased.registered conn
      ((quiet.threads _ (Or.inl joins)).mp member) sameKey
  apart := by
    intro joining joiningMember joins leaving leavingMember
    by_contra leaves
    rw [Bool.not_eq_false] at leaves
    have wasApart := phased.apart joining
      ((quiet.threads joining (Or.inl joins)).mp joiningMember) joins leaving
      ((quiet.threads leaving (Or.inr leaves)).mp leavingMember)
    rw [leaves] at wasApart
    cases wasApart
  unregistered := by
    intro thread member leaves
    rw [quiet.registered]
    exact phased.unregistered thread
      ((quiet.threads thread (Or.inr leaves)).mp member) leaves
  notStored := by
    intro conn member sameKey
    have leaves : (Thread.teardown conn .onDisconnect).leaves key = true := by
      simp [Thread.leaves, sameKey]
    rw [Deployment.HasStatus, quiet.row]
    exact phased.notStored conn
      ((quiet.threads _ (Or.inr leaves)).mp member) sameKey
  agree := by
    intro settled
    have agreed := phased.agree (by
      intro thread member
      by_contra moving
      rw [not_and_or, Bool.not_eq_false, Bool.not_eq_false] at moving
      have kept := settled thread ((quiet.threads thread moving).mpr member)
      rcases moving with joins | leaves
      · rw [joins] at kept
        cases kept.1
      · rw [leaves] at kept
        cases kept.2)
    simpa [Deployment.ViewsAgree, Deployment.HasStatus, Deployment.InState,
      quiet.row, quiet.tracked, quiet.registered] using agreed

/-- Triggers and closed connections leave every view alone. -/
theorem Quiet.of_trigger
    {trigger : Trigger} (takes : Takes config before (.trigger self trigger) after)
    (wellFormed : before.WellFormed) :
    Quiet before after self key where
  row := by
    generalize rowEq : after.row key = row
    have change := takes.row key
    rw [rowEq] at change
    cases change
    rfl
  tracked := by
    generalize entryEq : after.tracked self key = entry
    have change := takes.tracked wellFormed self key
    rw [entryEq] at change
    cases change
    rfl
  registered := by
    generalize connEq : after.registered self key = conn
    have change := takes.registered self key
    rw [connEq] at change
    cases change
    rfl
  threads := by
    intro thread moves
    constructor
    · intro member
      cases takes.thread member with
      | kept activity kept => exact kept
      | triggered trigger relay present starts =>
          cases starts <;> simp [Thread.joins, Thread.leaves] at moves
    · intro member
      cases takes with
      | trigger acting trigger relay memory spawned present effects =>
          rw [Deployment.threadsOf_put, if_pos rfl]
          rw [Deployment.threadsOf_of_lookup present] at member
          exact List.mem_append_right spawned member

/-- A goroutine which concerns no phase of `key` leaves its views alone. -/
theorem Quiet.of_exec
    {thread : Thread} {reply : Reply}
    (takes : Takes config before (.exec self thread reply) after)
    (wellFormed : before.WellFormed)
    (row : ∀ row, RowStep before key (.exec self thread reply) row →
      row = before.row key)
    (tracked : ∀ nextTimer entry, ¬ TrackedChange before.now nextTimer key
      (before.tracked self key) thread entry)
    (registered : ∀ conn, RegisteredStep before self key
      (.exec self thread reply) conn → conn = before.registered self key)
    (notMoving : thread.joins key = false ∧ thread.leaves key = false)
    (spawns : ∀ relay next, before.instances.lookup self = some relay →
      Spawned config self before.now before.executors relay.toMemory reply
        thread next →
      next.joins key = false ∧ next.leaves key = false) :
    Quiet before after self key where
  row := row _ (takes.row key)
  tracked := by
    generalize entryEq : after.tracked self key = entry
    have change := takes.tracked wellFormed self key
    rw [entryEq] at change
    cases change with
    | unchanged => rfl
    | changed _ _ relay present member change =>
        exact (tracked _ _ change).elim
  registered := registered _ (takes.registered self key)
  threads := by
    intro other moves
    constructor
    · intro member
      cases takes.thread member with
      | kept activity kept => exact kept
      | spawned _ _ relay present member follows =>
          rcases spawns relay other present follows with ⟨joins, leaves⟩
          rw [joins, leaves] at moves
          rcases moves with impossible | impossible <;> cases impossible
    · intro member
      cases takes with
      | exec _ _ _ relay memory spawned present running effects =>
          rw [Deployment.threadsOf_put, if_pos rfl]
          rw [Deployment.threadsOf_of_lookup present] at member
          refine List.mem_append_right spawned
            ((List.mem_erase_of_ne ?_).mpr member)
          intro same
          subst same
          rw [notMoving.1, notMoving.2] at moves
          rcases moves with impossible | impossible <;> cases impossible

/-- A handshake of another executor leaves the views alone. -/
theorem Quiet.of_handshake
    {conn : ExecutorConn} {phase : HandshakePhase} {reply : Reply}
    (takes : Takes config before (.exec self (.handshake conn phase) reply)
      after)
    (wellFormed : before.WellFormed) (different : conn.key ≠ key) :
    Quiet before after self key := by
  apply Quiet.of_exec takes wellFormed
  · intro row change
    cases change with
    | unchanged => rfl
    | upserted _ _ _ _ sameKey => exact (different sameKey).elim
  · intro nextTimer entry change
    cases change with
    | connected _ _ sameKey => exact different sameKey
  · intro other change
    cases change with
    | unchanged => rfl
    | registered _ _ sameKey => exact (different sameKey).elim
  · cases phase <;> simp [Thread.joins, Thread.leaves, different]
  · intro relay next present follows
    cases follows <;> simp [Thread.joins, Thread.leaves, different]

/-- A teardown of another executor leaves the views alone. -/
theorem Quiet.of_teardown
    {conn : ExecutorConn} {phase : TeardownPhase} {reply : Reply}
    (takes : Takes config before (.exec self (.teardown conn phase) reply)
      after)
    (wellFormed : before.WellFormed) (different : conn.key ≠ key) :
    Quiet before after self key := by
  apply Quiet.of_exec takes wellFormed
  · intro row change
    cases change with
    | unchanged => rfl
    | disconnected _ _ _ _ sameKey => exact (different sameKey).elim
  · intro nextTimer entry change
    cases change with
    | disconnected _ _ sameKey => exact different sameKey
  · intro other change
    cases change with
    | unchanged => rfl
    | unregistered _ _ sameKey => exact (different sameKey).elim
  · cases phase <;> simp [Thread.joins, Thread.leaves, different]
  · intro relay next present follows
    cases follows <;> simp [Thread.joins, Thread.leaves, different]

/-- Closing a replaced connection leaves the views alone. -/
theorem Quiet.of_closeExisting
    {conn : ExecutorConn} {reply : Reply}
    (takes : Takes config before (.exec self (.closeExisting conn) reply)
      after)
    (wellFormed : before.WellFormed) :
    Quiet before after self key := by
  apply Quiet.of_exec takes wellFormed
  · intro row change
    cases change
    rfl
  · intro nextTimer entry change
    cases change
  · intro other change
    cases change
    rfl
  · exact ⟨rfl, rfl⟩
  · intro relay next present follows
    cases follows
    exact ⟨rfl, rfl⟩

/-- An `UpsertExecutor` which is lost leaves the views alone. -/
theorem Quiet.of_lostUpsert
    {conn : ExecutorConn} {leaseExpires : Time} {reply : Reply}
    (takes : Takes config before
      (.exec self (.handshake conn (.upsert leaseExpires)) reply) after)
    (wellFormed : before.WellFormed) (lost : reply.applied = false) :
    Quiet before after self key := by
  refine Quiet.of_exec takes wellFormed ?_ ?_ ?_ ⟨rfl, rfl⟩ ?_
  · intro row change
    cases change with
    | unchanged => rfl
    | upserted _ _ _ _ _ _ written =>
        rw [lost] at written
        cases written
  · intro nextTimer entry change
    cases change
  · intro other change
    cases change
    rfl
  · intro relay next present follows
    cases follows with
    | upserted _ _ replied =>
        rw [Reply.applied_of_succeeded replied] at lost
        cases lost
    | closed => exact ⟨rfl, rfl⟩

/-- `Unregister` of a replaced connection leaves the views alone. -/
theorem Quiet.of_replacedUnregister
    {conn : ExecutorConn} {reply : Reply}
    (takes : Takes config before (.exec self (.teardown conn .unregister) reply)
      after)
    (wellFormed : before.WellFormed)
    (replaced : before.registered self conn.key ≠ some conn) :
    Quiet before after self key := by
  refine Quiet.of_exec takes wellFormed ?_ ?_ ?_ ⟨rfl, rfl⟩ ?_
  · intro row change
    cases change
    rfl
  · intro nextTimer entry change
    cases change
  · intro other change
    cases change with
    | unchanged => rfl
    | unregistered _ _ sameKey _ wasRegistered =>
        subst sameKey
        exact (replaced wasRegistered).elim
  · intro relay next present follows
    cases follows with
    | unregistered _ removed removal =>
        rw [Deployment.registered_of_lookup present] at replaced
        exact (replaced (Registry.getExecutorConn_of_unregister removal)).elim
    | closed => exact ⟨rfl, rfl⟩

/-! ## The six steps -/

/-- A handshake starts no teardown. -/
theorem leaves_of_handshake
    {conn : ExecutorConn} {phase : HandshakePhase} {reply : Reply}
    {thread : Thread}
    (takes : Takes config before (.exec self (.handshake conn phase) reply)
      after)
    (member : thread ∈ after.threadsOf self)
    (leaves : thread.leaves key = true) :
    thread ∈ before.threadsOf self := by
  cases takes.thread member with
  | kept activity kept => exact kept
  | spawned _ _ relay present running follows =>
      cases follows <;> cases leaves

/-- A teardown starts no handshake. -/
theorem joins_of_teardown
    {conn : ExecutorConn} {phase : TeardownPhase} {reply : Reply}
    {thread : Thread}
    (takes : Takes config before (.exec self (.teardown conn phase) reply)
      after)
    (member : thread ∈ after.threadsOf self)
    (joins : thread.joins key = true) :
    thread ∈ before.threadsOf self := by
  cases takes.thread member with
  | kept activity kept => exact kept
  | spawned _ _ relay present running follows =>
      cases follows <;> cases joins

/--
A phase of a handshake ends while no teardown of the executor is under way.
What remains to show is what the step does to the views.
-/
theorem Phased.of_handshake
    {conn : ExecutorConn} {phase : HandshakePhase} {reply : Reply}
    (phased : Phased before self key)
    (takes : Takes config before (.exec self (.handshake conn phase) reply)
      after)
    (apart : ∀ thread ∈ before.threadsOf self, thread.leaves key = false)
    (stored : after.HasStatus key .connected)
    (registered : ∀ other, .handshake other .onConnect ∈
        after.threadsOf self →
      other.key = key → (after.registered self key).isSome = true)
    (agree : (∀ thread ∈ after.threadsOf self, thread.joins key = false) →
      after.ViewsAgree self key) :
    Phased after self key := by
  have nothingLeaves : ∀ thread ∈ after.threadsOf self,
      thread.leaves key = false := by
    intro thread member
    by_contra leaves
    rw [Bool.not_eq_false] at leaves
    have old := apart thread (leaves_of_handshake takes member leaves)
    rw [leaves] at old
    cases old
  exact
    { wellFormed := phased.wellFormed.step takes
      stored := fun _ _ _ => stored
      registered := registered
      apart := fun _ _ _ => nothingLeaves
      unregistered := by
        intro thread member leaves
        rw [nothingLeaves thread member] at leaves
        cases leaves
      notStored := by
        intro other member sameKey
        have leaves := nothingLeaves _ member
        simp [Thread.leaves, sameKey] at leaves
      agree := fun settled =>
        agree fun thread member => (settled thread member).1 }

/--
A phase of a teardown ends while no handshake of the executor is past its
`UpsertExecutor`.
-/
theorem Phased.of_teardown
    {conn : ExecutorConn} {phase : TeardownPhase} {reply : Reply}
    (phased : Phased before self key)
    (takes : Takes config before (.exec self (.teardown conn phase) reply)
      after)
    (apart : ∀ thread ∈ before.threadsOf self, thread.joins key = false)
    (unregistered : after.registered self key = none)
    (notStored : ∀ other, .teardown other .onDisconnect ∈
        after.threadsOf self →
      other.key = key → ¬ after.HasStatus key .connected)
    (agree : (∀ thread ∈ after.threadsOf self, thread.leaves key = false) →
      after.ViewsAgree self key) :
    Phased after self key := by
  have nothingJoins : ∀ thread ∈ after.threadsOf self,
      thread.joins key = false := by
    intro thread member
    by_contra joins
    rw [Bool.not_eq_false] at joins
    have old := apart thread (joins_of_teardown takes member joins)
    rw [joins] at old
    cases old
  exact
    { wellFormed := phased.wellFormed.step takes
      stored := by
        intro thread member joins
        rw [nothingJoins thread member] at joins
        cases joins
      registered := by
        intro other member sameKey
        have joins := nothingJoins _ member
        simp [Thread.joins, sameKey] at joins
      apart := by
        intro joining member joins
        rw [nothingJoins joining member] at joins
        cases joins
      unregistered := fun _ _ _ => unregistered
      notStored := notStored
      agree := fun settled =>
        agree fun thread member => (settled thread member).2 }

/-- A handshake is under way, so no teardown is. -/
theorem Phased.nothingLeaves
    (phased : Phased before self key) {thread : Thread}
    (member : thread ∈ before.threadsOf self)
    (joins : thread.joins key = true) :
    ∀ other ∈ before.threadsOf self, other.leaves key = false :=
  phased.apart thread member joins

/-- A teardown is under way, so no handshake is. -/
theorem Phased.nothingJoins
    (phased : Phased before self key) {thread : Thread}
    (member : thread ∈ before.threadsOf self)
    (leaves : thread.leaves key = true) :
    ∀ other ∈ before.threadsOf self, other.joins key = false := by
  intro other otherMember
  by_contra joins
  rw [Bool.not_eq_false] at joins
  have apart := phased.apart other otherMember joins thread member
  rw [leaves] at apart
  cases apart

/-- `UpsertExecutor` stores the executor as connected and `Register` follows. -/
theorem Phased.upsert
    {conn : ExecutorConn} {leaseExpires : Time} {reply : Reply}
    (phased : Phased before self conn.key)
    (taken : before.step config
      (.exec self (.handshake conn (.upsert leaseExpires)) reply) =
        some after)
    (replied : reply.succeeded = true)
    (apart : ∀ thread ∈ before.threadsOf self,
      thread.leaves conn.key = false) :
    Phased after self conn.key := by
  have takes := takes_of_step taken
  have row := row_of_upsert taken (Reply.applied_of_succeeded replied)
  rcases step_exec_eq_some taken with
    ⟨relay, memory, spawned, present, running, resumed, rfl⟩
  simp only [Thread.resume, resumeHandshake, replied, if_true,
    Option.some.injEq, Prod.mk.injEq] at resumed
  rcases resumed with ⟨rfl, rfl⟩
  have sameRegistry := Deployment.registered_of_lookup present conn.key
  apply phased.of_handshake takes apart
  · exact ⟨_, row, rfl⟩
  · intro other member sameKey
    rw [Deployment.registered_put, if_pos rfl, ← sameRegistry]
    rw [Deployment.threadsOf_put, if_pos rfl] at member
    rcases List.mem_append.mp member with new | old
    · cases List.mem_singleton.mp new
    · rw [← Deployment.threadsOf_of_lookup present] at old
      exact phased.registered other (List.mem_of_mem_erase old) sameKey
  · intro settled
    have joins := settled (.handshake conn .register) (by
      rw [Deployment.threadsOf_put, if_pos rfl]
      exact List.mem_append_left _ (List.mem_singleton.mpr rfl))
    simp [Thread.joins] at joins

/-- `Register` enters the connection and `OnConnect` follows. -/
theorem Phased.register
    {conn : ExecutorConn} {reply : Reply}
    (phased : Phased before self conn.key)
    (taken : before.step config
      (.exec self (.handshake conn .register) reply) = some after) :
    Phased after self conn.key := by
  have takes := takes_of_step taken
  rcases step_exec_eq_some taken with
    ⟨relay, memory, spawned, present, running, resumed, rfl⟩
  cases resumed
  rw [← Deployment.threadsOf_of_lookup present] at running
  have joins : (Thread.handshake conn .register).joins conn.key = true := by
    simp [Thread.joins]
  apply phased.of_handshake takes (phased.nothingLeaves running joins)
  · exact phased.stored _ running joins
  · intro other member sameKey
    rw [Deployment.registered_put, if_pos rfl,
      Registry.getExecutorConn_register, if_pos rfl]
    rfl
  · intro settled
    have connecting := settled (.handshake conn .onConnect) (by
      rw [Deployment.threadsOf_put, if_pos rfl]
      exact List.mem_append_left _ (List.mem_cons_self ..))
    simp [Thread.joins] at connecting

/-- `OnConnect` completes the handshake: all three views say connected. -/
theorem Phased.onConnect
    {conn : ExecutorConn} {reply : Reply}
    (phased : Phased before self conn.key)
    (taken : before.step config
      (.exec self (.handshake conn .onConnect) reply) = some after) :
    Phased after self conn.key := by
  have takes := takes_of_step taken
  have isConnected := phased.wellFormed.inState_onConnect taken
  rcases step_exec_eq_some taken with
    ⟨relay, memory, spawned, present, running, resumed, rfl⟩
  cases resumed
  have sameRegistry := Deployment.registered_of_lookup present conn.key
  rw [← Deployment.threadsOf_of_lookup present] at running
  have joins : (Thread.handshake conn .onConnect).joins conn.key = true := by
    simp [Thread.joins]
  have stored := phased.stored _ running joins
  have registered := phased.registered conn running rfl
  rw [sameRegistry] at registered
  refine phased.of_handshake takes (phased.nothingLeaves running joins)
    stored ?_ ?_
  · intro other member sameKey
    rw [Deployment.registered_put, if_pos rfl]
    exact registered
  · intro _
    constructor
    · rw [Deployment.registered_put, if_pos rfl]
      exact iff_of_true registered stored
    · exact iff_of_true stored isConnected

/-- `Unregister` of the registered connection, and `DisconnectExecutor` follows. -/
theorem Phased.unregister
    {conn : ExecutorConn} {reply : Reply}
    (phased : Phased before self conn.key)
    (taken : before.step config
      (.exec self (.teardown conn .unregister) reply) = some after)
    (registered : before.registered self conn.key = some conn)
    (apart : ∀ thread ∈ before.threadsOf self,
      thread.joins conn.key = false) :
    Phased after self conn.key := by
  have takes := takes_of_step taken
  rcases step_exec_eq_some taken with
    ⟨relay, memory, spawned, present, running, resumed, rfl⟩
  have removes : ∃ removed,
      relay.registry.unregister conn = some removed := by
    rw [Deployment.registered_of_lookup present] at registered
    simp only [Registry.unregister, registered, if_true]
    split_ifs <;> exact ⟨_, rfl⟩
  rcases removes with ⟨removed, removal⟩
  simp only [Thread.resume, resumeTeardown, removal, Option.some.injEq,
    Prod.mk.injEq] at resumed
  rcases resumed with ⟨rfl, rfl⟩
  apply phased.of_teardown takes apart
  · rw [Deployment.registered_put, if_pos rfl,
      Registry.getExecutorConn_unregister removal, if_pos rfl]
  · intro other member sameKey
    rw [Deployment.threadsOf_put, if_pos rfl] at member
    rcases List.mem_append.mp member with new | old
    · cases List.mem_singleton.mp new
    · rw [← Deployment.threadsOf_of_lookup present] at old
      have unregistered := phased.unregistered _ (List.mem_of_mem_erase old)
        (by simp [Thread.leaves, sameKey])
      rw [registered] at unregistered
      cases unregistered
  · intro settled
    have leaves := settled (.teardown conn .disconnect) (by
      rw [Deployment.threadsOf_put, if_pos rfl]
      exact List.mem_append_left _ (List.mem_singleton.mpr rfl))
    simp [Thread.leaves] at leaves

/-- `DisconnectExecutor` takes effect, and `OnDisconnect` follows. -/
theorem Phased.disconnect
    {conn : ExecutorConn} {reply : Reply}
    (phased : Phased before self conn.key)
    (taken : before.step config
      (.exec self (.teardown conn .disconnect) reply) = some after)
    (applied : reply.applied = true) :
    Phased after self conn.key := by
  have takes := takes_of_step taken
  rcases step_exec_eq_some taken with
    ⟨relay, memory, spawned, present, running, resumed, rfl⟩
  cases resumed
  rw [← Deployment.threadsOf_of_lookup present] at running
  have leaves : (Thread.teardown conn .disconnect).leaves conn.key = true := by
    simp [Thread.leaves]
  apply phased.of_teardown takes (phased.nothingJoins running leaves)
  · rw [Deployment.registered_put, if_pos rfl,
      ← Deployment.registered_of_lookup present]
    exact phased.unregistered _ running leaves
  · rintro other member sameKey ⟨row, found, isConnected⟩
    rw [Option.mem_def, Deployment.row_put] at found
    simp only [Thread.write, Thread.statement, applied, if_true] at found
    rw [lookup_run, Statement.rowAfter, if_pos rfl] at found
    rcases Option.map_eq_some_iff.mp found with ⟨old, -, rfl⟩
    cases isConnected
  · intro settled
    have noticed := settled (.teardown conn .onDisconnect) (by
      rw [Deployment.threadsOf_put, if_pos rfl]
      exact List.mem_append_left _ (List.mem_singleton.mpr rfl))
    simp [Thread.leaves] at noticed

/-- `OnDisconnect` completes the teardown: no view says connected. -/
theorem Phased.onDisconnect
    {conn : ExecutorConn} {reply : Reply}
    (phased : Phased before self conn.key)
    (taken : before.step config
      (.exec self (.teardown conn .onDisconnect) reply) = some after) :
    Phased after self conn.key := by
  have takes := takes_of_step taken
  have notConnected := phased.wellFormed.not_inState_onDisconnect taken
  rcases step_exec_eq_some taken with
    ⟨relay, memory, spawned, present, running, resumed, rfl⟩
  cases resumed
  have sameRegistry := Deployment.registered_of_lookup present conn.key
  rw [← Deployment.threadsOf_of_lookup present] at running
  have leaves :
      (Thread.teardown conn .onDisconnect).leaves conn.key = true := by
    simp [Thread.leaves]
  have unregistered := phased.unregistered _ running leaves
  have notStored := phased.notStored conn running rfl
  rw [sameRegistry] at unregistered
  apply phased.of_teardown takes (phased.nothingJoins running leaves)
  · rw [Deployment.registered_put, if_pos rfl]
    exact unregistered
  · intro other member sameKey
    exact notStored
  · intro _
    constructor
    · rw [Deployment.registered_put, if_pos rfl, unregistered]
      exact iff_of_false (by simp) notStored
    · exact iff_of_false notStored notConnected

/-- Every step which makes or loses a connection keeps the phases. -/
theorem Phased.step
    {activity : Activity}
    (phased : Phased before self key)
    (within : activity.isConnectionStep self = true)
    (allowed : connectionsApart before activity = true)
    (taken : before.step config activity = some after) :
    Phased after self key := by
  have takes := takes_of_step taken
  have wellFormed := phased.wellFormed
  have fromQuiet := fun quiet : Quiet before after self key =>
    phased.of_quiet quiet (wellFormed.step takes)
  cases activity with
  | advance elapsed =>
      cases taken
      exact fromQuiet ⟨rfl, rfl, rfl, fun _ _ => Iff.rfl⟩
  | start acting => cases within
  | crash acting => cases within
  | trigger acting trigger =>
      cases trigger with
      | accept executor applicationVersion =>
          have same : acting = self := of_decide_eq_true within
          subst same
          exact fromQuiet (.of_trigger takes wellFormed)
      | hangup conn =>
          have same : acting = self := of_decide_eq_true within
          subst same
          exact fromQuiet (.of_trigger takes wellFormed)
      | _ => cases within
  | exec acting thread reply =>
      cases thread with
      | handshake conn phase =>
          have same : acting = self := of_decide_eq_true within
          subst same
          by_cases sameKey : conn.key = key
          · subst sameKey
            cases phase with
            | upsert leaseExpires =>
                cases applied : reply.applied with
                | false => exact fromQuiet (.of_lostUpsert takes wellFormed applied)
                | true =>
                    simp only [connectionsApart, applied, Bool.not_true,
                      Bool.false_or, Bool.and_eq_true, List.all_eq_true,
                      Bool.not_eq_true'] at allowed
                    exact phased.upsert taken allowed.1 allowed.2
            | register => exact phased.register taken
            | onConnect => exact phased.onConnect taken
          · exact fromQuiet (.of_handshake takes wellFormed sameKey)
      | teardown conn phase =>
          have same : acting = self := of_decide_eq_true within
          subst same
          by_cases sameKey : conn.key = key
          · subst sameKey
            cases phase with
            | unregister =>
                by_cases registered :
                    before.registered acting conn.key = some conn
                · simp only [connectionsApart, registered, ne_eq,
                    not_true_eq_false, decide_false, Bool.false_or,
                    List.all_eq_true, Bool.not_eq_true'] at allowed
                  exact phased.unregister taken registered allowed
                · exact fromQuiet
                    (.of_replacedUnregister takes wellFormed registered)
            | disconnect => exact phased.disconnect taken allowed
            | onDisconnect => exact phased.onDisconnect taken
          · exact fromQuiet (.of_teardown takes wellFormed sameKey)
      | closeExisting conn =>
          have same : acting = self := of_decide_eq_true within
          subst same
          exact fromQuiet (.of_closeExisting takes wellFormed)
      | _ => cases within

/-- In a settled deployment no goroutine is in one of the phases. -/
theorem Deployment.Settled.not_moving
    (settled : before.Settled self key)
    {thread : Thread} (member : thread ∈ before.threadsOf self) :
    thread.joins key = false ∧ thread.leaves key = false := by
  have notMoving := settled thread member
  constructor
  · simp only [Thread.joins]
    split
    · exact notMoving
    · exact notMoving
    · rfl
  · simp only [Thread.leaves]
    split
    · exact notMoving
    · exact notMoving
    · rfl

/-- Nothing is under way and the views agree. -/
theorem phased_of_settled
    (wellFormed : before.WellFormed) (settled : before.Settled self key)
    (agree : before.ViewsAgree self key) :
    Phased before self key where
  wellFormed := wellFormed
  stored := by
    intro thread member joins
    rw [(settled.not_moving member).1] at joins
    cases joins
  registered := by
    intro conn member sameKey
    have notConcerned := settled _ member
    simp [Thread.concerns, sameKey] at notConcerned
  apart := by
    intro joining member joins
    rw [(settled.not_moving member).1] at joins
    cases joins
  unregistered := by
    intro thread member leaves
    rw [(settled.not_moving member).2] at leaves
    cases leaves
  notStored := by
    intro conn member sameKey
    have notConcerned := settled _ member
    simp [Thread.concerns, sameKey] at notConcerned
  agree := fun _ => agree

theorem Phased.viewsAgree
    (phased : Phased before self key) (settled : before.Settled self key) :
    before.ViewsAgree self key :=
  phased.agree fun _ member => settled.not_moving member

end Views

/-! ## Runs -/

/--
From any reachable deployment in which nothing of the executor is under way
and its views agree, any number of connections of it are made and lost, in any
order which keeps handshakes and teardowns apart.  Whenever every step which
was started has finished, the views agree again.
-/
theorem views_agree_when_settled
    (config : Config) (now : Time) (history : List Activity)
    (began : Deployment)
    (reachable : run (Deployment.step config) (Deployment.empty now) history =
      some began)
    (self : UUID) (key : ExecutorKey)
    (settledBefore : began.Settled self key)
    (agreedBefore : began.ViewsAgree self key)
    (activities : List Activity) (reached : Deployment)
    (within : ∀ activity ∈ activities, activity.isConnectionStep self = true)
    (guarded : GuardedRun (Deployment.step config)
      (fun before activity => connectionsApart before activity = true)
      began activities reached)
    (settled : reached.Settled self key) :
    reached.ViewsAgree self key := by
  have wellFormed : began.WellFormed :=
    run_invariant Deployment.WellFormed
      (fun taken wellFormed => wellFormed.step (takes_of_step taken))
      reachable (Deployment.wellFormed_empty now)
  have phased : Phased reached self key := by
    refine (guarded.restrict within).invariant
      (fun deployment => Phased deployment self key) ?_
      (phased_of_settled wellFormed settledBefore agreedBefore)
    intro before after activity allowed taken phased
    exact phased.step allowed.2 allowed.1 taken
  exact phased.viewsAgree settled

/-- A connection is lost and the executor reconnects. -/
theorem views_agree_when_settled_reconnect :
    ((run (Deployment.step defaultConfig) (Deployment.empty 0)
        (boots defaultConfig 0 relayA ++
          connects defaultConfig 0 relayA (execConn 0) ++
          (disconnects relayA (execConn 0) ++
            connects defaultConfig 0 relayA (execConn 1)))).map
      fun reached => reached.registered relayA (execConn 1).key) =
        some (some (execConn 1)) ∧
    ∀ reached,
      run (Deployment.step defaultConfig) (Deployment.empty 0)
          (boots defaultConfig 0 relayA ++
            connects defaultConfig 0 relayA (execConn 0) ++
            (disconnects relayA (execConn 0) ++
              connects defaultConfig 0 relayA (execConn 1))) =
          some reached →
        reached.ViewsAgree relayA (execConn 0).key := by
  refine ⟨by decide, ?_⟩
  intro reached taken
  rcases run_append_eq_some.mp taken with ⟨began, history, reconnects⟩
  have views :
      ((run (Deployment.step defaultConfig) (Deployment.empty 0)
          (boots defaultConfig 0 relayA ++
            connects defaultConfig 0 relayA (execConn 0))).map fun began =>
        ((began.Settled relayA (execConn 0).key : Bool),
          (began.ViewsAgree relayA (execConn 0).key : Bool),
          (runGuarded (Deployment.step defaultConfig)
            (fun before activity => connectionsApart before activity = true)
            began
            (disconnects relayA (execConn 0) ++
              connects defaultConfig 0 relayA (execConn 1))).map
            fun reached => (reached.Settled relayA (execConn 0).key : Bool))) =
        some (true, true, some true) := by
    decide
  rw [history, Option.map_some, Option.some.injEq, Prod.mk.injEq,
    Prod.mk.injEq, decide_eq_true_eq, decide_eq_true_eq,
    Option.map_eq_some_iff] at views
  rcases views with ⟨settledBefore, agreedBefore, last, guarded, settled⟩
  have guardedRun := guardedRun_of_runGuarded guarded
  have same : last = reached := by
    have sameRun := guardedRun.run_eq
    rw [reconnects] at sameRun
    exact (Option.some.inj sameRun).symm
  subst same
  exact views_agree_when_settled defaultConfig 0 _ began history relayA
    (execConn 0).key settledBefore agreedBefore _ last (by decide) guardedRun
    (of_decide_eq_true settled)

/--
The connection is lost and unregistered.  Before its `DisconnectExecutor` is
written, the executor stores itself as connected again.
-/
def overlappingReconnect : List Activity :=
  [.trigger relayA (.hangup (execConn 0)),
    .exec relayA (.teardown (execConn 0) .unregister) .ok,
    .trigger relayA (.accept (execConn 1).key "v1"),
    .exec relayA (.handshake (execConn 1) (.upsert (60 * second))) .ok,
    .exec relayA (.teardown (execConn 0) .disconnect) .ok,
    .exec relayA (.teardown (execConn 0) .onDisconnect) .ok,
    .exec relayA (.handshake (execConn 1) .register) .ok,
    .exec relayA (.handshake (execConn 1) .onConnect) .ok]

theorem overlappingReconnect_disagrees :
    ∃ began reached,
      run (Deployment.step defaultConfig) (Deployment.empty 0)
          (boots defaultConfig 0 relayA ++
            connects defaultConfig 0 relayA (execConn 0)) = some began ∧
        began.Settled relayA (execConn 0).key ∧
        began.ViewsAgree relayA (execConn 0).key ∧
        (∀ activity ∈ overlappingReconnect,
          activity.isConnectionStep relayA = true) ∧
        run (Deployment.step defaultConfig) began overlappingReconnect =
          some reached ∧
        reached.Settled relayA (execConn 0).key ∧
        reached.registered relayA (execConn 0).key = some (execConn 1) ∧
        reached.HasStatus (execConn 0).key .disconnected ∧
        reached.InState relayA (execConn 0).key .connected ∧
        ¬ reached.ViewsAgree relayA (execConn 0).key := by
  have before :
      ((run (Deployment.step defaultConfig) (Deployment.empty 0)
          (boots defaultConfig 0 relayA ++
            connects defaultConfig 0 relayA (execConn 0))).map fun began =>
        (began.Settled relayA (execConn 0).key ∧
          began.ViewsAgree relayA (execConn 0).key : Bool)) = some true := by
    decide
  have after :
      ((run (Deployment.step defaultConfig) (Deployment.empty 0)
          ((boots defaultConfig 0 relayA ++
            connects defaultConfig 0 relayA (execConn 0)) ++
            overlappingReconnect)).map fun reached =>
        (reached.Settled relayA (execConn 0).key ∧
          reached.registered relayA (execConn 0).key = some (execConn 1) ∧
          reached.HasStatus (execConn 0).key .disconnected ∧
          reached.InState relayA (execConn 0).key .connected ∧
          ¬ reached.ViewsAgree relayA (execConn 0).key : Bool)) =
        some true := by
    decide
  rcases Option.map_eq_some_iff.mp before with ⟨began, history, views⟩
  rcases Option.map_eq_some_iff.mp after with ⟨reached, taken, results⟩
  rcases run_append_eq_some.mp taken with ⟨middle, middleRun, overlapping⟩
  rw [history] at middleRun
  cases middleRun
  rcases of_decide_eq_true views with ⟨settled, agree⟩
  exact ⟨began, reached, history, settled, agree, by decide, overlapping,
    of_decide_eq_true results⟩

end DbosRelay.Cluster
