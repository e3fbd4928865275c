import DbosRelay.Cluster.Steps

/-!
# Fencing between instances

An executor row is owned by the instance which registered or adopted it, and
covered by a lease.  Three statements are issued by instances which may have
lost the executor meanwhile: `DisconnectExecutor`, `TouchExecutorLastSeen` and
`SetExecutorDead`.  None of them asks for the owner.  They keep off the rows of
other instances as long as the ownership of an executor does not move while an
instance still holds a socket of it or a write to its row is pending.
-/

namespace DbosRelay.Cluster

open DbosRelay.Basic
open DbosRelay.Hub
open DbosRelay.Library.Runs
open DbosRelay.Library.Tables
open DbosRelay.Liveness
open DbosRelay.Store

/-! ## The property -/

/-- The row is connected, owned by an instance other than `self` and leased. -/
def Deployment.ForeignLease (deployment : Deployment) (self : UUID)
    (key : ExecutorKey) : Prop :=
  ∃ row ∈ deployment.row key, row.status = .connected ∧
    (∃ owner ∈ row.ownerInstanceID, owner ≠ self) ∧
    ∃ lease ∈ row.leaseExpiresAt, deployment.now < lease

instance (deployment : Deployment) (self : UUID) (key : ExecutorKey) :
    Decidable (deployment.ForeignLease self key) :=
  inferInstanceAs
    (Decidable (∃ row ∈ deployment.row key, _ ∧
      (∃ owner ∈ row.ownerInstanceID, _) ∧
        ∃ lease ∈ row.leaseExpiresAt, _))

/-- The columns which say who owns an executor. -/
def Executor.ownership (row : Executor) :
    ExecutorStatus × Option UUID × Option Time :=
  (row.status, row.ownerInstanceID, row.leaseExpiresAt)

/-- The goroutine issues one of the three statements on the row of `key`. -/
def Thread.writesTo (key : ExecutorKey) : Thread → Bool
  | .teardown conn .disconnect => conn.key = key
  | .touchLease conn _ => conn.key = key
  | .expiry target _ .markDead => target = key
  | _ => false

/-- No step of a run writes to a row another instance owns and has leased. -/
def RespectsLeases (config : Config) (start : Deployment)
    (activities : List Activity) : Prop :=
  ∀ earlier later self thread reply before after key,
    activities = earlier ++ .exec self thread reply :: later →
      run (Deployment.step config) start earlier = some before →
        before.step config (.exec self thread reply) = some after →
          thread.writesTo key = true →
            before.ForeignLease self key →
              (after.row key).map Executor.ownership =
                (before.row key).map Executor.ownership

/-! ## Who still holds an executor -/

/-- A goroutine of a connection of `key` which has stored it, or writes next. -/
def Thread.mayWrite (key : ExecutorKey) : Thread → Bool
  | .handshake conn .register => conn.key = key
  | .handshake conn .onConnect => conn.key = key
  | .teardown conn .disconnect => conn.key = key
  | .touchLease conn _ => conn.key = key
  | _ => false

/-- The teardown of the connection which is still the registered one. -/
def Thread.unregisters (registered : Option ExecutorConn) : Thread → Bool
  | .teardown conn .unregister => registered = some conn
  | _ => false

/-- An expiry of `key` which has decided to mark it dead. -/
def Thread.marks (key : ExecutorKey) : Thread → Bool
  | .expiry target _ .markDead => target = key
  | _ => false

/-- The connections an instance has made. -/
def Deployment.connsOf (deployment : Deployment) (self : UUID) :
    List ExecutorConn :=
  ((deployment.instances.lookup self).map fun relay =>
    relay.conns.keys).getD []

/-- An instance has a socket of `key`, or a write of one is pending. -/
def Deployment.Holds (deployment : Deployment) (self : UUID)
    (key : ExecutorKey) : Prop :=
  (∃ thread ∈ deployment.threadsOf self, thread.mayWrite key = true) ∨
    (∃ thread ∈ deployment.threadsOf self,
      thread.unregisters (deployment.registered self key) = true) ∨
    ∃ conn ∈ deployment.connsOf self,
      conn.key = key ∧ deployment.Open self conn

instance (deployment : Deployment) (self : UUID) (key : ExecutorKey) :
    Decidable (deployment.Holds self key) :=
  inferInstanceAs
    (Decidable ((∃ thread ∈ deployment.threadsOf self, _ = true) ∨
      (∃ thread ∈ deployment.threadsOf self, _ = true) ∨
        ∃ conn ∈ deployment.connsOf self,
          conn.key = key ∧ deployment.Open self conn))

/-- An instance is about to mark `key` dead. -/
def Deployment.Marking (deployment : Deployment) (self : UUID)
    (key : ExecutorKey) : Prop :=
  ∃ thread ∈ deployment.threadsOf self, thread.marks key = true

instance (deployment : Deployment) (self : UUID) (key : ExecutorKey) :
    Decidable (deployment.Marking self key) :=
  inferInstanceAs
    (Decidable (∃ thread ∈ deployment.threadsOf self, _ = true))

/-- An instance other than `self` holds `key` or is about to mark it dead. -/
def Deployment.Contested (deployment : Deployment) (self : UUID)
    (key : ExecutorKey) : Prop :=
  ∃ entry ∈ deployment.instances.entries, entry.1 ≠ self ∧
    (deployment.Holds entry.1 key ∨ deployment.Marking entry.1 key)

instance (deployment : Deployment) (self : UUID) (key : ExecutorKey) :
    Decidable (deployment.Contested self key) :=
  inferInstanceAs
    (Decidable (∃ entry ∈ deployment.instances.entries, entry.1 ≠ self ∧
      (deployment.Holds entry.1 key ∨ deployment.Marking entry.1 key)))

/-- An instance other than `self` is about to mark `key` dead. -/
def Deployment.MarkedElsewhere (deployment : Deployment) (self : UUID)
    (key : ExecutorKey) : Prop :=
  ∃ entry ∈ deployment.instances.entries, entry.1 ≠ self ∧
    deployment.Marking entry.1 key

instance (deployment : Deployment) (self : UUID) (key : ExecutorKey) :
    Decidable (deployment.MarkedElsewhere self key) :=
  inferInstanceAs
    (Decidable (∃ entry ∈ deployment.instances.entries, entry.1 ≠ self ∧
      deployment.Marking entry.1 key))

/--
An instance takes an executor over, by registration or by adoption, only while
no other instance still holds it or is about to mark it dead; it renews a lease
only while no other instance is about to mark the executor dead; and the lookup
before a dead mark succeeds and knows the instance's identity.
-/
def ownershipFenced (before : Deployment) : Activity → Bool
  | .exec self (.handshake conn (.upsert _)) reply =>
      !reply.applied || !decide (before.Contested self conn.key)
  | .exec self (.touchLease conn _) _ =>
      !decide (before.MarkedElsewhere self conn.key)
  | .exec self (.adoption _ (.adopt _)) reply =>
      !reply.applied ||
        before.executors.entries.all fun entry =>
          !decide (entry.2.Adoptable before.now self) ||
            !decide (before.Contested self entry.1)
  | .exec self (.expiry _ _ .lookup) reply =>
      reply.succeeded &&
        decide (∃ relay ∈ before.instances.lookup self,
          relay.manager.instanceID = some self)
  | _ => true

/-! ## The invariant -/

/-- A holder owns what is stored as connected; a dead mark meets no foreign lease. -/
structure OwnershipSafe (deployment : Deployment) : Prop where
  wellFormed : deployment.WellFormed
  owner : ∀ {self key}, deployment.Holds self key →
    ∀ row ∈ deployment.row key, row.status = .connected →
      row.ownerInstanceID = some self
  expired : ∀ {self key}, deployment.Marking self key →
    ∀ row ∈ deployment.row key, row.status = .connected →
      ∀ owner ∈ row.ownerInstanceID, owner ≠ self →
        ∀ lease ∈ row.leaseExpiresAt, lease ≤ deployment.now

theorem ownershipSafe_empty (now : Time) :
    OwnershipSafe (Deployment.empty now) where
  wellFormed := Deployment.wellFormed_empty now
  owner := by
    intro self key _ row found
    simp [Deployment.row, Deployment.empty] at found
  expired := by
    intro self key _ row found
    simp [Deployment.row, Deployment.empty] at found

section Fencing

variable {config : Config} {before after : Deployment} {activity : Activity}
variable {self other : UUID} {key : ExecutorKey}

theorem Deployment.mem_connsOf {conn : ExecutorConn}
    (isOpen : before.Open self conn) : conn ∈ before.connsOf self := by
  rcases isOpen with ⟨state, found, -⟩
  rw [Option.mem_def, Deployment.connState] at found
  rcases Option.bind_eq_some_iff.mp found with ⟨relay, present, stored⟩
  rw [Deployment.connsOf, present]
  exact AList.mem_keys.mpr (AList.lookup_isSome.mp (by rw [stored]; rfl))

theorem Deployment.Holds.of_open {conn : ExecutorConn}
    (sameKey : conn.key = key) (isOpen : before.Open self conn) :
    before.Holds self key :=
  Or.inr (Or.inr ⟨conn, Deployment.mem_connsOf isOpen, sameKey, isOpen⟩)

theorem Deployment.present_of_mem_threadsOf {thread : Thread}
    (member : thread ∈ before.threadsOf self) :
    ∃ relay, before.instances.lookup self = some relay := by
  cases present : before.instances.lookup self with
  | none => simp [Deployment.threadsOf, present] at member
  | some relay => exact ⟨relay, rfl⟩

/-- Whoever holds an executor is a running instance. -/
theorem Deployment.Holds.present (holds : before.Holds self key) :
    ∃ relay, before.instances.lookup self = some relay := by
  rcases holds with ⟨thread, member, -⟩ | ⟨thread, member, -⟩ |
    ⟨conn, -, -, state, found, -⟩
  · exact Deployment.present_of_mem_threadsOf member
  · exact Deployment.present_of_mem_threadsOf member
  · rcases Option.bind_eq_some_iff.mp found with ⟨relay, present, -⟩
    exact ⟨relay, present⟩

theorem Deployment.Holds.contested
    (holds : before.Holds other key) (different : other ≠ self) :
    before.Contested self key := by
  rcases holds.present with ⟨relay, present⟩
  exact ⟨⟨other, relay⟩, mem_entries_iff.mpr present, different,
    Or.inl holds⟩

theorem Deployment.Marking.elsewhere
    (marking : before.Marking other key) (different : other ≠ self) :
    before.MarkedElsewhere self key := by
  rcases marking with ⟨thread, member, marks⟩
  rcases Deployment.present_of_mem_threadsOf member with ⟨relay, present⟩
  exact ⟨⟨other, relay⟩, mem_entries_iff.mpr present, different,
    thread, member, marks⟩

theorem Deployment.Marking.contested
    (marking : before.Marking other key) (different : other ≠ self) :
    before.Contested self key := by
  rcases marking.elsewhere different with ⟨entry, member, differs, marks⟩
  exact ⟨entry, member, differs, Or.inr marks⟩

theorem Takes.holds_of_registers
    (takes : Takes config before activity after)
    {conn : ExecutorConn} (sameKey : conn.key = key)
    (registers : activity.Registers self conn) :
    before.Holds self key := by
  rcases registers with ⟨reply, rfl⟩
  cases takes with
  | exec _ _ _ relay memory spawned present member effects =>
      rw [← Deployment.threadsOf_of_lookup present] at member
      exact Or.inl ⟨_, member, by simp [Thread.mayWrite, sameKey]⟩

/-- A goroutine which may write comes from one, from an open connection or from an upsert. -/
theorem Takes.holds_of_mayWrite
    (takes : Takes config before activity after)
    {thread : Thread} (member : thread ∈ after.threadsOf self)
    (writes : thread.mayWrite key = true) :
    before.Holds self key ∨
      ∃ conn leaseExpires reply,
        activity =
            .exec self (.handshake conn (.upsert leaseExpires)) reply ∧
          conn.key = key ∧ reply.succeeded = true := by
  cases takes.thread member with
  | kept activity kept => exact Or.inl (Or.inl ⟨thread, kept, writes⟩)
  | started same =>
      subst same
      cases writes
  | triggered trigger relay present starts =>
      cases starts with
      | beats conn state found notClosed =>
          refine Or.inl (.of_open (of_decide_eq_true writes) ⟨state, ?_, notClosed⟩)
          rw [Deployment.connState_of_lookup present]
          exact found
      | _ => cases writes
  | spawned running reply relay present runningMember follows =>
      cases follows with
      | upserted conn leaseExpires replied =>
          exact Or.inr ⟨conn, leaseExpires, reply, rfl,
            of_decide_eq_true writes, replied⟩
      | registered conn =>
          exact Or.inl (Or.inl ⟨_, runningMember, writes⟩)
      | unregistered conn removed taken =>
          have sameKey : conn.key = key := of_decide_eq_true writes
          refine Or.inl (Or.inr (Or.inl ⟨_, runningMember, ?_⟩))
          rw [Deployment.registered_of_lookup present, ← sameKey,
            Registry.getExecutorConn_of_unregister taken]
          simp [Thread.unregisters]
      | _ => cases writes

/-- A teardown begins on an open connection. -/
theorem Takes.open_or_mem_of_teardown
    (takes : Takes config before activity after) {conn : ExecutorConn}
    (member : .teardown conn .unregister ∈ after.threadsOf self) :
    before.Open self conn ∨
      .teardown conn .unregister ∈ before.threadsOf self := by
  cases takes.thread member with
  | kept activity kept => exact Or.inr kept
  | started same => cases same
  | triggered trigger relay present starts =>
      cases starts with
      | hungUp _ state found notClosed =>
          refine Or.inl ⟨state, ?_, notClosed⟩
          rw [Deployment.connState_of_lookup present]
          exact found
  | spawned running reply relay present runningMember follows =>
      cases follows with
      | closed _ _ state found notClosed =>
          refine Or.inl ⟨state, ?_, notClosed⟩
          rw [Deployment.connState_of_lookup present]
          exact found

/-- A pending teardown of the registered connection comes from an instance which holds it. -/
theorem Takes.holds_of_unregisters
    (takes : Takes config before activity after)
    (wellFormed : before.WellFormed) {conn : ExecutorConn}
    (member : .teardown conn .unregister ∈ after.threadsOf self)
    (registered : after.registered self key = some conn) :
    before.Holds self key := by
  have sameKey : conn.key = key :=
    (wellFormed.step takes).registeredKey registered
  rcases takes.open_or_mem_of_teardown member with isOpen | kept
  · exact .of_open sameKey isOpen
  rcases takes.registered_some registered with wasRegistered | ⟨reply, rfl, newKey⟩
  · refine Or.inr (Or.inl ⟨_, kept, ?_⟩)
    rw [wasRegistered]
    simp [Thread.unregisters]
  · exact takes.holds_of_registers newKey ⟨reply, rfl⟩

/-- An instance comes to hold an executor by registering it only. -/
theorem Takes.holds
    (takes : Takes config before activity after)
    (wellFormed : before.WellFormed) (holds : after.Holds self key) :
    before.Holds self key ∨
      ∃ conn leaseExpires reply,
        activity =
            .exec self (.handshake conn (.upsert leaseExpires)) reply ∧
          conn.key = key ∧ reply.succeeded = true := by
  rcases holds with ⟨thread, member, writes⟩ | ⟨thread, member, unregisters⟩ |
    ⟨conn, -, sameKey, isOpen⟩
  · exact takes.holds_of_mayWrite member writes
  · have registeredConn : ∃ conn, thread = .teardown conn .unregister ∧
        after.registered self key = some conn := by
      simp only [Thread.unregisters] at unregisters
      split at unregisters
      · exact ⟨_, rfl, of_decide_eq_true unregisters⟩
      · cases unregisters
    rcases registeredConn with ⟨conn, rfl, registered⟩
    exact Or.inl (takes.holds_of_unregisters wellFormed member registered)
  · rcases takes.open isOpen with wasOpen | registers
    · exact Or.inl (.of_open sameKey wasOpen)
    · exact Or.inl (takes.holds_of_registers sameKey registers)

/-! ## Every step keeps it -/

/-- An adoption which is allowed contests no executor it takes over. -/
theorem not_contested_of_adopt
    {startup : Bool} {leaseExp : Time} {reply : Reply} {row : Executor}
    (allowed : ownershipFenced before
      (.exec self (.adoption startup (.adopt leaseExp)) reply) = true)
    (applied : reply.applied = true)
    (present : before.row key = some row)
    (adoptable : row.Adoptable before.now self) :
    ¬ before.Contested self key := by
  simp only [ownershipFenced, applied, Bool.not_true, Bool.false_or,
    List.all_eq_true] at allowed
  have entry := allowed ⟨key, row⟩ (mem_entries_iff.mpr present)
  simpa [adoptable] using entry

theorem OwnershipSafe.owner_step
    (safe : OwnershipSafe before)
    (taken : before.step config activity = some after)
    (allowed : ownershipFenced before activity = true)
    (holds : after.Holds self key) :
    ∀ row ∈ after.row key, row.status = .connected →
      row.ownerInstanceID = some self := by
  intro row found isConnected
  have takes := takes_of_step taken
  rw [Option.mem_def] at found
  rcases takes.holds safe.wellFormed holds with
    held | ⟨conn, leaseExpires, reply, rfl, sameKey, succeeded⟩
  · cases takes.row_connected found isConnected with
    | unchanged present => exact safe.owner held row present isConnected
    | upserted acting conn leaseExpires reply sameKey applied =>
        by_cases same : self = acting
        · rw [same]
          rfl
        · rw [← sameKey] at held
          simp [ownershipFenced, applied, held.contested same] at allowed
    | touched acting conn renewalExpires reply old sameKey member present =>
        exact safe.owner held old present isConnected
    | adopted acting startup leaseExp reply old applied present wasConnected
        adoptable =>
        by_cases same : self = acting
        · rw [same]
        · exact (not_contested_of_adopt allowed applied present adoptable
            (held.contested same)).elim
  · have stored := row_of_upsert taken (Reply.applied_of_succeeded succeeded)
    rw [sameKey] at stored
    cases Option.some.inj (stored.symm.trans found)
    rfl

/-- Where a goroutine which is about to mark an executor dead comes from. -/
theorem Takes.marking
    (takes : Takes config before activity after)
    (marking : after.Marking self key) :
    before.Marking self key ∨
      ∃ version reply relay,
        activity = .exec self (.expiry key version .lookup) reply ∧
          before.instances.lookup self = some relay ∧
          (reply.succeeded = true →
            ∀ row ∈ before.row key, row.status = .connected →
              isOtherOwner relay.manager row = true →
                isFutureLease row before.now = false) := by
  rcases marking with ⟨thread, member, marks⟩
  cases takes.thread member with
  | kept activity kept => exact Or.inl ⟨thread, kept, marks⟩
  | started same =>
      subst same
      cases marks
  | triggered trigger relay present starts => cases starts <;> cases marks
  | spawned running reply relay present runningMember follows =>
      cases follows with
      | unguarded target version noForeignLease =>
          have sameKey : target = key := of_decide_eq_true marks
          subst sameKey
          exact Or.inr ⟨version, reply, relay, rfl, present, noForeignLease⟩
      | _ => cases marks

/-- A goroutine which is about to mark an executor has seen no unexpired foreign lease. -/
theorem lease_le_of_lookup
    {version : String} {reply : Reply} {relay : Instance}
    (allowed : ownershipFenced before
      (.exec self (.expiry key version .lookup) reply) = true)
    (present : before.instances.lookup self = some relay)
    (noForeignLease : reply.succeeded = true →
      ∀ row ∈ before.row key, row.status = .connected →
        isOtherOwner relay.manager row = true →
          isFutureLease row before.now = false)
    {row : Executor} (found : before.row key = some row)
    (isConnected : row.status = .connected)
    {owner : UUID} (owned : row.ownerInstanceID = some owner)
    (foreign : owner ≠ self)
    {lease : Time} (leased : row.leaseExpiresAt = some lease) :
    lease ≤ before.now := by
  simp only [ownershipFenced, Bool.and_eq_true, decide_eq_true_eq] at allowed
  rcases allowed with ⟨replied, other, otherPresent, identified⟩
  rw [Option.mem_def, present] at otherPresent
  cases otherPresent
  have otherOwner : isOtherOwner relay.manager row = true := by
    simp [isOtherOwner, identified, owned, foreign]
  have notFuture := noForeignLease replied row found isConnected otherOwner
  simpa [isFutureLease, leased] using notFuture

theorem OwnershipSafe.expired_step
    (safe : OwnershipSafe before)
    (takes : Takes config before activity after)
    (allowed : ownershipFenced before activity = true)
    (marking : after.Marking self key) :
    ∀ row ∈ after.row key, row.status = .connected →
      ∀ owner ∈ row.ownerInstanceID, owner ≠ self →
        ∀ lease ∈ row.leaseExpiresAt, lease ≤ after.now := by
  intro row found isConnected owner owned foreign lease leased
  have change := takes.row_connected found isConnected
  rcases takes.marking marking with
    wasMarking | ⟨version, reply, relay, rfl, present, noForeignLease⟩
  · cases change with
    | unchanged present =>
        exact (safe.expired wasMarking row present isConnected owner owned
          foreign lease leased).trans takes.now_le
    | upserted acting conn leaseExpires reply sameKey applied =>
        cases owned
        rw [← sameKey] at wasMarking
        simp [ownershipFenced, applied, wasMarking.contested foreign.symm]
          at allowed
    | touched acting conn renewalExpires reply old sameKey member present
        wasConnected =>
        by_cases same : self = acting
        · subst same
          have held : before.Holds self key :=
            Or.inl ⟨_, member, by simp [Thread.mayWrite, sameKey]⟩
          have ownOwner := safe.owner held old present wasConnected
          have ownedOld : old.ownerInstanceID = some owner := owned
          rw [ownOwner] at ownedOld
          cases ownedOld
          exact (foreign rfl).elim
        · rw [← sameKey] at wasMarking
          simp [ownershipFenced, wasMarking.elsewhere same] at allowed
    | adopted acting startup leaseExp reply old applied present wasConnected
        adoptable =>
        cases owned
        exact (not_contested_of_adopt allowed applied present adoptable
          (wasMarking.contested foreign.symm)).elim
  · cases change with
    | unchanged stored =>
        exact (lease_le_of_lookup allowed present noForeignLease
          stored isConnected owned foreign leased).trans takes.now_le

theorem OwnershipSafe.step
    (safe : OwnershipSafe before)
    (taken : before.step config activity = some after)
    (allowed : ownershipFenced before activity = true) :
    OwnershipSafe after where
  wellFormed := safe.wellFormed.step (takes_of_step taken)
  owner := safe.owner_step taken allowed
  expired := safe.expired_step (takes_of_step taken) allowed

/-- A goroutine which writes to a row meets no foreign lease there. -/
theorem OwnershipSafe.not_foreignLease
    (safe : OwnershipSafe before) {thread : Thread}
    (member : thread ∈ before.threadsOf self)
    (writes : thread.writesTo key = true) :
    ¬ before.ForeignLease self key := by
  rintro ⟨row, found, isConnected, ⟨owner, owned, foreign⟩,
    lease, leased, unexpired⟩
  have ofHolder : before.Holds self key → False := by
    intro holds
    have ownOwner := safe.owner holds row found isConnected
    rw [Option.mem_def, ownOwner] at owned
    cases owned
    exact foreign rfl
  simp only [Thread.writesTo] at writes
  split at writes
  · exact ofHolder (Or.inl ⟨_, member, writes⟩)
  · exact ofHolder (Or.inl ⟨_, member, writes⟩)
  · have ranOut := safe.expired ⟨_, member, writes⟩ row found isConnected
      owner owned foreign lease leased
    exact absurd unexpired (not_lt.mpr ranOut)
  · cases writes

end Fencing

/-! ## Runs -/

/--
In every run of any number of instances in which the ownership of an executor
moves only while no other instance holds it or is about to mark it dead, no
`DisconnectExecutor`, `TouchExecutorLastSeen` or `SetExecutorDead` changes a
row which another instance owns and has leased.
-/
theorem leases_respected
    (config : Config) (now : Time) (activities : List Activity)
    (reached : Deployment)
    (guarded : GuardedRun (Deployment.step config)
      (fun before activity => ownershipFenced before activity = true)
      (Deployment.empty now) activities reached) :
    RespectsLeases config (Deployment.empty now) activities := by
  intro earlier later self thread reply before after key split reaches taken
    writes foreignLease
  rw [split] at guarded
  rcases guarded.at_position OwnershipSafe
      (fun allowed taken safe => safe.step taken allowed)
      (ownershipSafe_empty now) reaches with
    ⟨safe, -, -⟩
  rcases step_exec_eq_some taken with ⟨relay, -, -, present, member, -, -⟩
  rw [← Deployment.threadsOf_of_lookup present] at member
  exact (safe.not_foreignLease member writes foreignLease).elim

/-- An executor leaves one instance, connects to another and renews its lease there. -/
def handedOver : List Activity :=
  boots defaultConfig 0 relayA ++ boots defaultConfig 0 relayB ++
    connects defaultConfig 0 relayA (execConn 0) ++
    disconnects relayA (execConn 0) ++
    connects defaultConfig 0 relayB (execConn 0) ++
    [.trigger relayB (.heartbeat (execConn 0)),
      .exec relayB (.touchLease (execConn 0) (60 * second)) .ok]

theorem leases_respected_handedOver :
    ((run (Deployment.step defaultConfig) (Deployment.empty 0)
        handedOver).map fun reached =>
      (reached.row (execConn 0).key).map Executor.ownerInstanceID) =
        some (some (some relayB)) ∧
    RespectsLeases defaultConfig (Deployment.empty 0) handedOver := by
  have guarded :
      (runGuarded (Deployment.step defaultConfig)
        (fun before activity => ownershipFenced before activity = true)
        (Deployment.empty 0) handedOver).isSome := by
    decide
  rcases Option.isSome_iff_exists.mp guarded with ⟨reached, taken⟩
  refine ⟨by decide, ?_⟩
  exact leases_respected defaultConfig 0 _ reached
    (guardedRun_of_runGuarded taken)

/--
The executor reaches another instance while the first has not noticed the loss
of its socket.
-/
def movedUnnoticed : List Activity :=
  boots defaultConfig 0 relayA ++ boots defaultConfig 0 relayB ++
    connects defaultConfig 0 relayA (execConn 0) ++
    connects defaultConfig 0 relayB (execConn 0) ++
    [.trigger relayA (.hangup (execConn 0)),
      .exec relayA (.teardown (execConn 0) .unregister) .ok]

theorem movedUnnoticed_disconnected :
    ((run (Deployment.step defaultConfig) (Deployment.empty 0)
        (movedUnnoticed ++
          [.exec relayA (.teardown (execConn 0) .disconnect) .ok])).map
      fun reached =>
        (reached.row (execConn 0).key).map Executor.ownership) =
      some (some (.disconnected, none, none)) ∧
    ¬ RespectsLeases defaultConfig (Deployment.empty 0)
      (movedUnnoticed ++
        [.exec relayA (.teardown (execConn 0) .disconnect) .ok]) := by
  have disowned :
      ((run (Deployment.step defaultConfig) (Deployment.empty 0)
          (movedUnnoticed ++
            [.exec relayA (.teardown (execConn 0) .disconnect) .ok])).map
        fun reached =>
          (reached.row (execConn 0).key).map Executor.ownership) =
        some (some (.disconnected, none, none)) := by
    decide
  refine ⟨disowned, ?_⟩
  intro respects
  have leased :
      ((run (Deployment.step defaultConfig) (Deployment.empty 0)
          movedUnnoticed).map fun before =>
        ((before.ForeignLease relayA (execConn 0).key : Bool),
          (before.row (execConn 0).key).map Executor.ownership)) =
        some (true, some (.connected, some relayB, some (60 * second))) := by
    decide
  rcases Option.map_eq_some_iff.mp disowned with ⟨after, reached, afterwards⟩
  rcases Option.map_eq_some_iff.mp leased with ⟨before, reaches, views⟩
  rcases run_append_eq_some.mp reached with ⟨middle, toMiddle, last⟩
  have same : middle = before := by
    rw [reaches] at toMiddle
    exact (Option.some.inj toMiddle).symm
  subst same
  rcases run_cons_eq_some.mp last with ⟨next, taken, stops⟩
  cases stops
  simp only [Prod.mk.injEq, decide_eq_true_eq] at views
  have unchanged := respects movedUnnoticed [] relayA _ _ middle after
    (execConn 0).key rfl reaches taken (by decide) views.1
  rw [afterwards, views.2] at unchanged
  cases unchanged

end DbosRelay.Cluster
