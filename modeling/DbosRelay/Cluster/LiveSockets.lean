import DbosRelay.Cluster.Steps

/-!
# Executors with a live socket

An executor whose socket has completed its handshake and is still registered
at an instance ought to be safe from that instance: not moved to dead by its
manager, not marked dead by its writes, not named in a recovery it dispatches.
Handshakes, teardowns, adoptions, grace timers and sweeps act on decisions they
took earlier, so this holds only while stale decisions about the executor are
not carried out after its handshake.
-/

namespace DbosRelay.Cluster

open DbosRelay.Basic
open DbosRelay.Hub
open DbosRelay.Library.Runs
open DbosRelay.Library.Tables
open DbosRelay.Liveness
open DbosRelay.Store

/-! ## The property -/

/-- The socket of an executor has completed its handshake and is registered. -/
def Deployment.Live (deployment : Deployment) (self : UUID)
    (key : ExecutorKey) : Prop :=
  ∃ conn ∈ deployment.registered self key,
    deployment.HandshakeDone self conn

instance (deployment : Deployment) (self : UUID) (key : ExecutorKey) :
    Decidable (deployment.Live self key) :=
  inferInstanceAs
    (Decidable (∃ conn ∈ deployment.registered self key,
      deployment.HandshakeDone self conn))

/-- The step is taken by a goroutine of `self`. -/
def Activity.isOf (self : UUID) : Activity → Bool
  | .exec acting _ _ => acting = self
  | _ => false

/-- A step of the deployment spares the executor `key` of `self`. -/
structure SparesExecutor (acting : UUID) (key : ExecutorKey)
    (before : Deployment) (activity : Activity) (after : Deployment) :
    Prop where
  notMoved : after.InState acting key .dead → before.InState acting key .dead
  notMarked : activity.isOf acting = true →
    after.HasStatus key .dead → before.HasStatus key .dead
  notNamed : activity.dispatches acting key = false

/-- Every step of a run spares the executors with a live socket. -/
def SparesLiveSockets (config : Config) (start : Deployment)
    (activities : List Activity) : Prop :=
  ∀ earlier activity later before after self key,
    activities = earlier ++ activity :: later →
      run (Deployment.step config) start earlier = some before →
        before.step config activity = some after →
          before.Live self key →
            SparesExecutor self key before activity after

/-! ## Stale decisions -/

/-- Some instance other than `self` has a live socket of `key`. -/
def Deployment.LiveElsewhere (deployment : Deployment) (self : UUID)
    (key : ExecutorKey) : Prop :=
  ∃ entry ∈ deployment.instances.entries,
    entry.1 ≠ self ∧ deployment.Live entry.1 key

instance (deployment : Deployment) (self : UUID) (key : ExecutorKey) :
    Decidable (deployment.LiveElsewhere self key) :=
  inferInstanceAs
    (Decidable (∃ entry ∈ deployment.instances.entries,
      entry.1 ≠ self ∧ deployment.Live entry.1 key))

/--
The decisions of the goroutines are not stale: a handshake is completed only
while the row is connected and no goroutine of the instance pursues the
executor; what belongs to a lost or foreign connection (the disconnect write
and callback, the delivery of an adoption, the dead mark of another instance)
is not carried out while the executor has a live socket there.
-/
def liveFenced (before : Deployment) : Activity → Bool
  | .exec self (.handshake conn .onConnect) _ =>
      decide (before.registered self conn.key ≠ some conn) ||
        (decide (∀ row ∈ before.row conn.key, row.status = .connected) &&
          (before.threadsOf self).all fun thread =>
            !thread.pursues conn.key)
  | .exec self (.teardown conn .disconnect) reply =>
      !reply.applied ||
        (!decide (before.Live self conn.key) &&
          !decide (before.LiveElsewhere self conn.key))
  | .exec self (.teardown conn .onDisconnect) _ =>
      !decide (before.Live self conn.key)
  | .exec self (.adoption _ (.deliver ((key, _) :: _))) _ =>
      !decide (before.Live self key)
  | .exec self (.expiry key _ .markDead) reply =>
      !reply.applied || !decide (before.LiveElsewhere self key)
  | _ => true

/-! ## The invariant -/

/-- What an executor with a live socket looks like to its instance. -/
structure LiveSafe (deployment : Deployment) : Prop where
  wellFormed : deployment.WellFormed
  entry : ∀ {self key}, deployment.Live self key →
    ∀ exec ∈ deployment.tracked self key, exec.state = .connected
  row : ∀ {self key}, deployment.Live self key →
    ∀ row ∈ deployment.row key, row.status = .connected
  notPursued : ∀ {self key}, deployment.Live self key →
    ∀ thread ∈ deployment.threadsOf self, thread.pursues key = false

theorem liveSafe_empty (now : Time) : LiveSafe (Deployment.empty now) := by
  have nothingLive : ∀ self key, ¬ (Deployment.empty now).Live self key := by
    rintro self key ⟨conn, registered, -⟩
    simp [Deployment.registered, Deployment.empty] at registered
  exact
    { wellFormed := Deployment.wellFormed_empty now
      entry := fun live => (nothingLive _ _ live).elim
      row := fun live => (nothingLive _ _ live).elim
      notPursued := fun live => (nothingLive _ _ live).elim }

section LiveSockets

variable {config : Config} {before after : Deployment} {activity : Activity}
variable {self other : UUID} {key : ExecutorKey}

theorem Deployment.Live.elsewhere
    (live : before.Live other key) (different : other ≠ self) :
    before.LiveElsewhere self key := by
  rcases live with ⟨conn, registered, done⟩
  cases present : before.instances.lookup other with
  | none =>
      rw [Deployment.registered, present] at registered
      cases registered
  | some relay =>
      exact ⟨⟨other, relay⟩, mem_entries_iff.mpr present, different,
        conn, registered, done⟩

/-- A socket comes to life by the `OnConnect` of the registered connection. -/
theorem Takes.live
    (takes : Takes config before activity after)
    (wellFormed : before.WellFormed) (live : after.Live self key) :
    before.Live self key ∨
      ∃ conn reply,
        activity = .exec self (.handshake conn .onConnect) reply ∧
          conn.key = key ∧ before.registered self key = some conn := by
  rcases live with ⟨conn, registered, done⟩
  rw [Option.mem_def] at registered
  rcases takes.registered_some registered with
    wasRegistered | ⟨reply, rfl, sameKey⟩
  · rcases takes.handshakeDone done with ⟨wasDone, -⟩ | ⟨reply, rfl⟩
    · exact Or.inl ⟨conn, wasRegistered, wasDone⟩
    · exact Or.inr ⟨conn, reply, rfl,
        wellFormed.registeredKey wasRegistered, wasRegistered⟩
  · rcases takes.handshakeDone done with ⟨-, notRegistering⟩ | ⟨_, same⟩
    · exact (notRegistering ⟨reply, rfl⟩).elim
    · cases same

/-! ## Every step keeps it -/

/-- The entry of an executor with a live socket stays connected. -/
theorem LiveSafe.entry_step
    (safe : LiveSafe before)
    (taken : before.step config activity = some after)
    (allowed : liveFenced before activity = true)
    (live : after.Live self key) :
    ∀ exec ∈ after.tracked self key, exec.state = .connected := by
  intro exec found
  have takes := takes_of_step taken
  rcases takes.live safe.wellFormed live with
    wasLive | ⟨conn, reply, rfl, sameKey, -⟩
  · rcases takes.tracked_some safe.wellFormed found with
      kept | ⟨thread, reply, relay, rfl, present, member, tracked⟩
    · exact safe.entry wasLive exec kept
    cases tracked with
    | connected conn _ sameKey unarmed isConnected => exact isConnected
    | disconnected conn _ sameKey =>
        simp [liveFenced, sameKey, wasLive] at allowed
    | adopted => simp [liveFenced, wasLive] at allowed
    | expired watcher old sameKey due present recorded isDisconnected =>
        have isConnected := safe.entry wasLive old present
        rw [isConnected] at isDisconnected
        cases isDisconnected
  · rcases safe.wellFormed.inState_onConnect taken with
      ⟨new, present, isConnected⟩
    rw [sameKey] at present
    cases Option.mem_unique found present
    exact isConnected

/-- The row of an executor with a live socket stays connected. -/
theorem LiveSafe.row_step
    (safe : LiveSafe before)
    (takes : Takes config before activity after)
    (allowed : liveFenced before activity = true)
    (live : after.Live self key) :
    ∀ row ∈ after.row key, row.status = .connected := by
  intro row found
  obtain ⟨result, rowEq, change⟩ := takes.exists_rowStep found
  rcases takes.live safe.wellFormed live with
    wasLive | ⟨conn, reply, rfl, sameKey, registered⟩
  · cases change with
    | unchanged => exact safe.row wasLive row rowEq.symm
    | upserted =>
        cases rowEq
        rfl
    | touched acting conn renewalExpires reply old sameKey member present =>
        cases rowEq
        exact safe.row wasLive old present
    | disconnected acting conn reply old sameKey member applied present =>
        simp only [liveFenced, applied, sameKey, Bool.not_true,
          Bool.false_or, Bool.and_eq_true, Bool.not_eq_true',
          decide_eq_false_iff_not] at allowed
        by_cases same : self = acting
        · rw [same] at wasLive
          exact (allowed.1 wasLive).elim
        · exact (allowed.2 (wasLive.elsewhere same)).elim
    | markedDead acting version reply old member applied present alive =>
        simp only [liveFenced, applied, Bool.not_true, Bool.false_or,
          Bool.not_eq_true', decide_eq_false_iff_not] at allowed
        by_cases same : self = acting
        · subst same
          have notPursued := safe.notPursued wasLive _ member
          simp [Thread.pursues] at notPursued
        · exact (allowed (wasLive.elsewhere same)).elim
    | deleted => cases rowEq
    | reaped acting startup cutoff reply old member present reapable =>
        have isConnected := safe.row wasLive old present
        rw [reapable.1] at isConnected
        cases isConnected
    | adopted acting startup lease reply old member applied present =>
        cases rowEq
        exact safe.row wasLive old present
  · cases change with
    | unchanged =>
        simp only [liveFenced, sameKey, registered, ne_eq, not_true_eq_false,
          decide_false, Bool.false_or, Bool.and_eq_true,
          decide_eq_true_eq] at allowed
        exact allowed.1 row rowEq.symm

/-- No goroutine comes to pursue an executor with a live socket. -/
theorem LiveSafe.notPursued_step
    (safe : LiveSafe before)
    (takes : Takes config before activity after)
    (allowed : liveFenced before activity = true)
    (live : after.Live self key) :
    ∀ thread ∈ after.threadsOf self, thread.pursues key = false := by
  intro thread member
  by_contra pursuing
  rw [Bool.not_eq_false] at pursuing
  have origin := (takes.thread member).pursues pursuing
  rcases takes.live safe.wellFormed live with
    wasLive | ⟨conn, reply, rfl, sameKey, registered⟩
  · rcases origin with ⟨old, running, oldPursues⟩ |
        ⟨-, -, exec, -, -, -, -, present, -, isDisconnected⟩ |
        ⟨row, present, isDead⟩
    · rw [safe.notPursued wasLive old running] at oldPursues
      cases oldPursues
    · rw [safe.entry wasLive exec present] at isDisconnected
      cases isDisconnected
    · rw [safe.row wasLive row present] at isDead
      cases isDead
  · simp only [liveFenced, sameKey, registered, ne_eq, not_true_eq_false,
      decide_false, Bool.false_or, Bool.and_eq_true,
      decide_eq_true_eq, List.all_eq_true, Bool.not_eq_true'] at allowed
    rcases origin with ⟨old, running, oldPursues⟩ |
        ⟨watcher, reply', exec, impossible, -⟩ | ⟨row, present, isDead⟩
    · rw [allowed.2 old running] at oldPursues
      cases oldPursues
    · cases impossible
    · rw [allowed.1 row present] at isDead
      cases isDead

theorem LiveSafe.step
    (safe : LiveSafe before)
    (taken : before.step config activity = some after)
    (allowed : liveFenced before activity = true) :
    LiveSafe after where
  wellFormed := safe.wellFormed.step (takes_of_step taken)
  entry := safe.entry_step taken allowed
  row := safe.row_step (takes_of_step taken) allowed
  notPursued := safe.notPursued_step (takes_of_step taken) allowed

/-- A step from a safe deployment spares the executors with a live socket. -/
theorem LiveSafe.sparesExecutor
    (safe : LiveSafe before)
    (takes : Takes config before activity after)
    (live : before.Live self key) :
    SparesExecutor self key before activity after where
  notMoved := by
    rintro ⟨exec, found, isDead⟩
    rcases takes.tracked_some safe.wellFormed found with
      kept | ⟨thread, reply, relay, rfl, present, member, tracked⟩
    · exact ⟨exec, kept, isDead⟩
    cases tracked with
    | connected conn _ sameKey unarmed isConnected =>
        rw [isConnected] at isDead
        cases isDead
    | disconnected conn _ sameKey wasConnected armed =>
        rw [armed.state] at isDead
        cases isDead
    | adopted startup version rest _ armed =>
        rw [armed.state] at isDead
        cases isDead
    | expired watcher old sameKey due present recorded isDisconnected =>
        rw [safe.entry live old present] at isDisconnected
        cases isDisconnected
  notMarked := by
    intro own isDead
    rcases takes.hasStatus_dead isDead with
      wasDead | ⟨acting, version, reply, rfl, member⟩ |
        ⟨acting, startup, cutoff, old, member, present, reapable⟩
    · exact wasDead
    · have same : acting = self := of_decide_eq_true own
      rw [same] at member
      have notPursued := safe.notPursued live _ member
      simp [Thread.pursues] at notPursued
    · have isConnected := safe.row live old present
      rw [reapable.1] at isConnected
      cases isConnected
  notNamed := by
    by_contra named
    rw [Bool.not_eq_false] at named
    rcases takes.pursues_of_dispatches named with ⟨thread, member, pursues⟩
    rw [safe.notPursued live thread member] at pursues
    cases pursues

end LiveSockets

/-! ## Runs -/

/--
In every run of any number of instances which carries out no stale decision,
no instance moves an executor with a live socket of its own to dead, marks it
dead in the store or names it in a recovery.
-/
theorem live_sockets_spared
    (config : Config) (now : Time) (activities : List Activity)
    (reached : Deployment)
    (guarded : GuardedRun (Deployment.step config)
      (fun before activity => liveFenced before activity = true)
      (Deployment.empty now) activities reached) :
    SparesLiveSockets config (Deployment.empty now) activities := by
  intro earlier activity later before after self key split reaches taken live
  rw [split] at guarded
  rcases guarded.at_position LiveSafe
      (fun allowed taken safe => safe.step taken allowed)
      (liveSafe_empty now) reaches with
    ⟨safe, -, -⟩
  exact safe.sparesExecutor (takes_of_step taken) live

/-- An executor is recovered and deleted, and then connects again. -/
theorem live_sockets_spared_reconnect :
    ((run (Deployment.step defaultConfig) (Deployment.empty 0)
        (recoveryDispatched ++ recordDeleted ++
          connects defaultConfig (60 * second) relayA (execConn 2))).map
      fun reached => (reached.Live relayA (execConn 2).key : Bool)) =
        some true ∧
    SparesLiveSockets defaultConfig (Deployment.empty 0)
      (recoveryDispatched ++ recordDeleted ++
        connects defaultConfig (60 * second) relayA (execConn 2)) := by
  have guarded :
      (runGuarded (Deployment.step defaultConfig)
        (fun before activity => liveFenced before activity = true)
        (Deployment.empty 0)
        (recoveryDispatched ++ recordDeleted ++
          connects defaultConfig (60 * second) relayA (execConn 2))).isSome := by
    decide
  rcases Option.isSome_iff_exists.mp guarded with ⟨reached, taken⟩
  refine ⟨by decide, ?_⟩
  exact live_sockets_spared defaultConfig 0 _ reached
    (guardedRun_of_runGuarded taken)

/--
The grace timer of a lost executor fires, and the executor reconnects to the
same instance before the ownership lookup.  The lookup only asks for another
owner.
-/
def reconnectedDuringExpiry : List Activity :=
  let key := (execConn 0).key
  boots defaultConfig 0 relayA ++
    connects defaultConfig 0 relayA (execConn 0) ++
    disconnects relayA (execConn 0) ++
    [.advance 60000000000,
      .exec relayA (.watcher ⟨key, "v1", 0, 0, 60 * second⟩) .ok] ++
    connects defaultConfig (60 * second) relayA (execConn 1) ++
    [.exec relayA (.expiry key "v1" .lookup) .ok]

theorem reconnectedDuringExpiry_marked :
    ((run (Deployment.step defaultConfig) (Deployment.empty 0)
        (reconnectedDuringExpiry ++
          [.exec relayA (.expiry (execConn 0).key "v1" .markDead) .ok,
            .exec relayA
              (.graceLoop (execConn 0).key "v1" 1 (60 * second)) .ok])).map
      fun reached =>
        ((reached.Live relayA (execConn 0).key : Bool),
          (reached.row (execConn 0).key).map Executor.status,
          (.recovery 0 (execConn 0).key "v1" .awaiting (.grace 1) ∈
            reached.threadsOf relayA : Bool))) =
      some (true, some .dead, true) ∧
    ¬ SparesLiveSockets defaultConfig (Deployment.empty 0)
      (reconnectedDuringExpiry ++
        [.exec relayA (.expiry (execConn 0).key "v1" .markDead) .ok]) := by
  refine ⟨by decide, ?_⟩
  intro spares
  have liveBefore :
      ((run (Deployment.step defaultConfig) (Deployment.empty 0)
          reconnectedDuringExpiry).map fun before =>
        ((before.Live relayA (execConn 0).key : Bool),
          (before.HasStatus (execConn 0).key .dead : Bool),
          (before.step defaultConfig
            (.exec relayA (.expiry (execConn 0).key "v1" .markDead) .ok)).map
            fun after => (after.HasStatus (execConn 0).key .dead : Bool))) =
        some (true, false, some true) := by
    decide
  rcases Option.map_eq_some_iff.mp liveBefore with ⟨before, reaches, views⟩
  simp only [Prod.mk.injEq, decide_eq_true_eq, decide_eq_false_iff_not,
    Option.map_eq_some_iff] at views
  rcases views with ⟨live, notDead, after, taken, isDead⟩
  have spared := spares reconnectedDuringExpiry _ [] before after relayA
    (execConn 0).key rfl reaches taken live
  exact notDead (spared.notMarked rfl isDead)

end DbosRelay.Cluster
