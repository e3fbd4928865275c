import DbosRelay.Library.Runs
import DbosRelay.Store.Executors

/-!
# The lease of a connection

`triggerLeaseTouch` of `internal/hub/conn.go` and the callback `ServeHTTP` of
`internal/hub/hub.go` gives it.  The hub stores a lease of its own duration for
every connection and renews it beside the pings; a connection whose renewals
fail closes once they have failed for the connection's own duration, which the
hub never sets and which stays at a minute.

Three things come between the stored lease and that test.  The durations differ,
an update of no row counts as a renewal, and only a failure is tested.  So a
connection whose lease has run out is closed by the next outcome exactly if this
is a failure, and more than a minute after the last success was reported.
-/

namespace DbosRelay.Hub

open DbosRelay.Basic
open DbosRelay.Library.Runs
open DbosRelay.Library.Tables
open DbosRelay.Store

/-! ## The connection -/

/-- What the hub is configured with. -/
structure LeaseConfig where
  instanceID : Option UUID
  leaseDuration : Duration
deriving DecidableEq, Repr

/-- The expiry of a lease taken now. -/
def LeaseConfig.leaseExpires (config : LeaseConfig) (now : Time) :
    Option Time :=
  config.instanceID.map fun _ => now + config.leaseDuration

/-- `Time.UnixNano`. -/
def unixNano (time : Time) : Int := int64 time

/-- The fields of an `ExecutorConn` which concern its lease. -/
structure ConnLease where
  leaseDuration : Duration
  lastRenewedAt : Int
  closed : Bool
deriving DecidableEq, Repr

/-- The duration of `NewExecutorConn`. -/
def defaultLeaseDuration : Duration := 60 * second

/-- `NewExecutorConn`; the hub sets no other lease duration afterwards. -/
def newExecutorConn (now : Time) : ConnLease where
  leaseDuration := defaultLeaseDuration
  lastRenewedAt := unixNano now
  closed := false

namespace ConnLease

/-- The test on a failed renewal. -/
def renewalExpired (conn : ConnLease) (now : Time) : Bool :=
  let leaseDur :=
    if conn.leaseDuration ≤ 0 then 60 * second else conn.leaseDuration
  conn.lastRenewedAt ≠ 0 &&
    leaseDur < timeSub now (timeUnix 0 conn.lastRenewedAt)

/-- `triggerLeaseTouch` once the touch has returned. -/
def touchReturned (conn : ConnLease) (now : Time) (failed : Bool) : ConnLease :=
  if failed then
    if conn.renewalExpired now then { conn with closed := true } else conn
  else { conn with lastRenewedAt := unixNano now }

end ConnLease

/-! ## The system -/

/-- A touch in flight: what it writes, and whether the store has executed it. -/
structure LeaseTouch where
  renewalExpires : Option Time
  executed : Bool
deriving DecidableEq, Repr

/-- A connection, the table its lease is stored in, and what was done for it. -/
structure LeaseSystem where
  now : Time
  executors : ExecutorTable
  conn : ConnLease
  /-- `touchRunning`. -/
  running : Option LeaseTouch
  /-- The lease this connection stored last. -/
  stored : Option Time
  /-- The stored lease has run out at some time. -/
  lapsed : Bool
  /-- When the last success was reported, or the connection created. -/
  reportedAt : Time

/-- A lease nobody has extended in time; the `WHERE` clause of an adoption. -/
def leaseRunOut (lease : Option Time) (now : Time) : Bool :=
  ∀ expiry ∈ lease, expiry < now

/-- What happens. -/
inductive LeaseEvent where
  | elapse (elapsed : Nat)
  /-- A ping succeeds and `triggerLeaseTouch` is called. -/
  | beat
  /-- The store executes the touch in flight. -/
  | execute
  /-- The touch in flight returns. -/
  | answer (failed : Bool)
  /-- The store executes a statement of somebody else. -/
  | others (statement : Statement)
  /-- The connection is closed for another reason. -/
  | close

namespace LeaseSystem

/-- Take note of a lease which has run out. -/
def observe (system : LeaseSystem) : LeaseSystem :=
  { system with
    lapsed := system.lapsed || leaseRunOut system.stored system.now }

/-- `ServeHTTP`: the lease is computed, then stored, then the connection made. -/
def serveHTTP (config : LeaseConfig) (key : ExecutorKey) (version : String)
    (table : ExecutorTable) (computedAt createdAt : Time) : LeaseSystem :=
  let leaseExpires := config.leaseExpires computedAt
  observe
    { now := createdAt
      executors :=
        upsertExecutor table createdAt key version config.instanceID
          leaseExpires
      conn := newExecutorConn createdAt
      running := none
      stored := leaseExpires
      lapsed := false
      reportedAt := createdAt }

/-- `TouchExecutorLastSeen`, which is content with no row. -/
def execute (system : LeaseSystem) (key : ExecutorKey) (touch : LeaseTouch) :
    LeaseSystem :=
  { system with
    executors :=
      touchExecutorLastSeen system.executors system.now key
        touch.renewalExpires
    running := some { touch with executed := true }
    stored :=
      if key ∈ system.executors then touch.renewalExpires else system.stored }

/-- The touch returns. -/
def answer (system : LeaseSystem) (failed : Bool) : LeaseSystem :=
  { system with
    conn := system.conn.touchReturned system.now failed
    running := none
    reportedAt := if failed then system.reportedAt else system.now }

/-- What an event does. -/
def next (config : LeaseConfig) (key : ExecutorKey) (system : LeaseSystem) :
    LeaseEvent → Option LeaseSystem
  | .elapse elapsed => some { system with now := system.now + elapsed }
  | .beat =>
      match system.running with
      | some _ => some system
      | none =>
          some
            { system with
              running := some ⟨config.leaseExpires system.now, false⟩ }
  | .execute =>
      match system.running with
      | none => none
      | some touch =>
          if touch.executed then none else some (system.execute key touch)
  | .answer failed =>
      match system.running with
      | none => none
      | some touch =>
          -- A success has been executed; a failure may have been, too.
          if failed || touch.executed then some (system.answer failed)
          else none
  | .others statement =>
      some
        { system with executors := statement.run system.now system.executors }
  | .close => some { system with conn := { system.conn with closed := true } }

/-- One step. -/
def step (config : LeaseConfig) (key : ExecutorKey) (system : LeaseSystem)
    (event : LeaseEvent) : Option LeaseSystem :=
  (system.next config key event).map observe

end LeaseSystem

/-! ## The property -/

section Runs

variable (config : LeaseConfig) (key : ExecutorKey) (source : LeaseSystem)

/-- A property of every outcome of a run and of the state it is observed in. -/
def AtOutcomes (events : List LeaseEvent)
    (holds : LeaseSystem → Bool → Prop) : Prop :=
  ∀ earlier failed later before,
    events = earlier ++ .answer failed :: later →
      run (LeaseSystem.step config key) source earlier = some before →
        holds before failed

/--
The outcome closes a connection whose lease has run out, and leaves none open
whose row another instance may adopt.
-/
structure LeaseSafe (before : LeaseSystem) (failed : Bool) : Prop where
  closes : before.lapsed = true → ∀ after,
    before.step config key (.answer failed) = some after →
      after.conn.closed = true
  notAdoptable : ∀ after row adopter,
    before.step config key (.answer failed) = some after →
      after.executors.lookup key = some row →
        row.leaseExpiresAt = after.stored →
          row.Adoptable after.now adopter → after.conn.closed = true

/-- The outcome is a failure, a minute and more after the last success. -/
def Overdue (before : LeaseSystem) (failed : Bool) : Prop :=
  failed = true ∧ unixNano before.reportedAt ≠ 0 ∧
    defaultLeaseDuration < timeSub before.now (unixNano before.reportedAt)

end Runs

/-! ## What the connection knows -/

/-- The connection's fields follow what was reported to it. -/
structure LeaseInvariant (system : LeaseSystem) : Prop where
  duration : system.conn.leaseDuration = defaultLeaseDuration
  renewed : system.conn.lastRenewedAt = unixNano system.reportedAt
  noticed : leaseRunOut system.stored system.now = true →
    system.lapsed = true

section Steps

variable {config : LeaseConfig} {key : ExecutorKey}
variable {before after : LeaseSystem} {event : LeaseEvent}

theorem LeaseSystem.noticed_observe (system : LeaseSystem)
    (ranOut : leaseRunOut system.observe.stored system.observe.now = true) :
    system.observe.lapsed = true := by
  show (system.lapsed || leaseRunOut system.stored system.now) = true
  rw [Bool.or_eq_true]
  exact .inr ranOut

theorem leaseInvariant_serveHTTP (version : String) (table : ExecutorTable)
    (computedAt createdAt : Time) :
    LeaseInvariant
      (LeaseSystem.serveHTTP config key version table computedAt
        createdAt) where
  duration := rfl
  renewed := rfl
  noticed := LeaseSystem.noticed_observe _

theorem ConnLease.touchReturned_leaseDuration (conn : ConnLease) (now : Time)
    (failed : Bool) :
    (conn.touchReturned now failed).leaseDuration = conn.leaseDuration := by
  rw [touchReturned]
  split_ifs <;> rfl

theorem ConnLease.touchReturned_lastRenewedAt (conn : ConnLease) (now : Time)
    (failed : Bool) :
    (conn.touchReturned now failed).lastRenewedAt =
      if failed then conn.lastRenewedAt else unixNano now := by
  rw [touchReturned]
  split_ifs <;> rfl

/-- What one event does to the fields of the connection. -/
theorem LeaseSystem.next_cases
    (taken : before.next config key event = some after) :
    (∃ failed, event = .answer failed ∧ after = before.answer failed) ∨
      (after.conn.leaseDuration = before.conn.leaseDuration ∧
        after.conn.lastRenewedAt = before.conn.lastRenewedAt ∧
          after.reportedAt = before.reportedAt) := by
  cases event with
  | elapse elapsed =>
      cases taken
      exact .inr ⟨rfl, rfl, rfl⟩
  | beat =>
      simp only [next] at taken
      split at taken
      all_goals
        cases taken
        exact .inr ⟨rfl, rfl, rfl⟩
  | execute =>
      simp only [next] at taken
      split at taken
      · cases taken
      · split_ifs at taken
        cases taken
        exact .inr ⟨rfl, rfl, rfl⟩
  | answer failed =>
      simp only [next] at taken
      split at taken
      · cases taken
      · split_ifs at taken
        cases taken
        exact .inl ⟨failed, rfl, rfl⟩
  | others statement =>
      cases taken
      exact .inr ⟨rfl, rfl, rfl⟩
  | close =>
      cases taken
      exact .inr ⟨rfl, rfl, rfl⟩

theorem LeaseInvariant.step (invariant : LeaseInvariant before)
    (taken : before.step config key event = some after) :
    LeaseInvariant after := by
  obtain ⟨middle, nextTaken, rfl⟩ := Option.map_eq_some_iff.mp taken
  refine ⟨?_, ?_, LeaseSystem.noticed_observe middle⟩
  · show middle.conn.leaseDuration = defaultLeaseDuration
    rcases LeaseSystem.next_cases nextTaken with
      ⟨failed, -, rfl⟩ | ⟨sameDuration, -, -⟩
    · exact (ConnLease.touchReturned_leaseDuration _ _ _).trans
        invariant.duration
    · exact sameDuration.trans invariant.duration
  · show middle.conn.lastRenewedAt = unixNano middle.reportedAt
    rcases LeaseSystem.next_cases nextTaken with
      ⟨failed, -, rfl⟩ | ⟨-, sameRenewed, sameReported⟩
    · refine (ConnLease.touchReturned_lastRenewedAt _ _ _).trans ?_
      show _ = unixNano (if failed = true then before.reportedAt else before.now)
      split_ifs
      · exact invariant.renewed
      · rfl
    · rw [sameRenewed, sameReported]
      exact invariant.renewed

/-- An outcome closes an open connection exactly if it is overdue. -/
theorem LeaseInvariant.closed_answer (invariant : LeaseInvariant before)
    (failed : Bool) :
    (before.answer failed).conn.closed = true ↔
      before.conn.closed = true ∨ Overdue before failed := by
  show (before.conn.touchReturned before.now failed).closed = true ↔ _
  have positive : ¬defaultLeaseDuration ≤ 0 := by decide
  have sinceEpoch : timeUnix 0 (unixNano before.reportedAt) =
      unixNano before.reportedAt := by
    rw [timeUnix, int64_eq_self (by decide) (by decide), Int.zero_add,
      Int.sub_self, Int.zero_mul, Int.zero_add]
  cases failed with
  | false =>
      rw [ConnLease.touchReturned, if_neg Bool.false_ne_true, Overdue]
      simp
  | true =>
      have test : before.conn.renewalExpired before.now = true ↔
          Overdue before true := by
        rw [ConnLease.renewalExpired, invariant.duration, invariant.renewed,
          if_neg positive, sinceEpoch, Bool.and_eq_true, decide_eq_true_iff,
          decide_eq_true_iff, Overdue]
        exact ⟨fun due => ⟨rfl, due⟩, fun due => due.2⟩
      rw [ConnLease.touchReturned, if_pos rfl, ← test]
      split_ifs with expired
      · simp [expired]
      · simp [expired]

theorem LeaseSystem.step_answer {failed : Bool}
    (taken : before.step config key (.answer failed) = some after) :
    after = (before.answer failed).observe := by
  obtain ⟨middle, nextTaken, rfl⟩ := Option.map_eq_some_iff.mp taken
  simp only [next] at nextTaken
  split at nextTaken
  · cases nextTaken
  · split_ifs at nextTaken
    cases nextTaken
    rfl

/-- One outcome is safe exactly if it is overdue where it has to be. -/
theorem LeaseInvariant.leaseSafe_iff (invariant : LeaseInvariant before)
    {failed : Bool}
    (taken : before.step config key (.answer failed) = some after) :
    LeaseSafe config key before failed ↔
      (before.lapsed = true → before.conn.closed = false →
        Overdue before failed) := by
  have answered := LeaseSystem.step_answer taken
  constructor
  · intro safe lapsed isOpen
    have closed := safe.closes lapsed after taken
    rw [answered] at closed
    rcases (invariant.closed_answer failed).mp closed with wasClosed | overdue
    · rw [isOpen] at wasClosed
      cases wasClosed
    · exact overdue
  · intro overdue
    have closes : before.lapsed = true → after.conn.closed = true := by
      intro lapsed
      rw [answered]
      apply (invariant.closed_answer failed).mpr
      cases wasClosed : before.conn.closed with
      | true => exact .inl rfl
      | false => exact .inr (overdue lapsed wasClosed)
    constructor
    · intro lapsed other otherTaken
      cases taken.symm.trans otherTaken
      exact closes lapsed
    · intro other row adopter otherTaken present ours adoptable
      cases taken.symm.trans otherTaken
      -- The row holds the lease of this connection, which has run out.
      apply closes
      apply invariant.noticed
      rw [answered] at ours adoptable
      apply decide_eq_true
      intro expiry member
      exact adoptable.2.2 expiry (ours ▸ member)

/-- Along a run the same holds of all outcomes together. -/
theorem LeaseInvariant.leaseSafe_run (initially : LeaseInvariant before)
    {events : List LeaseEvent}
    (taken : run (LeaseSystem.step config key) before events = some after) :
    AtOutcomes config key before events (LeaseSafe config key) ↔
      AtOutcomes config key before events
        (fun state failed =>
          state.lapsed = true → state.conn.closed = false →
            Overdue state failed) := by
  apply forall₄_congr
  intro earlier failed later state
  apply forall₂_congr
  intro position reaches
  subst position
  obtain ⟨middle, toMiddle, rest⟩ := run_append_eq_some.mp taken
  cases reaches.symm.trans toMiddle
  obtain ⟨next, stepTaken, -⟩ := run_cons_eq_some.mp rest
  have invariant : LeaseInvariant state :=
    run_invariant LeaseInvariant (fun taken holds => holds.step taken) reaches
      initially
  exact invariant.leaseSafe_iff stepTaken

end Steps

/-! ## Whole runs -/

/--
In every run of a connection, whatever the hub's lease duration and whoever else
writes the table: every outcome after the lease has run out closes the connection
exactly if every such outcome of an open connection is a failure which comes more
than a minute after the last success was reported.
-/
theorem leaseSafe_iff_overdue (config : LeaseConfig) (key : ExecutorKey)
    (version : String) (table : ExecutorTable) (computedAt createdAt : Time)
    (events : List LeaseEvent) (reached : LeaseSystem)
    (taken : run (LeaseSystem.step config key)
      (LeaseSystem.serveHTTP config key version table computedAt createdAt)
      events = some reached) :
    AtOutcomes config key
        (LeaseSystem.serveHTTP config key version table computedAt createdAt)
        events (LeaseSafe config key) ↔
      AtOutcomes config key
        (LeaseSystem.serveHTTP config key version table computedAt createdAt)
        events
        (fun before failed =>
          before.lapsed = true → before.conn.closed = false →
            Overdue before failed) := by
  exact (leaseInvariant_serveHTTP version table computedAt
    createdAt).leaseSafe_run taken

/-! ## Prompt renewals -/

/--
Every renewal finds its row; a success is reported before the lease has run out,
and a minute and more before the new one will; the clock fits `UnixNano`.
-/
def LeaseSystem.prompt (key : ExecutorKey) (system : LeaseSystem) :
    LeaseEvent → Bool
  | .elapse elapsed => system.now + elapsed ≤ maxInt64
  | .execute => key ∈ system.executors
  | .answer false =>
      !system.lapsed &&
        ∀ touch ∈ system.running, ∀ expiry ∈ touch.renewalExpires,
          system.now + defaultLeaseDuration ≤ expiry
  | _ => true

/-- The last report is a minute and more older than the end of the lease. -/
structure PromptInvariant (system : LeaseSystem) : Prop where
  positive : 0 < system.reportedAt
  reported : system.reportedAt ≤ system.now
  inRange : system.now ≤ maxInt64
  lease : ∃ expiry, system.stored = some expiry ∧
    system.reportedAt + defaultLeaseDuration ≤ expiry
  late : system.lapsed = true →
    system.reportedAt + defaultLeaseDuration < system.now
  touch : ∀ touch ∈ system.running, ∃ expiry,
    touch.renewalExpires = some expiry ∧
      system.reportedAt + defaultLeaseDuration ≤ expiry ∧
        (touch.executed = true → system.stored = some expiry)

namespace PromptInvariant

variable {config : LeaseConfig} {key : ExecutorKey}
variable {system before after : LeaseSystem}

theorem observe (invariant : PromptInvariant system) :
    PromptInvariant system.observe where
  positive := invariant.positive
  reported := invariant.reported
  inRange := invariant.inRange
  lease := invariant.lease
  late := by
    intro noticed
    have cases : system.lapsed = true ∨
        leaseRunOut system.stored system.now = true := by
      rw [← Bool.or_eq_true]
      exact noticed
    rcases cases with earlier | ranOut
    · exact invariant.late earlier
    · obtain ⟨expiry, stored, enough⟩ := invariant.lease
      have past := of_decide_eq_true ranOut expiry stored
      exact lt_of_le_of_lt enough past
  touch := invariant.touch

/-- A failure which finds the lease run out is overdue. -/
theorem overdue (invariant : PromptInvariant system)
    (lapsed : system.lapsed = true) : Overdue system true := by
  have late : system.reportedAt + 60000000000 < system.now :=
    invariant.late lapsed
  have positive : 0 < system.reportedAt := invariant.positive
  have reported : system.reportedAt ≤ system.now := invariant.reported
  have inRange : system.now ≤ 2 ^ 63 - 1 := invariant.inRange
  have exact : unixNano system.reportedAt = system.reportedAt := by
    apply int64_eq_self
    · exact le_trans (by decide) (Int.le_of_lt positive)
    · exact le_trans reported inRange
  refine ⟨rfl, ?_, ?_⟩
  · rw [exact]
    exact (Int.ne_of_gt positive)
  · rw [exact, timeSub]
    apply lt_max_of_lt_right
    apply lt_min (by decide)
    show (60000000000 : Int) < system.now - system.reportedAt
    exact Int.lt_sub_left_of_add_lt late

theorem next {event : LeaseEvent} (invariant : PromptInvariant before)
    (owned : config.instanceID.isSome = true)
    (long : defaultLeaseDuration ≤ config.leaseDuration)
    (allowed : before.prompt key event = true)
    (taken : before.next config key event = some after) :
    PromptInvariant after := by
  cases event with
  | elapse elapsed =>
      cases taken
      have later : before.now ≤ before.now + elapsed :=
        Int.le_add_of_nonneg_right (Int.natCast_nonneg elapsed)
      exact
        { invariant with
          reported := le_trans invariant.reported later
          inRange := of_decide_eq_true allowed
          late := fun lapsed => lt_of_lt_of_le (invariant.late lapsed) later }
  | beat =>
      simp only [LeaseSystem.next] at taken
      split at taken
      · cases taken
        exact invariant
      · cases taken
        obtain ⟨self, isSelf⟩ := Option.isSome_iff_exists.mp owned
        refine { invariant with touch := ?_ }
        intro touch started
        cases started
        refine ⟨before.now + config.leaseDuration, ?_, ?_, nofun⟩
        · rw [LeaseConfig.leaseExpires, isSelf]
          rfl
        · exact Int.add_le_add invariant.reported long
  | execute =>
      simp only [LeaseSystem.next] at taken
      split at taken
      · cases taken
      · rename_i touch running
        split_ifs at taken
        cases taken
        obtain ⟨expiry, written, enough, -⟩ :=
          invariant.touch touch running
        have found : (before.execute key touch).stored = some expiry := by
          rw [← written]
          exact if_pos (of_decide_eq_true allowed)
        refine { invariant with lease := ⟨expiry, found, enough⟩, touch := ?_ }
        intro executed same
        cases same
        exact ⟨expiry, written, enough, fun _ => found⟩
  | answer failed =>
      simp only [LeaseSystem.next] at taken
      split at taken
      · cases taken
      · rename_i touch running
        split_ifs at taken with answers
        cases taken
        cases failed with
        | true => exact { invariant with touch := nofun }
        | false =>
            obtain ⟨expiry, written, -, stored⟩ :=
              invariant.touch touch running
            rw [LeaseSystem.prompt, Bool.and_eq_true, decide_eq_true_iff]
              at allowed
            refine
              { positive := lt_of_lt_of_le invariant.positive invariant.reported
                reported := le_rfl
                inRange := invariant.inRange
                lease := ⟨expiry, stored answers,
                  allowed.2 touch running expiry written⟩
                late := ?_
                touch := nofun }
            intro lapsed
            have notLapsed : before.lapsed = false := by
              simpa using allowed.1
            cases notLapsed.symm.trans lapsed
  | others statement =>
      cases taken
      exact { invariant with }
  | close =>
      cases taken
      exact { invariant with }

theorem serveHTTP (version : String) (table : ExecutorTable)
    {computedAt createdAt : Time} (positive : 0 < createdAt)
    (inRange : createdAt ≤ maxInt64)
    (owned : config.instanceID.isSome = true)
    (prompt : createdAt + defaultLeaseDuration ≤
      computedAt + config.leaseDuration) :
    PromptInvariant
      (LeaseSystem.serveHTTP config key version table computedAt
        createdAt) := by
  obtain ⟨self, isSelf⟩ := Option.isSome_iff_exists.mp owned
  apply observe
  refine
    { positive := positive
      reported := le_rfl
      inRange := inRange
      lease := ⟨computedAt + config.leaseDuration, ?_, prompt⟩
      late := nofun
      touch := nofun }
  show config.leaseExpires computedAt = _
  rw [LeaseConfig.leaseExpires, isSelf]
  rfl

end PromptInvariant

/--
With leases of a minute and more, and as long as renewals are prompt, the
connection is closed by the first failure after its lease has run out.
-/
theorem leaseSafe_of_prompt (config : LeaseConfig) (key : ExecutorKey)
    (version : String) (table : ExecutorTable) {computedAt createdAt : Time}
    (events : List LeaseEvent) (reached : LeaseSystem)
    (owned : config.instanceID.isSome = true)
    (long : defaultLeaseDuration ≤ config.leaseDuration)
    (positive : 0 < createdAt) (inRange : createdAt ≤ maxInt64)
    (handshake : createdAt + defaultLeaseDuration ≤
      computedAt + config.leaseDuration)
    (guarded : GuardedRun (LeaseSystem.step config key)
      (fun system event => system.prompt key event = true)
      (LeaseSystem.serveHTTP config key version table computedAt createdAt)
      events reached) :
    AtOutcomes config key
      (LeaseSystem.serveHTTP config key version table computedAt createdAt)
      events (LeaseSafe config key) := by
  apply ((leaseInvariant_serveHTTP version table computedAt
    createdAt).leaseSafe_run guarded.run_eq).mpr
  rintro earlier failed later before rfl reaches lapsed -
  have preserved : ∀ {before after event},
      before.prompt key event = true →
        before.step config key event = some after →
          PromptInvariant before → PromptInvariant after := by
    intro before after event allowed taken invariant
    obtain ⟨middle, nextTaken, rfl⟩ := Option.map_eq_some_iff.mp taken
    exact (invariant.next owned long allowed nextTaken).observe
  obtain ⟨invariant, allowed, -⟩ :=
    guarded.at_position PromptInvariant preserved
      (.serveHTTP version table positive inRange owned handshake) reaches
  cases failed with
  | true => exact invariant.overdue lapsed
  | false =>
      rw [LeaseSystem.prompt, lapsed] at allowed
      cases allowed

/-- A hub with leases of the given duration. -/
def leaseConfig (leaseDuration : Duration) : LeaseConfig where
  instanceID := some ⟨0xA⟩
  leaseDuration := leaseDuration

/-- The executor of the samples. -/
def leasedKey : ExecutorKey := ⟨⟨7⟩, "exec-1"⟩

/-- Its connection at the first second. -/
def leasedConn (leaseDuration : Duration) : LeaseSystem :=
  LeaseSystem.serveHTTP (leaseConfig leaseDuration) leasedKey "v1" ∅ second
    second

/-- The store does not answer for a while, and then the touch fails. -/
def touchFails (elapsed : Nat) : List LeaseEvent :=
  [.elapse elapsed, .beat, .answer true]

/-- With leases of 90 seconds the failure closes the connection. -/
theorem leaseSafe_touchFails :
    ∃ reached,
      run (LeaseSystem.step (leaseConfig (90 * second)) leasedKey)
          (leasedConn (90 * second)) (touchFails 91000000000) = some reached ∧
        reached.lapsed = true ∧
          AtOutcomes (leaseConfig (90 * second)) leasedKey
            (leasedConn (90 * second)) (touchFails 91000000000)
            (LeaseSafe (leaseConfig (90 * second)) leasedKey) := by
  refine ⟨_, rfl, rfl, ?_⟩
  apply (leaseSafe_iff_overdue (leaseConfig (90 * second)) leasedKey "v1" ∅
    second second (touchFails 91000000000) _ rfl).mpr
  intro earlier failed later before position reaches
  rcases earlier with _ | ⟨first, _ | ⟨second, _ | ⟨third, rest⟩⟩⟩
  · cases position
  · cases position
  · cases position
    cases reaches
    intro _ _
    exact ⟨rfl, by decide, by decide⟩
  · simp [touchFails] at position

/-- With leases of 30 seconds it leaves the connection and an adoptable row. -/
theorem touchFails_notSafe :
    ∃ reached row,
      run (LeaseSystem.step (leaseConfig (30 * second)) leasedKey)
          (leasedConn (30 * second)) (touchFails 31000000000) = some reached ∧
        reached.conn.closed = false ∧
          reached.executors.lookup leasedKey = some row ∧
            row.Adoptable reached.now ⟨0xB⟩ ∧
              ¬AtOutcomes (leaseConfig (30 * second)) leasedKey
                (leasedConn (30 * second)) (touchFails 31000000000)
                (LeaseSafe (leaseConfig (30 * second)) leasedKey) := by
  refine ⟨_, _, rfl, rfl, rfl, by decide, fun safe => ?_⟩
  have closed := (safe [.elapse 31000000000, .beat] true [] _ rfl rfl).closes
    rfl _ rfl
  cases closed

end DbosRelay.Hub
