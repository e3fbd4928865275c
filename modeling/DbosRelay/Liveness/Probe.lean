import DbosRelay.Liveness.Sources

/-!
# Probe heartbeats

`internal/liveness/probe.go`: a handler which turns HTTP requests of probes into
heartbeats and stops, and a registry which turns missed heartbeats into
disconnects.  The registry and the lifecycle manager have a lock each, and a
heartbeat, a stop and a sweep visit them one after the other, so anything may
happen between the visits.

A heartbeat connects an executor only when the registry has no entry for it.
When it comes between the sweep which removes an entry and the delivery of the
disconnect for that entry, the disconnect may arrive last, and no further
heartbeat repairs it; a heartbeat between the two halves of a stop is lost as
well.  Otherwise an executor within the time to live of its last heartbeat is
tracked as connected.
-/

namespace DbosRelay.Liveness

open DbosRelay.Basic
open DbosRelay.Library.Runs
open DbosRelay.Library.Tables

/-! ## The handler -/

/-- A request to the handler: what it reads of the header and of the body. -/
structure ProbeRequest where
  method : String
  internalSecret : String
  decodes : Bool
  organisation : String
  application : String
  executorID : String
  applicationVersion : String
  ttlSeconds : Int
  stop : Bool
deriving DecidableEq, Repr

/-- How a lookup of the handler fails. -/
inductive LookupError where
  | noRows
  | failed
deriving DecidableEq, Repr

/-- The lookups of a `ProbeStore`. -/
structure ProbeStore where
  getOrganisationByName : String → Except LookupError UUID
  getApplicationByName : UUID → String → Except LookupError UUID

/-- `ProbeHandler`, without its collaborators. -/
structure ProbeHandler where
  secret : String
  defaultOrg : String
  /-- `AllowProbe`; no policy allows everything. -/
  allowProbe : UUID → Bool

/-- What a heartbeat or a stop has still to do. -/
inductive ProbeThread where
  | recording (key : ExecutorKey) (version : String) (ttl : Duration)
  | touching (key : ExecutorKey) (version : String) (ttl : Duration)
  | connecting (key : ExecutorKey) (version : String)
  | stopping (key : ExecutorKey)
  | removing (key : ExecutorKey)
deriving DecidableEq, Repr

/-- `DefaultProbeTTL`. -/
def defaultProbeTTL : Duration := 30 * second

/-- The time to live of a heartbeat. -/
def probeTTL (ttlSeconds : Int) : Duration :=
  let ttl := int64 (ttlSeconds * second)
  min (if ttl ≤ 0 then defaultProbeTTL else ttl) (300 * second)

namespace ProbeHandler

/-- `authorized`. -/
def authorized (handler : ProbeHandler) (req : ProbeRequest) : Bool :=
  handler.secret ≠ "" && req.internalSecret = handler.secret

/-- The organisations `resolve` tries. -/
def candidates (handler : ProbeHandler) (orgName : String) : List String :=
  let orgName := if orgName = "" then handler.defaultOrg else orgName
  [orgName] ++ (if orgName ≠ "default" then ["default"] else []) ++
    (if orgName ≠ "local" then ["local"] else [])

/-- The loop of `resolve`. -/
def resolveFirst (store : ProbeStore) (appName : String)
    (lastErr : LookupError) : List String → Except LookupError UUID
  | [] => .error lastErr
  | candidate :: rest =>
      match store.getOrganisationByName candidate with
      | .error error => resolveFirst store appName error rest
      | .ok org =>
          match store.getApplicationByName org appName with
          | .error error => resolveFirst store appName error rest
          | .ok app => .ok app

/-- `resolve`. -/
def resolve (handler : ProbeHandler) (store : ProbeStore)
    (orgName appName : String) : Except LookupError UUID :=
  resolveFirst store appName .noRows (handler.candidates orgName)

/-- `ServeHTTP` up to its first effect: an HTTP status, or what follows. -/
def serveHTTP (handler : ProbeHandler) (store : ProbeStore)
    (req : ProbeRequest) : Except Nat ProbeThread :=
  if req.method ≠ "POST" then .error 405
  else if !handler.authorized req then .error 401
  else if !req.decodes then .error 400
  else if req.application = "" ∨ req.executorID = "" then .error 400
  else
    match handler.resolve store req.organisation req.application with
    | .error .noRows => .error 404
    | .error .failed => .error 500
    | .ok app =>
        if !handler.allowProbe app then .error 403
        else if req.stop then .ok (.stopping ⟨app, req.executorID⟩)
        else
          .ok (.recording ⟨app, req.executorID⟩ req.applicationVersion
            (probeTTL req.ttlSeconds))

end ProbeHandler

/-! ## The system -/

/-- The registry, the manager and what is under way between them. -/
structure ProbeSystem where
  lifecycle : Lifecycle
  /-- The entries of the registry, and when they expire. -/
  entries : Table ExecutorKey Time
  threads : List ProbeThread
  /-- What `Run` has swept and has still to deliver. -/
  swept : List ExecutorKey
  /-- When the last heartbeat of an executor runs out, until its probe stops. -/
  lastBeat : Table ExecutorKey Time

/-- Nothing has happened yet. -/
def ProbeSystem.initial (instanceID : Option UUID) (now : Time) :
    ProbeSystem where
  lifecycle := Lifecycle.initial instanceID now
  entries := ∅
  threads := []
  swept := []
  lastBeat := ∅

/-- One atomic step. -/
inductive ProbeLabel where
  | lifecycle (step : LifecycleStep)
  | request (store : ProbeStore) (req : ProbeRequest)
  | recorded (key : ExecutorKey) (version : String) (ttl : Duration)
      (stored : Bool)
  | touches (key : ExecutorKey) (version : String) (ttl : Duration)
  | connects (key : ExecutorKey) (version : String)
  | stops (key : ExecutorKey) (timeout : Duration)
  | removes (key : ExecutorKey)
  /-- A tick of `Run`, and the order in which it finds the expired entries. -/
  | sweeps (now : Time) (order : List ExecutorKey)
  | delivers (timeout : Duration)

/-- The step belongs to a probe. -/
def LifecycleStep.ofProbe : LifecycleStep → Bool
  | .onProbeConnect _ _ => true
  | .onProbeDisconnect _ _ => true
  | _ => false

namespace ProbeSystem

/-- The entries `Sweep` removes. -/
def expired (system : ProbeSystem) (now : Time) : List ExecutorKey :=
  (system.entries.entries.filter fun entry => entry.2 < now).map fun entry =>
    entry.1

/-- A thread gives way to what it does next. -/
def replaceThread (system : ProbeSystem) (thread : ProbeThread)
    (next : List ProbeThread) : ProbeSystem :=
  { system with threads := next ++ system.threads.erase thread }

/-- `Touch`: whether it is the first heartbeat is what the next step depends on. -/
def touch (system : ProbeSystem) (key : ExecutorKey) (version : String)
    (ttl : Duration) : ProbeSystem :=
  let expiresAt := system.lifecycle.now + ttl
  { system.replaceThread (.touching key version ttl)
      (if key ∈ system.entries then [] else [.connecting key version]) with
    entries := system.entries.insert key expiresAt
    lastBeat := system.lastBeat.insert key expiresAt }

/-- A call of `OnProbeDisconnect`. -/
def probeDisconnect (system : ProbeSystem) (key : ExecutorKey)
    (timeout : Duration) : Option Lifecycle :=
  system.lifecycle.step (.onProbeDisconnect key timeout)

/-- The step a label stands for. -/
def step (handler : ProbeHandler) (system : ProbeSystem) :
    ProbeLabel → Option ProbeSystem
  | .lifecycle step =>
      if step.ofProbe then none
      else
        (system.lifecycle.step step).map fun lifecycle =>
          { system with lifecycle := lifecycle }
  | .request store req =>
      match handler.serveHTTP store req with
      | .error _ => some system
      | .ok thread => some { system with threads := thread :: system.threads }
  | .recorded key version ttl stored =>
      if .recording key version ttl ∈ system.threads then
        some
          (system.replaceThread (.recording key version ttl)
            (if stored then [.touching key version ttl] else []))
      else none
  | .touches key version ttl =>
      if .touching key version ttl ∈ system.threads then
        some (system.touch key version ttl)
      else none
  | .connects key version =>
      if .connecting key version ∈ system.threads then
        (system.lifecycle.step (.onProbeConnect key version)).map
          fun lifecycle =>
            { system.replaceThread (.connecting key version) [] with
              lifecycle := lifecycle }
      else none
  | .stops key timeout =>
      if .stopping key ∈ system.threads then
        (system.probeDisconnect key timeout).map fun lifecycle =>
          { system.replaceThread (.stopping key) [.removing key] with
            lifecycle := lifecycle
            lastBeat := system.lastBeat.erase key }
      else none
  | .removes key =>
      if .removing key ∈ system.threads then
        some
          { system.replaceThread (.removing key) [] with
            entries := system.entries.erase key }
      else none
  | .sweeps now order =>
      if system.swept = [] ∧ now ≤ system.lifecycle.now ∧
          order.isPerm (system.expired now) then
        some
          { system with
            entries := order.foldl (fun entries key => entries.erase key)
              system.entries
            swept := order }
      else none
  | .delivers timeout =>
      match system.swept with
      | [] => none
      | key :: rest =>
          (system.probeDisconnect key timeout).map fun lifecycle =>
            { system with
              lifecycle := lifecycle
              swept := rest }

end ProbeSystem

/-! ## The property -/

/-- Nothing is left to be delivered for the executor. -/
def ProbeSystem.Settled (system : ProbeSystem) (key : ExecutorKey) : Prop :=
  key ∉ system.swept ∧ .removing key ∉ system.threads ∧
    ∀ version, .connecting key version ∉ system.threads

/--
An executor with nothing left to be delivered, and within the time to live of
its last heartbeat, is tracked as connected.
-/
def ProbeSystem.HeartbeatsCount (system : ProbeSystem) : Prop :=
  ∀ key expiry, system.Settled key →
    system.lastBeat.lookup key = some expiry →
      system.lifecycle.now ≤ expiry → system.lifecycle.Connected key

/-! ## The condition -/

/-- The executor whose entry in the manager the step ends, other than by a probe. -/
def LifecycleStep.ends : LifecycleStep → Option ExecutorKey
  | .onDisconnect key _ => some key
  | .adoptDisconnected key _ _ => some key
  | .evictExecutor key => some key
  | .deleteExecutor key => some key
  | _ => none

/-- A heartbeat of the executor has still to reach the manager. -/
def ProbeSystem.connectPending (system : ProbeSystem) (key : ExecutorKey) :
    Bool :=
  system.threads.any fun
    | .connecting other _ => other = key
    | _ => false

/--
What a sweep or a stop has begun is not finished over a newer heartbeat: the
disconnect of a swept entry finds no new entry, unless the connect for that one
is still to come, and a stop removes no entry of a heartbeat which came after
its disconnect.  What else ends the executor's entry in the manager finds none
in the registry.
-/
def ProbeSystem.undisturbed (system : ProbeSystem) : ProbeLabel → Bool
  | .delivers _ =>
      match system.swept with
      | [] => true
      | key :: _ => key ∉ system.entries || system.connectPending key
  | .removes key => key ∉ system.lastBeat
  | .lifecycle step =>
      match step.ends with
      | some key => key ∉ system.entries
      | none => true
  | _ => true

/-! ## Connected executors -/

namespace Lifecycle

variable {before after : Lifecycle} {key : ExecutorKey}

theorem Connected.of_lookup_eq (isConnected : before.Connected key)
    (same : after.manager.executors.lookup key =
      before.manager.executors.lookup key) : after.Connected key := by
  obtain ⟨exec, present, state⟩ := isConnected
  exact ⟨exec, same.trans present, state⟩

/-- A connect leaves its executor connected. -/
theorem connected_onConnect (invariant : TimerInvariant before.manager)
    {version : String} {source : ExecutorSource}
    (connects : after.manager =
      (before.manager.onConnect key version source).1) :
    after.Connected key := by
  obtain ⟨exec, present, -, state⟩ :=
    invariant.onConnect_self key version source
  exact ⟨exec, connects ▸ present, state⟩

/-- A firing timer does not concern a connected executor. -/
theorem Connected.watchGracePeriod (isConnected : before.Connected key)
    {watcher : Watcher}
    (fires : after.manager = (before.manager.watchGracePeriod watcher).1) :
    after.Connected key := by
  apply isConnected.of_lookup_eq
  rw [fires]
  rcases before.manager.watchGracePeriod_cases watcher with
    unchanged | ⟨exec, present, -, isDisconnected, expired⟩
  · rw [unchanged]
  · rw [expired]
    have different : key ≠ watcher.key := by
      rintro rfl
      obtain ⟨other, entry, state⟩ := isConnected
      cases present.symm.trans entry
      cases state.symm.trans isDisconnected
    rw [Manager.lookup_store, if_neg different]

/-- Only a disconnect, an adoption or a removal ends a connection. -/
theorem Connected.step (isConnected : before.Connected key)
    (invariant : TimerInvariant before.manager) {label : LifecycleStep}
    (kept : label.ends ≠ some key)
    (probed : ∀ timeout, label ≠ .onProbeDisconnect key timeout)
    (taken : before.step label = some after) : after.Connected key := by
  cases label with
  | clockAdvances elapsed =>
      cases taken
      exact isConnected
  | onConnect other version =>
      cases taken
      by_cases same : key = other
      · subst same
        exact connected_onConnect invariant rfl
      · exact isConnected.of_lookup_eq
          (Manager.lookup_onConnect_of_ne version .socket same)
  | onProbeConnect other version =>
      cases taken
      by_cases same : key = other
      · subst same
        exact connected_onConnect invariant rfl
      · exact isConnected.of_lookup_eq
          (Manager.lookup_onConnect_of_ne version .probe same)
  | onDisconnect other timeout =>
      cases taken
      have different : key ≠ other := fun same => kept (same ▸ rfl)
      exact isConnected.of_lookup_eq
        (Manager.lookup_onDisconnect_of_ne before.now timeout .socket
          different)
  | onProbeDisconnect other timeout =>
      cases taken
      have different : key ≠ other := fun same => probed timeout (same ▸ rfl)
      exact isConnected.of_lookup_eq
        (Manager.lookup_onDisconnect_of_ne before.now timeout .probe different)
  | adoptDisconnected other version timeout =>
      cases taken
      have different : key ≠ other := fun same => kept (same ▸ rfl)
      exact isConnected.of_lookup_eq
        (Manager.lookup_adoptDisconnected_of_ne before.now timeout version
          different)
  | evictExecutor other =>
      cases taken
      have different : key ≠ other := fun same => kept (same ▸ rfl)
      exact isConnected.of_lookup_eq
        ((Manager.lookup_evictExecutor _ _ _).trans (if_neg different))
  | deleteExecutor other =>
      cases taken
      have different : key ≠ other := fun same => kept (same ▸ rfl)
      exact isConnected.of_lookup_eq
        ((Manager.lookup_evictExecutor _ _ _).trans (if_neg different))
  | timerFires watcher =>
      rw [Lifecycle.step] at taken
      split_ifs at taken
      cases taken
      exact isConnected.watchGracePeriod rfl
  | cancelObserved watcher =>
      rw [Lifecycle.step] at taken
      split_ifs at taken
      cases taken
      exact isConnected
  | recoveryFailed other =>
      cases taken
      exact isConnected.of_lookup_eq (Manager.lookup_recoveryFailed _ _ _)

theorem now_le_step {label : LifecycleStep}
    (taken : before.step label = some after) : before.now ≤ after.now := by
  cases label with
  | clockAdvances elapsed =>
      cases taken
      exact Int.le_add_of_nonneg_right (Int.natCast_nonneg elapsed)
  | timerFires watcher =>
      rw [Lifecycle.step] at taken
      split_ifs at taken
      cases taken
      exact le_rfl
  | cancelObserved watcher =>
      rw [Lifecycle.step] at taken
      split_ifs at taken
      cases taken
      exact le_rfl
  | _ =>
      cases taken
      exact le_rfl

end Lifecycle

/-! ## The invariant -/

/-- The manager has the executor as connected, or what is under way explains it. -/
def ProbeSystem.Accounted (system : ProbeSystem) (key : ExecutorKey) : Prop :=
  system.lifecycle.Connected key ∨
    (∃ version, .connecting key version ∈ system.threads) ∨
      .removing key ∈ system.threads

/-- The registry, the manager and what is under way belong together. -/
structure HeartbeatInvariant (system : ProbeSystem) : Prop where
  timers : TimerInvariant system.lifecycle.manager
  kept : ∀ {key expiry}, system.entries.lookup key = some expiry →
    system.Accounted key
  beat : ∀ {key expiry}, system.lastBeat.lookup key = some expiry →
    system.entries.lookup key = some expiry ∨ expiry < system.lifecycle.now

theorem heartbeatInvariant_initial (instanceID : Option UUID) (now : Time) :
    HeartbeatInvariant (ProbeSystem.initial instanceID now) where
  timers := timerInvariant_newManager.of_lookup_eq (fun _ => rfl) rfl rfl
  kept := by
    intro key expiry present
    simp [ProbeSystem.initial] at present
  beat := by
    intro key expiry present
    simp [ProbeSystem.initial] at present

/-- With nothing left to be delivered, a heartbeat means a connection. -/
theorem HeartbeatInvariant.heartbeatsCount {system : ProbeSystem}
    (invariant : HeartbeatInvariant system) : system.HeartbeatsCount := by
  rintro key expiry ⟨-, notRemoving, notConnecting⟩ beat within
  rcases invariant.beat beat with present | expired
  · rcases invariant.kept present with isConnected | ⟨version, member⟩ | member
    · exact isConnected
    · exact (notConnecting version member).elim
    · exact (notRemoving member).elim
  · exact absurd expired (Int.not_lt.mpr within)

variable {before after : ProbeSystem} {key : ExecutorKey}

theorem ProbeSystem.Accounted.keep (accounted : before.Accounted key)
    (connected : before.lifecycle.Connected key →
      after.lifecycle.Connected key)
    (connecting : ∀ version, .connecting key version ∈ before.threads →
      .connecting key version ∈ after.threads)
    (removing : .removing key ∈ before.threads →
      .removing key ∈ after.threads) :
    after.Accounted key := by
  rcases accounted with isConnected | ⟨version, member⟩ | member
  · exact .inl (connected isConnected)
  · exact .inr (.inl ⟨version, connecting version member⟩)
  · exact .inr (.inr (removing member))

/-- The other threads stay. -/
theorem ProbeSystem.mem_replaceThread {thread other : ProbeThread}
    (next : List ProbeThread) (member : other ∈ before.threads)
    (different : other ≠ thread) :
    other ∈ (before.replaceThread thread next).threads := by
  show other ∈ next ++ before.threads.erase thread
  rw [List.mem_append]
  exact .inr ((List.mem_erase_of_ne different).mpr member)

theorem ProbeSystem.connectPending_iff :
    before.connectPending key = true ↔
      ∃ version, .connecting key version ∈ before.threads := by
  rw [connectPending, List.any_eq_true]
  constructor
  · rintro ⟨thread, member, pending⟩
    cases thread with
    | connecting other version =>
        cases of_decide_eq_true pending
        exact ⟨version, member⟩
    | _ => cases pending
  · rintro ⟨version, member⟩
    exact ⟨_, member, decide_eq_true rfl⟩

/-- A swept entry is gone, and the others stay. -/
theorem lookup_foldl_erase {entries : Table ExecutorKey Time}
    {order : List ExecutorKey} {key : ExecutorKey} :
    (order.foldl (fun entries key => entries.erase key) entries).lookup key =
      if key ∈ order then none else entries.lookup key := by
  induction order generalizing entries with
  | nil => simp
  | cons first rest induction =>
      rw [List.foldl_cons, induction, lookup_erase_eq]
      by_cases same : key = first
      · simp [same]
      · simp [same]

theorem ProbeSystem.mem_expired {system : ProbeSystem} {now : Time}
    {key : ExecutorKey} :
    key ∈ system.expired now ↔
      ∃ expiry, system.entries.lookup key = some expiry ∧ expiry < now := by
  rw [expired, List.mem_map]
  constructor
  · rintro ⟨⟨other, expiry⟩, member, rfl⟩
    rw [List.mem_filter, mem_entries_iff] at member
    exact ⟨expiry, member.1, of_decide_eq_true member.2⟩
  · rintro ⟨expiry, present, past⟩
    exact ⟨⟨key, expiry⟩,
      List.mem_filter.mpr ⟨mem_entries_iff.mpr present, decide_eq_true past⟩,
      rfl⟩

namespace HeartbeatInvariant

/-- What happens in the manager, but for the ends of an executor's entry. -/
theorem lifecycleStep (invariant : HeartbeatInvariant before)
    {label : LifecycleStep} (notProbe : label.ofProbe = false)
    (allowed : before.undisturbed (.lifecycle label) = true)
    {lifecycle : Lifecycle}
    (taken : before.lifecycle.step label = some lifecycle) :
    HeartbeatInvariant { before with lifecycle := lifecycle } where
  timers := Lifecycle.timerInvariant_step taken invariant.timers
  kept := by
    intro key expiry present
    have notEnded : label.ends ≠ some key := by
      intro ended
      rw [ProbeSystem.undisturbed, ended] at allowed
      have absent := of_decide_eq_true allowed
      exact absent (AList.lookup_isSome.mp (present ▸ rfl))
    have notDisconnected : ∀ timeout, label ≠ .onProbeDisconnect key timeout := by
      rintro timeout rfl
      cases notProbe
    exact (invariant.kept present).keep
      (fun isConnected =>
        isConnected.step invariant.timers notEnded notDisconnected taken)
      (fun _ member => member) id
  beat := by
    intro key expiry beat
    rcases invariant.beat beat with present | expired
    · exact .inl present
    · exact .inr (lt_of_lt_of_le expired (Lifecycle.now_le_step taken))

/-- New threads do no harm. -/
theorem addThreads (invariant : HeartbeatInvariant before)
    {threads : List ProbeThread}
    (connecting : ∀ key version, .connecting key version ∈ before.threads →
      .connecting key version ∈ threads)
    (removing : ∀ key, .removing key ∈ before.threads →
      .removing key ∈ threads) :
    HeartbeatInvariant { before with threads := threads } where
  timers := invariant.timers
  kept := fun present =>
    (invariant.kept present).keep id (connecting _) (removing _)
  beat := invariant.beat

/-- A heartbeat is connected, or it connects. -/
theorem touch (invariant : HeartbeatInvariant before) (key : ExecutorKey)
    (version : String) (ttl : Duration) :
    HeartbeatInvariant (before.touch key version ttl) where
  timers := invariant.timers
  kept := by
    intro other expiry present
    have known : before.entries.lookup other ≠ none →
        (before.touch key version ttl).Accounted other := by
      intro known
      obtain ⟨old, present⟩ := Option.ne_none_iff_exists'.mp known
      exact (invariant.kept present).keep id
        (fun _ member => ProbeSystem.mem_replaceThread _ member nofun)
        (fun member => ProbeSystem.mem_replaceThread _ member nofun)
    by_cases member : other ∈ before.entries
    · exact known (Option.isSome_iff_ne_none.mp (AList.lookup_isSome.mpr member))
    · by_cases same : other = key
      · subst same
        refine .inr (.inl ⟨version, ?_⟩)
        show _ ∈ (if other ∈ before.entries then [] else _) ++ _
        rw [if_neg member]
        exact List.mem_cons_self
      · apply known
        have moved : (before.entries.insert key _).lookup other = some expiry :=
          present
        rw [lookup_insert_eq, if_neg same] at moved
        rw [moved]
        nofun
  beat := by
    intro other expiry beat
    have written : (before.lastBeat.insert key _).lookup other = some expiry :=
      beat
    show (before.entries.insert key _).lookup other = some expiry ∨ _
    rw [lookup_insert_eq] at written ⊢
    split_ifs at written ⊢ with same
    · exact .inl written
    · exact invariant.beat written

/-- A connect reaches the manager. -/
theorem connects (invariant : HeartbeatInvariant before) {version : String}
    {lifecycle : Lifecycle}
    (taken : before.lifecycle.step (.onProbeConnect key version) =
      some lifecycle) :
    HeartbeatInvariant
      { before.replaceThread (.connecting key version) [] with
        lifecycle := lifecycle } where
  timers := Lifecycle.timerInvariant_step taken invariant.timers
  kept := by
    intro other expiry present
    by_cases same : other = key
    · subst same
      cases taken
      exact .inl (Lifecycle.connected_onConnect invariant.timers rfl)
    · refine (invariant.kept present).keep
        (fun isConnected =>
          isConnected.step invariant.timers (by nofun) (by nofun) taken)
        (fun oldVersion member =>
          ProbeSystem.mem_replaceThread _ member ?_)
        (fun member => ProbeSystem.mem_replaceThread _ member nofun)
      intro sameThread
      exact same (ProbeThread.connecting.inj sameThread).1
  beat := by
    cases taken
    exact invariant.beat

/-- A probe's disconnect of one executor leaves the others accounted for. -/
theorem accounted_probeDisconnect (invariant : HeartbeatInvariant before)
    {timeout : Duration}
    (taken : before.probeDisconnect key timeout = some after.lifecycle)
    (connecting : ∀ other version, .connecting other version ∈ before.threads →
      .connecting other version ∈ after.threads)
    (removing : ∀ other, .removing other ∈ before.threads →
      .removing other ∈ after.threads)
    {other : ExecutorKey} (different : other ≠ key) {expiry : Time}
    (present : before.entries.lookup other = some expiry) :
    after.Accounted other := by
  apply (invariant.kept present).keep _ (connecting other) (removing other)
  intro isConnected
  refine isConnected.step invariant.timers (by nofun) ?_ taken
  intro otherTimeout same
  exact different (LifecycleStep.onProbeDisconnect.inj same).1.symm

/-- The first half of a stop: the second explains the entry it leaves. -/
theorem stops (invariant : HeartbeatInvariant before) {timeout : Duration}
    {lifecycle : Lifecycle}
    (taken : before.probeDisconnect key timeout = some lifecycle) :
    HeartbeatInvariant
      { before.replaceThread (.stopping key) [.removing key] with
        lifecycle := lifecycle
        lastBeat := before.lastBeat.erase key } where
  timers := Lifecycle.timerInvariant_step taken invariant.timers
  kept := by
    intro other expiry present
    by_cases same : other = key
    · subst same
      exact .inr (.inr List.mem_cons_self)
    · refine invariant.accounted_probeDisconnect taken ?_ ?_ same present
      · intro other version member
        exact ProbeSystem.mem_replaceThread _ member nofun
      · intro other member
        exact ProbeSystem.mem_replaceThread _ member nofun
  beat := by
    intro other expiry beat
    have earlier : before.lastBeat.lookup other = some expiry := by
      have erased : (before.lastBeat.erase key).lookup other = some expiry :=
        beat
      rw [lookup_erase_eq] at erased
      split_ifs at erased
      exact erased
    rcases invariant.beat earlier with present | expired
    · exact .inl present
    · exact .inr (lt_of_lt_of_le expired (Lifecycle.now_le_step taken))

/-- The second half of a stop: no newer heartbeat loses its entry. -/
theorem removes (invariant : HeartbeatInvariant before)
    (allowed : before.undisturbed (.removes key) = true) :
    HeartbeatInvariant
      { before.replaceThread (.removing key) [] with
        entries := before.entries.erase key } where
  timers := invariant.timers
  kept := by
    intro other expiry present
    have remaining : (before.entries.erase key).lookup other = some expiry :=
      present
    rw [lookup_erase_eq] at remaining
    split_ifs at remaining with same
    refine (invariant.kept remaining).keep id
      (fun _ member => ProbeSystem.mem_replaceThread _ member nofun)
      (fun member => ProbeSystem.mem_replaceThread _ member ?_)
    intro sameThread
    exact same (ProbeThread.removing.inj sameThread)
  beat := by
    intro other expiry beat
    have different : other ≠ key := by
      rintro rfl
      have noBeat := of_decide_eq_true allowed
      exact noBeat (AList.lookup_isSome.mp (beat ▸ rfl))
    rcases invariant.beat beat with present | expired
    · left
      show (before.entries.erase key).lookup other = some expiry
      rw [lookup_erase_eq, if_neg different]
      exact present
    · exact .inr expired

/-- A sweep removes what has run out. -/
theorem sweeps (invariant : HeartbeatInvariant before) {now : Time}
    {order : List ExecutorKey} (past : now ≤ before.lifecycle.now)
    (complete : order.Perm (before.expired now)) :
    HeartbeatInvariant
      { before with
        entries := order.foldl (fun entries key => entries.erase key)
          before.entries
        swept := order } where
  timers := invariant.timers
  kept := by
    intro key expiry present
    have remaining : (order.foldl (fun entries key => entries.erase key)
        before.entries).lookup key = some expiry := present
    rw [lookup_foldl_erase] at remaining
    split_ifs at remaining
    exact invariant.kept remaining
  beat := by
    intro key expiry beat
    rcases invariant.beat beat with present | expired
    · by_cases removed : key ∈ order
      · right
        obtain ⟨old, found, ranOut⟩ :=
          ProbeSystem.mem_expired.mp (complete.mem_iff.mp removed)
        cases present.symm.trans found
        exact lt_of_lt_of_le ranOut past
      · left
        show (order.foldl (fun entries key => entries.erase key)
          before.entries).lookup key = some expiry
        rw [lookup_foldl_erase, if_neg removed]
        exact present
    · exact .inr expired

/-- The disconnect of a swept entry: a newer one has its connect to come. -/
theorem delivers (invariant : HeartbeatInvariant before)
    {rest : List ExecutorKey} (pending : before.swept = key :: rest)
    {timeout : Duration}
    (allowed : before.undisturbed (.delivers timeout) = true)
    {lifecycle : Lifecycle}
    (taken : before.probeDisconnect key timeout = some lifecycle) :
    HeartbeatInvariant
      { before with
        lifecycle := lifecycle
        swept := rest } where
  timers := Lifecycle.timerInvariant_step taken invariant.timers
  kept := by
    intro other expiry present
    by_cases same : other = key
    · subst same
      rw [ProbeSystem.undisturbed, pending, Bool.or_eq_true] at allowed
      rcases allowed with absent | connecting
      · have notMember := of_decide_eq_true absent
        exact (notMember (AList.lookup_isSome.mp (present ▸ rfl))).elim
      · exact .inr (.inl (ProbeSystem.connectPending_iff.mp connecting))
    · refine invariant.accounted_probeDisconnect taken ?_ ?_ same present
      · exact fun _ _ member => member
      · exact fun _ member => member
  beat := by
    intro other expiry beat
    rcases invariant.beat beat with present | expired
    · exact .inl present
    · exact .inr (lt_of_lt_of_le expired (Lifecycle.now_le_step taken))

theorem step (invariant : HeartbeatInvariant before) {handler : ProbeHandler}
    {label : ProbeLabel} (allowed : before.undisturbed label = true)
    (taken : before.step handler label = some after) :
    HeartbeatInvariant after := by
  cases label with
  | lifecycle step =>
      rw [ProbeSystem.step] at taken
      split_ifs at taken with notProbe
      obtain ⟨lifecycle, stepTaken, rfl⟩ := Option.map_eq_some_iff.mp taken
      exact invariant.lifecycleStep (Bool.eq_false_iff.mpr notProbe) allowed
        stepTaken
  | request store req =>
      simp only [ProbeSystem.step] at taken
      split at taken
      · cases taken
        exact invariant
      · cases taken
        exact invariant.addThreads
          (fun _ _ member => List.mem_cons_of_mem _ member)
          (fun _ member => List.mem_cons_of_mem _ member)
  | recorded key version ttl stored =>
      rw [ProbeSystem.step] at taken
      split_ifs at taken
      all_goals
        cases taken
        apply invariant.addThreads
        · intro other otherVersion member
          exact ProbeSystem.mem_replaceThread _ member nofun
        · intro other member
          exact ProbeSystem.mem_replaceThread _ member nofun
  | touches key version ttl =>
      rw [ProbeSystem.step] at taken
      split_ifs at taken
      cases taken
      exact invariant.touch key version ttl
  | connects key version =>
      rw [ProbeSystem.step] at taken
      split_ifs at taken
      obtain ⟨lifecycle, stepTaken, rfl⟩ := Option.map_eq_some_iff.mp taken
      exact invariant.connects stepTaken
  | stops key timeout =>
      rw [ProbeSystem.step] at taken
      split_ifs at taken
      obtain ⟨lifecycle, stepTaken, rfl⟩ := Option.map_eq_some_iff.mp taken
      exact invariant.stops stepTaken
  | removes key =>
      rw [ProbeSystem.step] at taken
      split_ifs at taken
      cases taken
      exact invariant.removes allowed
  | sweeps now order =>
      rw [ProbeSystem.step] at taken
      split_ifs at taken with sweep
      cases taken
      exact invariant.sweeps sweep.2.1 (List.isPerm_iff.mp sweep.2.2)
  | delivers timeout =>
      simp only [ProbeSystem.step] at taken
      split at taken
      · cases taken
      · rename_i key rest pending
        obtain ⟨lifecycle, stepTaken, rfl⟩ := Option.map_eq_some_iff.mp taken
        exact invariant.delivers pending allowed stepTaken

end HeartbeatInvariant

/-! ## Whole runs -/

/--
In every state a run reaches in which what a sweep or a stop has begun is never
finished over a newer heartbeat: an executor within the time to live of its last
heartbeat and with nothing left to be delivered is tracked as connected.
-/
theorem heartbeatsCount_of_undisturbed (handler : ProbeHandler)
    (instanceID : Option UUID) (start : Time) (labels : List ProbeLabel)
    (reached : ProbeSystem)
    (guarded : GuardedRun (ProbeSystem.step handler)
      (fun system label => system.undisturbed label = true)
      (ProbeSystem.initial instanceID start) labels reached) :
    reached.HeartbeatsCount := by
  have invariant := guarded.invariant HeartbeatInvariant
    (fun allowed taken before => before.step allowed taken)
    (heartbeatInvariant_initial instanceID start)
  exact invariant.heartbeatsCount

theorem ProbeSystem.settled_of_idle {system : ProbeSystem} (key : ExecutorKey)
    (nothingSwept : system.swept = []) (noThreads : system.threads = []) :
    system.Settled key := by
  rw [Settled, nothingSwept, noThreads]
  exact ⟨List.not_mem_nil, List.not_mem_nil, fun _ => List.not_mem_nil⟩

/-- The handler of the samples. -/
def probeHandler : ProbeHandler where
  secret := "s3cret"
  defaultOrg := "default"
  allowProbe := fun _ => true

/-- A store with one application. -/
def probeStore : ProbeStore where
  getOrganisationByName := fun name =>
    if name = "default" then .ok ⟨1⟩ else .error .noRows
  getApplicationByName := fun _ name =>
    if name = "orders" then .ok probedKey.appID else .error .noRows

/-- A heartbeat without a time to live of its own. -/
def heartbeat : ProbeRequest where
  method := "POST"
  internalSecret := "s3cret"
  decodes := true
  organisation := ""
  application := "orders"
  executorID := probedKey.executorID
  applicationVersion := "v1"
  ttlSeconds := 0
  stop := false

/-- A first heartbeat, up to the connect it leads to. -/
def firstHeartbeat : List ProbeLabel :=
  [.request probeStore heartbeat,
    .recorded probedKey "v1" defaultProbeTTL true,
    .touches probedKey "v1" defaultProbeTTL,
    .connects probedKey "v1"]

/-- The heartbeats stop for a while: the entry is swept, and then they return. -/
def heartbeatsReturn : List ProbeLabel :=
  firstHeartbeat ++
    [.lifecycle (.clockAdvances 31000000000),
      .sweeps (31 * second) [probedKey],
      .delivers (60 * second)] ++
    firstHeartbeat

theorem heartbeatsCount_heartbeatsReturn :
    ∃ reached,
      GuardedRun (ProbeSystem.step probeHandler)
          (fun system label => system.undisturbed label = true)
          (ProbeSystem.initial none 0) heartbeatsReturn reached ∧
        reached.Settled probedKey ∧
          reached.lastBeat.lookup probedKey = some (61 * second) ∧
            reached.lifecycle.now = 31 * second ∧ reached.HeartbeatsCount := by
  have guarded : GuardedRun (ProbeSystem.step probeHandler)
      (fun system label => system.undisturbed label = true)
      (ProbeSystem.initial none 0) heartbeatsReturn _ :=
    guardedRun_of_runGuarded rfl
  exact ⟨_, guarded, ProbeSystem.settled_of_idle probedKey rfl rfl, rfl, rfl,
    heartbeatsCount_of_undisturbed probeHandler none 0 heartbeatsReturn _
      guarded⟩

/-- The first heartbeat after a sweep overtakes the disconnect. -/
def heartbeatOvertakes : List ProbeLabel :=
  firstHeartbeat ++
    [.lifecycle (.clockAdvances 31000000000),
      .sweeps (31 * second) [probedKey]] ++
    firstHeartbeat ++
    [.delivers (60 * second)]

/-- With nothing but probes and the clock, a late disconnect may win. -/
theorem heartbeatOvertakes_lost :
    ¬∀ labels reached,
      (∀ step, .lifecycle step ∈ labels →
        ∃ elapsed, step = .clockAdvances elapsed) →
      run (ProbeSystem.step probeHandler) (ProbeSystem.initial none 0) labels =
          some reached →
        reached.HeartbeatsCount := by
  intro always
  have counts := always heartbeatOvertakes _ ?_ rfl
  · obtain ⟨exec, present, isConnected⟩ :=
      counts probedKey (61 * second)
        (ProbeSystem.settled_of_idle probedKey rfl rfl) rfl (by decide)
    cases present
    cases isConnected
  · intro step member
    simp [heartbeatOvertakes, firstHeartbeat] at member
    exact ⟨_, member⟩

end DbosRelay.Liveness
