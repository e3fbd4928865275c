import DbosRelay.Liveness.Timers

/-!
# Which heartbeat owns an executor

An executor may be kept alive by its socket or by a probe, and a probe's
disconnect must not end what a live socket keeps alive.  `trackedExecutor.source`
is what the manager goes by.  It is written when an entry is created, by a socket
connect and by an adoption; a probe connect on an existing entry and a socket
disconnect leave it.  So it says `probe` exactly as long as a probe created the
entry and neither a socket nor an adoption has touched it, and an executor which
a probe took over from a socket keeps the socket's tag.
-/

namespace DbosRelay.Liveness

open DbosRelay.Basic
open DbosRelay.Library.Runs

/-! ## The history of an executor -/

/-- The step is a socket connect or an adoption of the executor. -/
def LifecycleStep.claimsForSocket (key : ExecutorKey) : LifecycleStep → Bool
  | .onConnect other _ => other = key
  | .adoptDisconnected other _ _ => other = key
  | _ => false

/-- The step creates an entry for the executor where there is none. -/
def LifecycleStep.tracks (key : ExecutorKey) : LifecycleStep → Bool
  | .onConnect other _ => other = key
  | .onProbeConnect other _ => other = key
  | .onDisconnect other _ => other = key
  | .onProbeDisconnect other _ => other = key
  | .adoptDisconnected other _ _ => other = key
  | _ => false

/-- The step comes from the probe of the executor. -/
def LifecycleStep.isProbe (key : ExecutorKey) : LifecycleStep → Bool
  | .onProbeConnect other _ => other = key
  | .onProbeDisconnect other _ => other = key
  | _ => false

/-- The step removes the entry of the executor. -/
def LifecycleStep.forgets (key : ExecutorKey) : LifecycleStep → Bool
  | .evictExecutor other => other = key
  | .deleteExecutor other => other = key
  | _ => false

/-- Of the socket's connects and disconnects the latest is a connect. -/
def liveSocket (key : ExecutorKey) (history : List LifecycleStep) : Bool :=
  history.foldl
    (fun live step =>
      match step with
      | .onConnect other _ => live || other = key
      | .onDisconnect other _ => live && other ≠ key
      | _ => live)
    false

/--
The executor's first event is the probe's, and neither a socket connect nor an
adoption has followed.
-/
def ProbeOnly (key : ExecutorKey) (history : List LifecycleStep) : Prop :=
  (∃ step, history.find? (·.tracks key) = some step ∧
      step.isProbe key = true) ∧
    ∀ step ∈ history, step.claimsForSocket key = false

/-! ## The property -/

/-- The executor is tracked as connected. -/
def Lifecycle.Connected (lifecycle : Lifecycle) (key : ExecutorKey) : Prop :=
  ∃ exec, lifecycle.manager.executors.lookup key = some exec ∧
    exec.state = .connected

/-- The executor is tracked as disconnected, and a watcher waits for its timer. -/
def Lifecycle.InGracePeriod (lifecycle : Lifecycle) (key : ExecutorKey)
    (expiry : Time) : Prop :=
  ∃ exec watcher, lifecycle.manager.executors.lookup key = some exec ∧
    exec.Armed watcher.timer ∧ watcher ∈ lifecycle.watchers ∧
      watcher.key = key ∧ watcher.fireAt = expiry

/--
What a probe's disconnect does: without a live socket it ends the connection,
and beside a live socket it does nothing.
-/
structure ObeysOwner (key : ExecutorKey) (history : List LifecycleStep)
    (lifecycle : Lifecycle) : Prop where
  ofProbe : lifecycle.Connected key → liveSocket key history = false →
    ∀ timeout after,
      lifecycle.step (.onProbeDisconnect key timeout) = some after →
        after.InGracePeriod key (lifecycle.now + timeout)
  ofSocket : liveSocket key history = true →
    ∀ timeout after,
      lifecycle.step (.onProbeDisconnect key timeout) = some after →
        after.manager.executors.lookup key =
          lifecycle.manager.executors.lookup key

/-! ## The tag -/

/-- The tag of the executor's entry. -/
def Manager.sourceOf (manager : Manager) (key : ExecutorKey) :
    Option ExecutorSource :=
  (manager.executors.lookup key).map TrackedExecutor.source

/-- What a step makes of the tag. -/
def LifecycleStep.nextSource (key : ExecutorKey)
    (source : Option ExecutorSource) : LifecycleStep → Option ExecutorSource
  | .onConnect other _ => if other = key then some .socket else source
  | .onProbeConnect other _ =>
      if other = key then some (source.getD .probe) else source
  | .onDisconnect other _ =>
      if other = key then some (source.getD .socket) else source
  | .onProbeDisconnect other _ =>
      if other = key then some (source.getD .probe) else source
  | .adoptDisconnected other _ _ =>
      if other = key then some .socket else source
  | .evictExecutor other => if other = key then none else source
  | .deleteExecutor other => if other = key then none else source
  | _ => source

/-! ## What a step leaves of an entry -/

/-- A reading of an entry which its state and its timers do not enter. -/
def TrackedExecutor.Steady {β : Type} (reading : TrackedExecutor → β) : Prop :=
  ∀ exec state timer cancelTimer,
    reading
        { exec with
          state := state
          timer := timer
          cancelTimer := cancelTimer } =
      reading exec

/-- The entry `onDisconnect` allocates for an executor which has none. -/
def untrackedEntry (source : ExecutorSource) : TrackedExecutor where
  version := ""
  source := source
  state := .connected
  timer := none
  cancelTimer := none

/-- What a step makes of an entry, up to its state and its timers. -/
def LifecycleStep.nextEntry (key : ExecutorKey)
    (entry : Option TrackedExecutor) : LifecycleStep → Option TrackedExecutor
  | .onConnect other version =>
      if other = key then some (Manager.connectingEntry version .socket entry)
      else entry
  | .onProbeConnect other version =>
      if other = key then some (Manager.connectingEntry version .probe entry)
      else entry
  | .onDisconnect other _ =>
      if other = key then some (entry.getD (untrackedEntry .socket)) else entry
  | .onProbeDisconnect other _ =>
      if other = key then some (entry.getD (untrackedEntry .probe)) else entry
  | .adoptDisconnected other version _ =>
      if other = key then
        some { untrackedEntry .socket with version := version }
      else entry
  | .evictExecutor other => if other = key then none else entry
  | .deleteExecutor other => if other = key then none else entry
  | _ => entry

namespace Manager

variable {manager : Manager} {key : ExecutorKey}
variable {β : Type} {reading : TrackedExecutor → β}

theorem map_onConnect (steady : TrackedExecutor.Steady reading)
    (version : String) (source : ExecutorSource) :
    ((manager.onConnect key version source).1.executors.lookup key).map
        reading =
      some (reading (connectingEntry version source
        (manager.executors.lookup key))) := by
  simp only [onConnect]
  generalize connectingEntry version source _ = exec
  split
  · rw [lookup_store, if_pos rfl, Option.map_some]
  · split_ifs
    · rw [lookup_cancelGraceTimer, if_pos rfl]
      exact congrArg some (steady exec _ none none)
    · rw [lookup_store, if_pos rfl]
      exact congrArg some (steady exec _ _ _)

theorem map_disconnectEntry (steady : TrackedExecutor.Steady reading)
    (now : Time) (timeout : Duration) (exec : TrackedExecutor) :
    ((manager.disconnectEntry now timeout key exec).1.executors.lookup key).map
        reading =
      some (reading exec) := by
  simp only [disconnectEntry]
  split
  · rw [lookup_store, if_pos rfl, Option.map_some]
  · split_ifs
    · rw [lookup_armGraceTimer, if_pos rfl]
      exact congrArg some (steady exec _ _ _)
    · rw [lookup_store, if_pos rfl]
      exact congrArg some (steady exec _ _ _)

theorem map_onDisconnect (steady : TrackedExecutor.Steady reading)
    (now : Time) (timeout : Duration) (source : ExecutorSource) :
    ((manager.onDisconnect now timeout key source).1.executors.lookup key).map
        reading =
      some (reading ((manager.executors.lookup key).getD
        (untrackedEntry source))) := by
  rw [onDisconnect]
  cases present : manager.executors.lookup key with
  | none => exact map_disconnectEntry steady now timeout _
  | some exec =>
      dsimp only
      split_ifs
      · rw [present]
        rfl
      · exact map_disconnectEntry steady now timeout exec

theorem map_adoptDisconnected (steady : TrackedExecutor.Steady reading)
    (now : Time) (timeout : Duration) (version : String) :
    ((manager.adoptDisconnected now timeout key version).1.executors.lookup
        key).map reading =
      some (reading { untrackedEntry .socket with version := version }) := by
  have adopted : ∀ timer cancelTimer,
      reading
          { version := version
            source := .socket
            state := .disconnected
            timer := timer
            cancelTimer := cancelTimer } =
        reading { untrackedEntry .socket with version := version } :=
    fun timer cancelTimer =>
      steady { untrackedEntry .socket with version := version } .disconnected
        timer cancelTimer
  rw [adoptDisconnected]
  split
  · rw [lookup_armGraceTimer, if_pos rfl, Option.map_some, adopted]
  · rw [lookup_armGraceTimer, if_pos rfl, Option.map_some, adopted]

theorem map_watchGracePeriod (steady : TrackedExecutor.Steady reading)
    (watcher : Watcher) :
    ((manager.watchGracePeriod watcher).1.executors.lookup key).map reading =
      (manager.executors.lookup key).map reading := by
  rcases manager.watchGracePeriod_cases watcher with
    unchanged | ⟨exec, present, -, -, expired⟩
  · rw [unchanged]
  · rw [expired, lookup_store]
    split_ifs with same
    · rw [same, present, Option.map_some, Option.map_some, steady]
    · rfl

end Manager

/-- One step of the manager does to an entry what `nextEntry` says. -/
theorem Lifecycle.map_step {β : Type} {reading : TrackedExecutor → β}
    (steady : TrackedExecutor.Steady reading)
    {before after : Lifecycle} {label : LifecycleStep}
    (taken : before.step label = some after) (key : ExecutorKey) :
    (after.manager.executors.lookup key).map reading =
      (label.nextEntry key (before.manager.executors.lookup key)).map
        reading := by
  cases label with
  | clockAdvances elapsed =>
      cases taken
      rfl
  | onConnect other version =>
      cases taken
      rw [LifecycleStep.nextEntry]
      split_ifs with same
      · subst same
        exact Manager.map_onConnect steady version .socket
      · exact congrArg (Option.map reading)
          (Manager.lookup_onConnect_of_ne version .socket (Ne.symm same))
  | onProbeConnect other version =>
      cases taken
      rw [LifecycleStep.nextEntry]
      split_ifs with same
      · subst same
        exact Manager.map_onConnect steady version .probe
      · exact congrArg (Option.map reading)
          (Manager.lookup_onConnect_of_ne version .probe (Ne.symm same))
  | onDisconnect other timeout =>
      cases taken
      rw [LifecycleStep.nextEntry]
      split_ifs with same
      · subst same
        exact Manager.map_onDisconnect steady before.now timeout .socket
      · exact congrArg (Option.map reading)
          (Manager.lookup_onDisconnect_of_ne before.now timeout .socket
            (Ne.symm same))
  | onProbeDisconnect other timeout =>
      cases taken
      rw [LifecycleStep.nextEntry]
      split_ifs with same
      · subst same
        exact Manager.map_onDisconnect steady before.now timeout .probe
      · exact congrArg (Option.map reading)
          (Manager.lookup_onDisconnect_of_ne before.now timeout .probe
            (Ne.symm same))
  | adoptDisconnected other version timeout =>
      cases taken
      rw [LifecycleStep.nextEntry]
      split_ifs with same
      · subst same
        exact Manager.map_adoptDisconnected steady before.now timeout version
      · exact congrArg (Option.map reading)
          (Manager.lookup_adoptDisconnected_of_ne before.now timeout version
            (Ne.symm same))
  | evictExecutor other =>
      cases taken
      simp only [LifecycleStep.nextEntry, Manager.lookup_evictExecutor,
        eq_comm (a := key)]
  | deleteExecutor other =>
      cases taken
      simp only [LifecycleStep.nextEntry, Manager.lookup_evictExecutor,
        eq_comm (a := key)]
  | timerFires watcher =>
      rw [Lifecycle.step] at taken
      split_ifs at taken
      cases taken
      exact Manager.map_watchGracePeriod steady watcher
  | cancelObserved watcher =>
      rw [Lifecycle.step] at taken
      split_ifs at taken
      cases taken
      rfl
  | recoveryFailed other =>
      cases taken
      exact congrArg (Option.map reading)
        (Manager.lookup_recoveryFailed _ _ _)

/-- One step of the manager does to the tag what `nextSource` says. -/
theorem Lifecycle.sourceOf_step {before after : Lifecycle}
    {label : LifecycleStep} (taken : before.step label = some after)
    (key : ExecutorKey) :
    after.manager.sourceOf key =
      label.nextSource key (before.manager.sourceOf key) := by
  have steady : TrackedExecutor.Steady TrackedExecutor.source :=
    fun _ _ _ _ => rfl
  rw [Manager.sourceOf, Lifecycle.map_step steady taken key, Manager.sourceOf]
  cases before.manager.executors.lookup key <;> cases label <;>
    simp only [LifecycleStep.nextEntry, LifecycleStep.nextSource] <;>
    try split_ifs <;> rfl

/-- The four kinds of steps there are for the tag. -/
theorem LifecycleStep.nextSource_eq {key : ExecutorKey} {label : LifecycleStep}
    (kept : label.forgets key = false) (source : Option ExecutorSource) :
    label.nextSource key source =
      if label.claimsForSocket key then some .socket
      else if label.isProbe key then some (source.getD .probe)
      else if label.tracks key then some (source.getD .socket)
      else source := by
  cases label with
  | evictExecutor other =>
      have different : other ≠ key := of_decide_eq_false kept
      simp [nextSource, claimsForSocket, isProbe, tracks, different]
  | deleteExecutor other =>
      have different : other ≠ key := of_decide_eq_false kept
      simp [nextSource, claimsForSocket, isProbe, tracks, different]
  | _ =>
      simp only [nextSource, claimsForSocket, isProbe, tracks,
        decide_eq_true_eq, Bool.false_eq_true, if_false]
      try split_ifs <;> rfl

theorem LifecycleStep.tracks_of_claimsForSocket {key : ExecutorKey}
    {label : LifecycleStep} (claims : label.claimsForSocket key = true) :
    label.tracks key = true := by
  cases label <;> first | exact claims | cases claims

theorem LifecycleStep.tracks_of_isProbe {key : ExecutorKey}
    {label : LifecycleStep} (isProbe : label.isProbe key = true) :
    label.tracks key = true := by
  cases label <;> first | exact isProbe | cases isProbe

/-- The tag after a history. -/
def tagAfter (key : ExecutorKey) (history : List LifecycleStep) :
    Option ExecutorSource :=
  history.foldl (fun source label => label.nextSource key source) none

section Tag

variable {key : ExecutorKey} {history : List LifecycleStep}
  {label : LifecycleStep}

theorem tagAfter_append :
    tagAfter key (history ++ [label]) =
      label.nextSource key (tagAfter key history) := by
  rw [tagAfter, List.foldl_append]
  rfl

/-- An executor without an event is claimed for no socket. -/
theorem claimsForSocket_of_find?_eq_none
    (untracked : history.find? (·.tracks key) = none) :
    ∀ step ∈ history, step.claimsForSocket key = false := by
  intro step member
  by_contra claims
  rw [Bool.not_eq_false] at claims
  exact List.find?_eq_none.mp untracked step member
    (LifecycleStep.tracks_of_claimsForSocket claims)

/-- What a further step does to the condition. -/
theorem probeOnly_append :
    ProbeOnly key (history ++ [label]) ↔
      label.claimsForSocket key = false ∧
        (ProbeOnly key history ∨
          history.find? (·.tracks key) = none ∧ label.isProbe key = true) := by
  unfold ProbeOnly
  rw [List.find?_append, List.forall_mem_append, List.forall_mem_singleton]
  cases found : history.find? (·.tracks key) with
  | some first =>
      simp only [Option.some_or, Option.some.injEq, exists_eq_left',
        reduceCtorEq, false_and, or_false]
      constructor
      · rintro ⟨isProbe, earlier, notClaimed⟩
        exact ⟨notClaimed, isProbe, earlier⟩
      · rintro ⟨notClaimed, isProbe, earlier⟩
        exact ⟨isProbe, earlier, notClaimed⟩
  | none =>
      have unclaimed := claimsForSocket_of_find?_eq_none found
      constructor
      · rintro ⟨⟨step, isLabel, isProbe⟩, -, notClaimed⟩
        have same := List.mem_of_find?_eq_some isLabel
        rw [List.mem_singleton] at same
        subst same
        exact ⟨notClaimed, Or.inr ⟨rfl, isProbe⟩⟩
      · rintro ⟨notClaimed, earlier | ⟨-, isProbe⟩⟩
        · obtain ⟨⟨step, impossible, -⟩, -⟩ := earlier
          cases impossible
        · refine ⟨⟨label, ?_, isProbe⟩, unclaimed, notClaimed⟩
          rw [Option.none_or, List.find?_cons_of_pos
            (LifecycleStep.tracks_of_isProbe isProbe)]

/-- The tag is the probe's exactly under the condition. -/
theorem tagAfter_spec (kept : ∀ step ∈ history, step.forgets key = false) :
    (tagAfter key history = none ↔
        history.find? (·.tracks key) = none) ∧
      (tagAfter key history = some .probe ↔ ProbeOnly key history) := by
  induction history using List.reverseRecOn with
  | nil => simp [tagAfter, ProbeOnly]
  | append_singleton history label induction =>
      rw [List.forall_mem_append, List.forall_mem_singleton] at kept
      obtain ⟨untracked, probeOnly⟩ := induction kept.1
      rw [tagAfter_append, LifecycleStep.nextSource_eq kept.2,
        probeOnly_append, List.find?_append]
      by_cases claims : label.claimsForSocket key = true
      · have tracks := LifecycleStep.tracks_of_claimsForSocket claims
        simp [claims, tracks]
      · by_cases isProbe : label.isProbe key = true
        · have tracks := LifecycleStep.tracks_of_isProbe isProbe
          cases tag : tagAfter key history with
          | none => simp_all
          | some source => cases source <;> simp_all
        · by_cases tracks : label.tracks key = true
          · cases tag : tagAfter key history with
            | none => simp_all
            | some source => cases source <;> simp_all
          · simp_all

end Tag

/-! ## A probe's disconnect -/

/-- In a run which does not forget the executor the tag follows the history. -/
theorem Lifecycle.sourceOf_run {instanceID : Option UUID} {start : Time}
    {labels : List LifecycleStep} {reached : Lifecycle}
    (taken : run Lifecycle.step (Lifecycle.initial instanceID start) labels =
      some reached)
    (key : ExecutorKey) :
    reached.manager.sourceOf key = tagAfter key labels := by
  refine run_history
    (fun history lifecycle =>
      lifecycle.manager.sourceOf key = tagAfter key history) ?_ taken rfl
  intro earlier before after label _ stepTaken tag
  rw [Lifecycle.sourceOf_step stepTaken, tag, tagAfter_append]

/-- A live socket has connected. -/
theorem exists_claim_of_liveSocket {key : ExecutorKey}
    {history : List LifecycleStep} (live : liveSocket key history = true) :
    ∃ step ∈ history, step.claimsForSocket key = true := by
  induction history using List.reverseRecOn with
  | nil => cases live
  | append_singleton history label induction =>
      by_cases connects : label.claimsForSocket key = true
      · exact ⟨label, List.mem_append_right _ (List.mem_singleton_self label),
          connects⟩
      · have before : liveSocket key history = true := by
          rw [liveSocket, List.foldl_append] at live
          cases label <;>
            simp_all [liveSocket, LifecycleStep.claimsForSocket]
        obtain ⟨step, member, claims⟩ := induction before
        exact ⟨step, List.mem_append_left _ member, claims⟩

/-- The probe's disconnect passes over an entry with the socket's tag. -/
theorem Manager.onProbeDisconnect_of_socket {manager : Manager}
    {key : ExecutorKey} {exec : TrackedExecutor}
    (present : manager.executors.lookup key = some exec)
    (tag : exec.source = .socket) (now : Time) (timeout : Duration) :
    manager.onDisconnect now timeout key .probe = (manager, none) := by
  simp [onDisconnect, present, tag]

/-- The probe's disconnect ends a connection with the probe's tag. -/
theorem Lifecycle.inGracePeriod_of_probe {lifecycle after : Lifecycle}
    {key : ExecutorKey} {exec : TrackedExecutor} {timeout : Duration}
    (present : lifecycle.manager.executors.lookup key = some exec)
    (isConnected : exec.state = .connected) (tag : exec.source = .probe)
    (taken : lifecycle.step (.onProbeDisconnect key timeout) = some after) :
    after.InGracePeriod key (lifecycle.now + timeout) := by
  have disconnects :
      lifecycle.manager.onDisconnect lifecycle.now timeout key .probe =
        ((lifecycle.manager.armGraceTimer lifecycle.now timeout key
            { exec with state := .disconnected }).1,
          some (lifecycle.manager.armGraceTimer lifecycle.now timeout key
            { exec with state := .disconnected }).2) := by
    simp [Manager.onDisconnect, present, tag, Manager.disconnectEntry,
      isConnected, transition, accept]
  have arms := Manager.arms_of_onDisconnect
    (congrArg Prod.snd disconnects)
  obtain ⟨armed, entry, isArmed⟩ := arms.entry
  cases taken
  refine ⟨armed, _, entry, ?_, List.mem_append_left _ ?_, arms.watchedKey,
    arms.fireAt⟩
  · rw [arms.watchedTimer]
    exact isArmed
  · rw [disconnects]
    exact List.mem_singleton_self _

/--
In every state a run of connects, disconnects and adoptions reaches, a probe's
disconnect obeys the owner of the executor exactly if a connection without a
live socket is one on which only the probe has ever had a say.
-/
theorem obeysOwner_iff_probeOnly (instanceID : Option UUID) (start : Time)
    (labels : List LifecycleStep) (reached : Lifecycle) (key : ExecutorKey)
    (taken : run Lifecycle.step (Lifecycle.initial instanceID start) labels =
      some reached)
    (kept : ∀ label ∈ labels, label.forgets key = false) :
    ObeysOwner key labels reached ↔
      (reached.Connected key → liveSocket key labels = false →
        ProbeOnly key labels) := by
  have tag := Lifecycle.sourceOf_run taken key
  have spec := (tagAfter_spec kept).2
  rw [← tag] at spec
  have ofEntry : ∀ {exec},
      reached.manager.executors.lookup key = some exec →
        (exec.source = .probe ↔ ProbeOnly key labels) := by
    intro exec present
    rw [← spec, Manager.sourceOf, present, Option.map_some, Option.some.injEq]
  constructor
  · rintro obeys ⟨exec, present, isConnected⟩ notLive
    rw [← ofEntry present]
    cases source : exec.source with
    | probe => rfl
    | socket =>
        -- The entry keeps the socket's tag, so nothing would happen to it.
        obtain ⟨later, watcher, entry, armed, -⟩ :=
          obeys.ofProbe ⟨exec, present, isConnected⟩ notLive 0 _ rfl
        rw [Manager.onProbeDisconnect_of_socket present source] at entry
        cases present.symm.trans entry
        cases isConnected.symm.trans armed.state
  · intro probeOnly
    constructor
    · rintro ⟨exec, present, isConnected⟩ notLive timeout after stepTaken
      have only := probeOnly ⟨exec, present, isConnected⟩ notLive
      exact Lifecycle.inGracePeriod_of_probe present isConnected
        ((ofEntry present).mpr only) stepTaken
    · intro live timeout after stepTaken
      obtain ⟨step, member, claims⟩ := exists_claim_of_liveSocket live
      have notOnly : ¬ProbeOnly key labels := by
        intro only
        rw [only.2 step member] at claims
        cases claims
      have tracked : reached.manager.sourceOf key ≠ none := by
        rw [tag]
        intro untracked
        have nothing := (tagAfter_spec kept).1.mp untracked
        exact List.find?_eq_none.mp nothing step member
          (LifecycleStep.tracks_of_claimsForSocket claims)
      obtain ⟨exec, present⟩ : ∃ exec,
          reached.manager.executors.lookup key = some exec := by
        apply Option.ne_none_iff_exists'.mp
        intro absent
        exact tracked (by rw [Manager.sourceOf, absent]; rfl)
      cases source : exec.source with
      | probe => exact (notOnly ((ofEntry present).mp source)).elim
      | socket =>
          cases stepTaken
          rw [Manager.onProbeDisconnect_of_socket present source]

/-- The executor of the samples. -/
def probedKey : ExecutorKey := ⟨⟨7⟩, "exec-1"⟩

/-- Another executor, which has a socket. -/
def socketKey : ExecutorKey := ⟨⟨7⟩, "exec-2"⟩

/-- A probe loses an executor and finds it again, while a socket comes and goes. -/
def probeConnects : List LifecycleStep :=
  [.onConnect socketKey "v1", .onProbeConnect probedKey "v1",
    .onProbeDisconnect probedKey (60 * second),
    .onDisconnect socketKey (60 * second), .onProbeConnect probedKey "v1"]

theorem obeysOwner_probeConnects :
    ∃ reached,
      run Lifecycle.step (Lifecycle.initial none 0) probeConnects =
          some reached ∧
        reached.Connected probedKey ∧
          ObeysOwner probedKey probeConnects reached := by
  refine ⟨_, rfl, ⟨_, rfl, rfl⟩, ?_⟩
  refine (obeysOwner_iff_probeOnly none 0 probeConnects _ probedKey rfl
    (by decide)).mpr ?_
  intro _ _
  exact ⟨⟨_, rfl, rfl⟩, by decide⟩

/-- A probe takes over from a socket. -/
def probeTakesOver : List LifecycleStep :=
  [.onConnect probedKey "v1", .onDisconnect probedKey (60 * second),
    .onProbeConnect probedKey "v1"]

/-- The probe's disconnect leaves the executor connected. -/
theorem probeTakesOver_disobeys :
    ∃ reached,
      run Lifecycle.step (Lifecycle.initial none 0) probeTakesOver =
          some reached ∧
        reached.Connected probedKey ∧
          liveSocket probedKey probeTakesOver = false ∧
            ¬ObeysOwner probedKey probeTakesOver reached := by
  refine ⟨_, rfl, ⟨_, rfl, rfl⟩, rfl, fun obeys => ?_⟩
  obtain ⟨exec, watcher, entry, armed, -⟩ :=
    obeys.ofProbe ⟨_, rfl, rfl⟩ rfl 0 _ rfl
  cases entry
  cases armed.state

end DbosRelay.Liveness
