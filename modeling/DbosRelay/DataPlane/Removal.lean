import DbosRelay.DataPlane.Calls

/-!
# Removing a data plane

`UnregisterApp` and `Close` delete what is recorded for an application only
where a client is.  An application whose initialisation has failed has a
configuration and no client: it stays configured, and once the back-off is over
the next operation opens a client for it.
-/

namespace DbosRelay.DataPlane

open DbosRelay.Basic
open DbosRelay.Library.Runs
open DbosRelay.Library.Tables

/-! ## The property -/

/-- The label is a registration of the application. -/
def Label.registersApp (appID : UUID) : Label → Bool
  | .registerApp _ cfg => cfg.applicationID = appID
  | _ => false

/--
The application has no data plane, and until it is registered again no client
is built for it.
-/
structure World.Removed (world : World) (appID : UUID) : Prop where
  hasDataPlane : world.manager.hasDataPlane appID = false
  getIntegration : world.manager.getIntegration appID = none
  never : ∀ {labels later}, run World.step world labels = some later →
    (∀ label ∈ labels, label.registersApp appID = false) →
      ∀ client ∈ later.built, client.config.applicationID = appID →
        client ∈ world.built

/-! ## Whose configuration it is -/

/-- A call initialises a client with the configuration of its application. -/
def Call.Filed : Call → Prop
  | .initialising appID _ cfg _ _ => cfg.applicationID = appID
  | _ => True

/-- Configurations are filed under their own application. -/
structure FilingInvariant (world : World) : Prop where
  configs : ∀ {appID cfg}, world.manager.configs.lookup appID = some cfg →
    cfg.applicationID = appID
  calls : ∀ {id call}, world.calls.lookup id = some call → call.Filed

theorem filingInvariant_initial : FilingInvariant World.initial := by
  constructor <;> simp [World.initial, newManager]

theorem Moves.filed {world : World} {old new : Call}
    (moved : Moves world old new) (filed : old.Filed) : new.Filed := by
  cases moved <;> first | exact filed | trivial

theorem Locks.filed {old new : Call} {appMu : Nat}
    (locked : Locks old appMu new) (filed : old.Filed) : new.Filed := by
  cases locked <;> exact filed

theorem Unlocks.filed {old new : Call} {appMu : Nat}
    {returned : List (Client × AppConfig)}
    (unlocked : Unlocks old appMu new returned) : new.Filed := by
  cases unlocked <;> trivial

theorem Builds.filed {old new : Call} {cfg : AppConfig} {client : Client}
    (built : Builds old cfg client new) (filed : old.Filed) : new.Filed := by
  cases built <;> exact filed

theorem Fails.filed {old new : Call} {appID : UUID}
    (failed : Fails old appID new) (filed : old.Filed) : new.Filed := by
  cases failed <;> exact filed

/-- The factory is given the configuration of the call's application. -/
theorem Builds.appID_of_filed {old new : Call} {cfg : AppConfig}
    {client : Client} (built : Builds old cfg client new)
    (filed : old.Filed) : old.appID = some cfg.applicationID := by
  cases built with
  | register => rfl
  | init => exact congrArg some filed.symm

/-- Removing applications with a client adds no configuration. -/
theorem DefaultManager.configs_unregisterApp {manager : DefaultManager}
    {appID other : UUID} {cfg : AppConfig}
    (present :
      (manager.unregisterApp appID).configs.lookup other = some cfg) :
    manager.configs.lookup other = some cfg := by
  unfold DefaultManager.unregisterApp at present
  split at present
  · by_cases same : other = appID
    · subst same
      rw [DefaultManager.remove, AList.lookup_erase] at present
      cases present
    · rw [← (manager.sameAt_remove same).1]
      exact present
  · exact present

theorem DefaultManager.configs_close {manager : DefaultManager}
    {other : UUID} {cfg : AppConfig}
    (present : manager.close.configs.lookup other = some cfg) :
    manager.configs.lookup other = some cfg := by
  by_cases member : other ∈ manager.clients.keys
  · have gone := (manager.lookup_foldl_remove_of_mem member).1
    cases present.symm.trans gone
  · rw [← (manager.sameAt_foldl_remove member).1]
    exact present

namespace FilingInvariant

variable {world after : World}

/-- A call goes on with its own configuration. -/
theorem replace (invariant : FilingInvariant world) {id : Nat} {new : Call}
    (configs : after.manager.configs = world.manager.configs)
    (calls : after.calls = world.calls.insert id new) (filed : new.Filed) :
    FilingInvariant after := by
  constructor
  · intro appID cfg present
    rw [configs] at present
    exact invariant.configs present
  · intro key call present
    rcases lookup_insert_cases calls present with ⟨-, rfl⟩ | ⟨-, before⟩
    · exact filed
    · exact invariant.calls before

theorem step (invariant : FilingInvariant world) {label : Label}
    (taken : world.step label = some after) : FilingInvariant after := by
  cases takes_of_step taken with
  | elapse => exact ⟨invariant.configs, invariant.calls⟩
  | refused fresh normalised => exact invariant.replace rfl rfl trivial
  | registers fresh normalised =>
      constructor
      · intro appID cfg present
        rcases lookup_insert_cases rfl present with ⟨rfl, rfl⟩ | ⟨-, before⟩
        · rfl
        · exact invariant.configs before
      · intro key call present
        rcases lookup_insert_cases rfl present with ⟨-, rfl⟩ | ⟨-, before⟩
        · trivial
        · exact invariant.calls before
  | unregisters =>
      refine ⟨?_, invariant.calls⟩
      intro appID cfg present
      exact invariant.configs (DefaultManager.configs_unregisterApp present)
  | closes =>
      refine ⟨?_, invariant.calls⟩
      intro appID cfg present
      exact invariant.configs (DefaultManager.configs_close present)
  | turnedAway fresh => exact invariant.replace rfl rfl trivial
  | found fresh configured present => exact invariant.replace rfl rfl trivial
  | initialises fresh configured absent mutex =>
      exact invariant.replace rfl rfl (invariant.configs configured)
  | moves current moved labelled =>
      exact invariant.replace rfl rfl (moved.filed (invariant.calls current))
  | locks current locked free =>
      exact invariant.replace rfl rfl (locked.filed (invariant.calls current))
  | unlocks current unlocked => exact invariant.replace rfl rfl unlocked.filed
  | builds current built =>
      exact invariant.replace rfl rfl (built.filed (invariant.calls current))
  | fails current failed =>
      exact invariant.replace rfl rfl (failed.filed (invariant.calls current))
  | registerStores current => exact invariant.replace rfl rfl trivial
  | initStores current =>
      have filed := invariant.calls current
      exact invariant.replace rfl rfl filed
  | sends current permitted => exact invariant.replace rfl rfl trivial

end FilingInvariant

/-! ## No client for an unconfigured application -/

/--
The application is not configured, nothing is under way for it, and no client
has been built for it beyond those in `built`.
-/
structure World.Unconfigured (world : World) (appID : UUID)
    (built : List Client) : Prop where
  configs : world.manager.configs.lookup appID = none
  quiescent : world.Quiescent appID
  built : ∀ client ∈ world.built, client.config.applicationID = appID →
    client ∈ built

namespace World.Unconfigured

variable {world after : World} {appID : UUID} {built : List Client}

/-- A call for another application goes on. -/
theorem replace (unconfigured : world.Unconfigured appID built)
    {id : Nat} {new : Call}
    (configs : after.manager.configs.lookup appID = none)
    (calls : after.calls = world.calls.insert id new)
    (elsewhere : new.appID ≠ some appID)
    (builds : ∀ client ∈ after.built, client ∈ world.built ∨
      client.config.applicationID ≠ appID) :
    after.Unconfigured appID built where
  configs := configs
  quiescent := by
    intro key call present
    rcases lookup_insert_cases calls present with ⟨-, rfl⟩ | ⟨-, before⟩
    · exact elsewhere
    · exact unconfigured.quiescent key call before
  built := by
    intro client member same
    rcases builds client member with before | different
    · exact unconfigured.built client before same
    · exact (different same).elim

theorem step (unconfigured : world.Unconfigured appID built)
    (filing : FilingInvariant world) {label : Label}
    (other : label.registersApp appID = false)
    (taken : world.step label = some after) :
    after.Unconfigured appID built := by
  have configs := unconfigured.configs
  have idle := unconfigured.quiescent
  cases takes_of_step taken with
  | elapse => exact ⟨configs, idle, unconfigured.built⟩
  | refused fresh normalised =>
      exact unconfigured.replace configs rfl nofun fun _ => Or.inl
  | @registers id cfg normal fresh normalised =>
      have different : normal.applicationID ≠ appID := by
        rw [AppConfig.applicationID_normalise normalised]
        exact of_decide_eq_false other
      refine unconfigured.replace ?_ rfl ?_ fun _ => Or.inl
      · rw [DefaultManager.register, lookup_insert_eq, if_neg different.symm]
        exact configs
      · intro same
        exact different (Option.some.inj same)
  | unregisters =>
      refine ⟨?_, idle, unconfigured.built⟩
      by_contra configured
      obtain ⟨cfg, present⟩ := Option.ne_none_iff_exists'.mp configured
      cases (DefaultManager.configs_unregisterApp present).symm.trans configs
  | closes =>
      refine ⟨?_, idle, unconfigured.built⟩
      by_contra configured
      obtain ⟨cfg, present⟩ := Option.ne_none_iff_exists'.mp configured
      cases (DefaultManager.configs_close present).symm.trans configs
  | turnedAway fresh =>
      exact unconfigured.replace configs rfl nofun fun _ => Or.inl
  | found fresh configured present =>
      exact unconfigured.replace configs rfl nofun fun _ => Or.inl
  | initialises fresh configured absent mutex =>
      refine unconfigured.replace configs rfl ?_ fun _ => Or.inl
      intro same
      cases same
      cases configured.symm.trans configs
  | moves current moved labelled =>
      refine unconfigured.replace configs rfl ?_ fun _ => Or.inl
      intro same
      exact idle _ _ current (moved.appID same)
  | locks current locked free =>
      refine unconfigured.replace configs rfl ?_ fun _ => Or.inl
      rw [locked.appID]
      exact idle _ _ current
  | unlocks current unlocked =>
      refine unconfigured.replace configs rfl ?_ fun _ => Or.inl
      rw [unlocked.appID]
      exact nofun
  | builds current built =>
      refine unconfigured.replace configs rfl ?_ ?_
      · rw [built.appID]
        exact idle _ _ current
      · intro client member
        rcases List.mem_cons.mp member with rfl | before
        · refine Or.inr fun same => idle _ _ current ?_
          rw [built.appID_of_filed (filing.calls current)]
          exact congrArg some same
        · exact Or.inl before
  | fails current failed =>
      refine unconfigured.replace configs rfl ?_ fun _ => Or.inl
      rw [failed.appID.2, ← failed.appID.1]
      exact idle _ _ current
  | registerStores current =>
      have elsewhere := idle _ _ current
      exact unconfigured.replace configs rfl elsewhere fun _ => Or.inl
  | initStores current =>
      have elsewhere := idle _ _ current
      exact unconfigured.replace configs rfl elsewhere fun _ => Or.inl
  | sends current permitted =>
      exact unconfigured.replace configs rfl nofun fun _ => Or.inl

/-- Whatever follows, an application without a configuration gets no client. -/
theorem removed (filing : FilingInvariant world)
    (configs : world.manager.configs.lookup appID = none)
    (quiescent : world.Quiescent appID) : world.Removed appID where
  hasDataPlane := by
    rw [DefaultManager.hasDataPlane, configs]
    rfl
  getIntegration := by
    rw [DefaultManager.getIntegration, configs]
    rfl
  never := by
    intro labels later taken others
    have start : world.Unconfigured appID world.built :=
      ⟨configs, quiescent, fun _ member _ => member⟩
    have guarded := (guardedRun_true_iff.mpr taken).restrict others
    have ended :=
      guarded.invariant
        (fun state => FilingInvariant state ∧
          state.Unconfigured appID world.built)
        (fun allowed stepTaken before =>
          ⟨before.1.step stepTaken,
            before.2.step before.1 allowed.2 stepTaken⟩)
        ⟨filing, start⟩
    exact ended.2.built

end World.Unconfigured

/-! ## Removal -/

/-- What `UnregisterApp` leaves of the configuration. -/
theorem DefaultManager.configs_unregisterApp_self
    (manager : DefaultManager) (appID : UUID) :
    (manager.unregisterApp appID).configs.lookup appID = none ↔
      manager.clients.lookup appID ≠ none ∨
        manager.configs.lookup appID = none := by
  unfold DefaultManager.unregisterApp
  cases kept : manager.clients.lookup appID with
  | none => simp
  | some client => simp [DefaultManager.remove]

/-- What `Close` leaves of the configurations. -/
theorem DefaultManager.configs_close_self
    (manager : DefaultManager) (appID : UUID) :
    manager.close.configs.lookup appID = none ↔
      manager.clients.lookup appID ≠ none ∨
        manager.configs.lookup appID = none := by
  by_cases member : appID ∈ manager.clients.keys
  · have kept : manager.clients.lookup appID ≠ none :=
      Option.isSome_iff_ne_none.mp
        (AList.lookup_isSome.mpr (AList.mem_keys.mpr member))
    have gone := (manager.lookup_foldl_remove_of_mem member).1
    exact ⟨fun _ => Or.inl kept, fun _ => gone⟩
  · have absent : manager.clients.lookup appID = none :=
      AList.lookup_eq_none.mpr fun present =>
        member (AList.mem_keys.mp present)
    have same := (manager.sameAt_foldl_remove member).1
    rw [DefaultManager.close, same]
    simp [absent]

theorem World.Removed.configs {world : World} {appID : UUID}
    (removed : world.Removed appID) :
    world.manager.configs.lookup appID = none := by
  have none := removed.hasDataPlane
  rw [DefaultManager.hasDataPlane] at none
  exact Option.not_isSome_iff_eq_none.mp (by simp [none])

/--
In every reachable state in which no call is under way: an application is
removed by `UnregisterApp` exactly if it has a client or no configuration, and
all applications are removed by `Close` exactly if every configured one has a
client.
-/
theorem removed_iff_client {labels : List Label} {world : World}
    (reached : run World.step World.initial labels = some world) :
    (∀ appID, world.Quiescent appID →
      ((world.unregisterApp appID).Removed appID ↔
        world.manager.clients.lookup appID ≠ none ∨
          world.manager.configs.lookup appID = none)) ∧
    ((∀ appID, world.Quiescent appID) →
      ((∀ appID, world.close.Removed appID) ↔
        ∀ appID, world.manager.configs.lookup appID ≠ none →
          world.manager.clients.lookup appID ≠ none)) := by
  have filing : FilingInvariant world :=
    run_invariant FilingInvariant
      (fun taken before => before.step taken) reached filingInvariant_initial
  constructor
  · intro appID quiescent
    have taken : world.step (.unregisterApp appID) =
        some (world.unregisterApp appID) := rfl
    have after := filing.step taken
    rw [← DefaultManager.configs_unregisterApp_self]
    constructor
    · intro removed
      exact removed.configs
    · intro configs
      exact World.Unconfigured.removed after configs quiescent
  · intro quiescent
    have taken : world.step .close = some world.close := rfl
    have after := filing.step taken
    constructor
    · intro removed appID configured
      have gone := (removed appID).configs
      exact (DefaultManager.configs_close_self _ appID |>.mp gone).resolve_right
        configured
    · intro kept appID
      refine World.Unconfigured.removed after ?_ (quiescent appID)
      refine (DefaultManager.configs_close_self _ appID).mpr ?_
      by_cases configured : world.manager.configs.lookup appID = none
      · exact Or.inr configured
      · exact Or.inl (kept appID configured)

/-- A registration runs to its end; the factory answers as given. -/
def registersOrders (outcome : Except String Unit) : List Label :=
  [.registerApp 0 (ordersConfig .read), .proceed 0, .factory 0 outcome,
    .proceed 0, .proceed 0]

/-- A world in which no call is under way. -/
def World.idle (world : World) : Bool :=
  world.calls.entries.all fun entry => entry.2.appID.isNone

theorem World.quiescent_of_idle {world : World} (idle : world.idle = true)
    (appID : UUID) : world.Quiescent appID := by
  intro id call present concerns
  have none := List.all_eq_true.mp idle _ (mem_entries_iff.mpr present)
  rw [concerns] at none
  cases none

theorem removed_registersOrders :
    ∃ world,
      run World.step World.initial (registersOrders (.ok ())) = some world ∧
        (world.unregisterApp ⟨7⟩).Removed ⟨7⟩ := by
  have reached :
      (run World.step World.initial (registersOrders (.ok ()))).map
          (fun world => (world.idle,
            (world.manager.clients.lookup ⟨7⟩).isSome)) =
        some (true, true) := by
    decide
  obtain ⟨world, taken, facts⟩ := Option.map_eq_some_iff.mp reached
  rw [Prod.mk.injEq] at facts
  refine ⟨world, taken, ?_⟩
  refine ((removed_iff_client taken).1 ⟨7⟩ ?_).mpr (Or.inl ?_)
  · exact World.quiescent_of_idle facts.1 ⟨7⟩
  · exact Option.isSome_iff_ne_none.mp facts.2

/-- After a failed initialisation `UnregisterApp` removes nothing. -/
theorem unreachable_notRemoved :
    ¬∀ labels world appID,
      run World.step World.initial labels = some world →
        world.Quiescent appID → (world.unregisterApp appID).Removed appID := by
  intro always
  have reached :
      (run World.step World.initial
          (registersOrders (.error "connection refused"))).map
          (fun world => (world.idle,
            (world.unregisterApp ⟨7⟩).manager.hasDataPlane ⟨7⟩)) =
        some (true, true) := by
    decide
  obtain ⟨world, taken, facts⟩ := Option.map_eq_some_iff.mp reached
  rw [Prod.mk.injEq] at facts
  have removed := always _ world ⟨7⟩ taken
    (World.quiescent_of_idle facts.1 ⟨7⟩)
  have gone := removed.hasDataPlane
  rw [facts.2] at gone
  cases gone

end DbosRelay.DataPlane
