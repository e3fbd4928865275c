import DbosRelay.DataPlane.Manager

/-!
# What a step of the data-plane manager does

The sections of the calls, taken apart once: `Takes` lists what a step can do,
with the guards it passes.  The mutexes of the applications exclude each other
in every run, whatever the calls are.
-/

namespace DbosRelay.DataPlane

open DbosRelay.Basic
open DbosRelay.Library.Runs
open DbosRelay.Library.Tables

/-! ## Stages -/

/-- The registration has its last section still before it. -/
def RegisterStage.outstanding : RegisterStage → Bool
  | .releasing => false
  | _ => true

/-- The initialisation may still build a client or find one. -/
def InitStage.outstanding : InitStage → Bool
  | .releasing _ => false
  | _ => true

/-- The application whose registration is outstanding. -/
def Call.registers : Call → Option UUID
  | .registering cfg _ stage =>
      if stage.outstanding then some cfg.applicationID else none
  | _ => none

/-- The application whose initialisation is outstanding. -/
def Call.initialises : Call → Option UUID
  | .initialising appID _ _ _ stage =>
      if stage.outstanding then some appID else none
  | _ => none

/-- The application the call is under way for. -/
def Call.appID : Call → Option UUID
  | .registering cfg _ _ => some cfg.applicationID
  | .initialising appID _ _ _ _ => some appID
  | _ => none

/-- No call for the application is under way. -/
def World.Quiescent (world : World) (appID : UUID) : Prop :=
  ∀ id call, world.calls.lookup id = some call → call.appID ≠ some appID

/-- The mutex the call holds. -/
def Call.holds : Call → Option Nat
  | .registering _ _ .waiting => none
  | .registering _ appMu _ => some appMu
  | .initialising _ _ _ _ (.backingOff _) => none
  | .initialising _ _ _ _ .waiting => none
  | .initialising _ _ _ appMu _ => some appMu
  | _ => none

/-- The client the call has built and not stored yet. -/
def Call.carries : Call → Option Client
  | .registering _ _ (.built (.ok client)) => some client
  | .initialising _ _ _ _ (.built (.ok client)) => some client
  | _ => none

theorem Call.registers_eq_some {call : Call} {appID : UUID} :
    call.registers = some appID ↔
      ∃ cfg appMu stage, call = .registering cfg appMu stage ∧
        stage.outstanding = true ∧ cfg.applicationID = appID := by
  cases call <;> simp [Call.registers]

/-! ## Steps -/

/-- A call proceeds without touching the manager or a mutex. -/
inductive Moves (world : World) : Call → Call → Prop where
  | backsOff {appID operation cfg appMu lastErr}
      (active : world.inBackoff lastErr = true) :
      Moves world
        (.initialising appID operation cfg appMu (.backingOff lastErr))
        (.failed .backoffActive)
  | waits {appID operation cfg appMu lastErr}
      (backoffOver : world.inBackoff lastErr = false) :
      Moves world
        (.initialising appID operation cfg appMu (.backingOff lastErr))
        (.initialising appID operation cfg appMu .waiting)
  | finds {appID operation cfg appMu client}
      (present : world.manager.clients.lookup appID = some client) :
      Moves world
        (.initialising appID operation cfg appMu .rechecking)
        (.initialising appID operation cfg appMu (.releasing (.ok client)))
  | misses {appID operation cfg appMu}
      (absent : world.manager.clients.lookup appID = none) :
      Moves world
        (.initialising appID operation cfg appMu .rechecking)
        (.initialising appID operation cfg appMu
          (.backingOffAgain (world.manager.lastErr appID)))
  | backsOffAgain {appID operation cfg appMu lastErr}
      (active : world.inBackoff lastErr = true) :
      Moves world
        (.initialising appID operation cfg appMu (.backingOffAgain lastErr))
        (.initialising appID operation cfg appMu
          (.releasing (.error .backoffActive)))
  | builds {appID operation cfg appMu lastErr}
      (backoffOver : world.inBackoff lastErr = false) :
      Moves world
        (.initialising appID operation cfg appMu (.backingOffAgain lastErr))
        (.initialising appID operation cfg appMu .building)
  | refuses {operation client cfg}
      (mutates : operation.mutates = true) (readOnly : cfg.mode ≠ .readWrite) :
      Moves world (.operating operation client cfg) (.failed .readOnlyMode)
  | registerUnbuilt {cfg appMu cause} :
      Moves world (.registering cfg appMu .building)
        (.registering cfg appMu (.built (.error cause)))
  | initUnbuilt {appID operation cfg appMu cause} :
      Moves world (.initialising appID operation cfg appMu .building)
        (.initialising appID operation cfg appMu (.built (.error cause)))

/-- A call waits for a mutex, and goes on with it. -/
inductive Locks : Call → Nat → Call → Prop where
  | register {cfg appMu} :
      Locks (.registering cfg appMu .waiting) appMu
        (.registering cfg appMu .building)
  | init {appID operation cfg appMu} :
      Locks (.initialising appID operation cfg appMu .waiting) appMu
        (.initialising appID operation cfg appMu .rechecking)

/-- A call returns and gives its mutex back. -/
inductive Unlocks : Call → Nat → Call → List (Client × AppConfig) → Prop where
  | register {cfg appMu} :
      Unlocks (.registering cfg appMu .releasing) appMu .finished []
  | init {appID operation cfg appMu client} :
      Unlocks
        (.initialising appID operation cfg appMu (.releasing (.ok client)))
        appMu (.operating operation client cfg) [(client, cfg)]
  | initFails {appID operation cfg appMu error} :
      Unlocks
        (.initialising appID operation cfg appMu (.releasing (.error error)))
        appMu (.failed error) []

/-- The factory has built a client for a call. -/
inductive Builds : Call → AppConfig → Client → Call → Prop where
  | register {cfg appMu client} :
      Builds (.registering cfg appMu .building) cfg client
        (.registering cfg appMu (.built (.ok client)))
  | init {appID operation cfg appMu client} :
      Builds (.initialising appID operation cfg appMu .building) cfg client
        (.initialising appID operation cfg appMu (.built (.ok client)))

/-- A call records that the factory has failed. -/
inductive Fails : Call → UUID → Call → Prop where
  | register {cfg appMu cause} :
      Fails (.registering cfg appMu (.built (.error cause)))
        cfg.applicationID (.registering cfg appMu .releasing)
  | init {appID operation cfg appMu cause} :
      Fails (.initialising appID operation cfg appMu (.built (.error cause)))
        appID
        (.initialising appID operation cfg appMu
          (.releasing (.error (.initFailed cause))))

/-- What one step does. -/
inductive Takes (world : World) : Label → World → Prop where
  | elapse {duration : Nat} :
      Takes world (.elapse duration) { world with now := world.now + duration }
  | refused {id cfg error} (fresh : id ∉ world.calls)
      (normalised : cfg.normalise = .error error) :
      Takes world (.registerApp id cfg) (world.setCall id (.refused error))
  | registers {id} {cfg normal : AppConfig} (fresh : id ∉ world.calls)
      (normalised : cfg.normalise = .ok normal) :
      Takes world (.registerApp id cfg)
        { world with
          manager := world.manager.register normal world.mutexes
          calls :=
            world.calls.insert id
              (.registering normal
                ((world.manager.initMu.lookup normal.applicationID).getD
                  world.mutexes) .waiting)
          mutexes := world.mutexes + 1
          closed :=
            (world.manager.clients.lookup normal.applicationID).toList ++
              world.closed }
  | unregisters {appID} :
      Takes world (.unregisterApp appID) (world.unregisterApp appID)
  | closes : Takes world .close world.close
  | turnedAway {id appID operation error} (fresh : id ∉ world.calls) :
      Takes world (.call id appID operation)
        (world.setCall id (.failed error))
  | found {id appID operation client cfg} (fresh : id ∉ world.calls)
      (configured : world.manager.configs.lookup appID = some cfg)
      (present : world.manager.clients.lookup appID = some client) :
      Takes world (.call id appID operation)
        { world with
          calls := world.calls.insert id (.operating operation client cfg)
          returned := (client, cfg) :: world.returned }
  | initialises {id appID operation cfg appMu} (fresh : id ∉ world.calls)
      (configured : world.manager.configs.lookup appID = some cfg)
      (absent : world.manager.clients.lookup appID = none)
      (mutex : world.manager.initMu.lookup appID = some appMu) :
      Takes world (.call id appID operation)
        (world.setCall id
          (.initialising appID operation cfg appMu
            (.backingOff (world.manager.lastErr appID))))
  | moves {label id old new} (current : world.calls.lookup id = some old)
      (moved : Moves world old new)
      (labelled : label = .proceed id ∨
        ∃ cause, label = .factory id (.error cause)) :
      Takes world label (world.setCall id new)
  | locks {id old appMu new} (current : world.calls.lookup id = some old)
      (locked : Locks old appMu new) (free : appMu ∉ world.locked) :
      Takes world (.proceed id)
        { world with
          calls := world.calls.insert id new
          locked := appMu :: world.locked }
  | unlocks {id old appMu new returned}
      (current : world.calls.lookup id = some old)
      (unlocked : Unlocks old appMu new returned) :
      Takes world (.proceed id)
        { world with
          calls := world.calls.insert id new
          locked := world.locked.filter (· ≠ appMu)
          returned := returned ++ world.returned }
  | builds {id old cfg new} (current : world.calls.lookup id = some old)
      (built : Builds old cfg ⟨world.built.length, cfg⟩ new) :
      Takes world (.factory id (.ok ()))
        { world with
          calls := world.calls.insert id new
          built := ⟨world.built.length, cfg⟩ :: world.built }
  | fails {id old appID new} (current : world.calls.lookup id = some old)
      (failed : Fails old appID new) :
      Takes world (.proceed id)
        { world with
          manager := world.manager.storeFailure appID world.now
          calls := world.calls.insert id new }
  | registerStores {id cfg appMu client}
      (current : world.calls.lookup id =
        some (.registering cfg appMu (.built (.ok client)))) :
      Takes world (.proceed id)
        { world with
          manager := world.manager.storeClient cfg.applicationID client
          calls := world.calls.insert id (.registering cfg appMu .releasing) }
  | initStores {id appID operation cfg appMu client}
      (current : world.calls.lookup id =
        some (.initialising appID operation cfg appMu (.built (.ok client)))) :
      Takes world (.proceed id)
        { world with
          manager := world.manager.storeLazily appID client
          calls :=
            world.calls.insert id
              (.initialising appID operation cfg appMu
                (.releasing (.ok client))) }
  | sends {id operation client cfg}
      (current : world.calls.lookup id = some (.operating operation client cfg))
      (permitted : operation.mutates = true → cfg.mode = .readWrite) :
      Takes world (.proceed id)
        { world with
          calls := world.calls.insert id .finished
          sent := (client, operation) :: world.sent }

/-! A call stays with its application. -/

theorem Moves.appID {world : World} {old new : Call}
    (moved : Moves world old new) {appID : UUID}
    (concerns : new.appID = some appID) : old.appID = some appID := by
  cases moved <;> first | exact concerns | cases concerns

theorem Locks.appID {old new : Call} {appMu : Nat}
    (locked : Locks old appMu new) : new.appID = old.appID := by
  cases locked <;> rfl

theorem Unlocks.appID {old new : Call} {appMu : Nat}
    {returned : List (Client × AppConfig)}
    (unlocked : Unlocks old appMu new returned) : new.appID = none := by
  cases unlocked <;> rfl

theorem Builds.appID {old new : Call} {cfg : AppConfig} {client : Client}
    (built : Builds old cfg client new) : new.appID = old.appID := by
  cases built <;> rfl

theorem Fails.appID {old new : Call} {appID : UUID}
    (failed : Fails old appID new) :
    old.appID = some appID ∧ new.appID = some appID := by
  cases failed <;> exact ⟨rfl, rfl⟩

section TakesOfStep

variable {world after : World} {id : Nat}

private theorem takes_registerApp {cfg : AppConfig} (fresh : id ∉ world.calls) :
    Takes world (.registerApp id cfg) (world.registerApp id cfg) := by
  unfold World.registerApp
  cases normalised : cfg.normalise with
  | error error => exact .refused fresh normalised
  | ok normal => exact .registers fresh normalised

private theorem takes_lookUpClient {appID : UUID} {operation : Operation}
    (fresh : id ∉ world.calls) :
    Takes world (.call id appID operation)
      (world.lookUpClient id appID operation) := by
  unfold World.lookUpClient
  cases configured : world.manager.configs.lookup appID with
  | none => exact .turnedAway fresh
  | some cfg =>
      cases present : world.manager.clients.lookup appID with
      | some client => exact .found fresh configured present
      | none =>
          cases mutex : world.manager.initMu.lookup appID with
          | none => exact .turnedAway fresh
          | some appMu => exact .initialises fresh configured present mutex

private theorem takes_lock {old new : Call} {appMu : Nat}
    (current : world.calls.lookup id = some old) (locked : Locks old appMu new)
    (taken : world.lock appMu id new = some after) :
    Takes world (.proceed id) after := by
  unfold World.lock at taken
  split_ifs at taken with busy
  cases taken
  exact .locks current locked busy

private theorem takes_proceedRegister {cfg : AppConfig} {appMu : Nat}
    {stage : RegisterStage}
    (current : world.calls.lookup id = some (.registering cfg appMu stage))
    (taken : world.proceedRegister id cfg appMu stage = some after) :
    Takes world (.proceed id) after := by
  rcases stage with _ | _ | (cause | client) | _
  · exact takes_lock current .register taken
  · cases taken
  · cases taken
    exact .fails current .register
  · cases taken
    exact .registerStores current
  · cases taken
    exact .unlocks current .register

private theorem takes_proceedInit {appID : UUID} {operation : Operation}
    {cfg : AppConfig} {appMu : Nat} {stage : InitStage}
    (current : world.calls.lookup id =
      some (.initialising appID operation cfg appMu stage))
    (taken : world.proceedInit id appID operation cfg appMu stage = some after) :
    Takes world (.proceed id) after := by
  rcases stage with
    lastErr | _ | _ | lastErr | _ | (cause | client) | (error | client)
  · simp only [World.proceedInit] at taken
    split_ifs at taken with active
    · cases taken
      exact .moves current (.backsOff active) (Or.inl rfl)
    · cases taken
      exact .moves current (.waits (Bool.eq_false_iff.mpr active)) (Or.inl rfl)
  · exact takes_lock current .init taken
  · simp only [World.proceedInit] at taken
    cases present : world.manager.clients.lookup appID with
    | some client =>
        rw [present] at taken
        cases taken
        exact .moves current (.finds present) (Or.inl rfl)
    | none =>
        rw [present] at taken
        cases taken
        exact .moves current (.misses present) (Or.inl rfl)
  · simp only [World.proceedInit] at taken
    split_ifs at taken with active
    · cases taken
      exact .moves current (.backsOffAgain active) (Or.inl rfl)
    · cases taken
      exact .moves current (.builds (Bool.eq_false_iff.mpr active)) (Or.inl rfl)
  · cases taken
  · cases taken
    exact .fails current .init
  · cases taken
    exact .initStores current
  · cases taken
    exact .unlocks current .initFails
  · cases taken
    exact .unlocks current .init

private theorem takes_operate {operation : Operation} {client : Client}
    {cfg : AppConfig}
    (current : world.calls.lookup id =
      some (.operating operation client cfg)) :
    Takes world (.proceed id) (world.operate id operation client cfg) := by
  unfold World.operate
  by_cases refused : (operation.mutates && cfg.mode ≠ .readWrite) = true
  · rw [if_pos refused]
    have both := Bool.and_eq_true_iff.mp refused
    exact .moves current (.refuses both.1 (of_decide_eq_true both.2))
      (Or.inl rfl)
  · rw [if_neg refused]
    refine .sends current fun mutates => ?_
    by_contra readOnly
    exact refused (by simp [mutates, readOnly])

private theorem takes_factory {old : Call} {cfg : AppConfig}
    {stage : Except String Client → Call} {outcome : Except String Unit}
    (current : world.calls.lookup id = some old)
    (built : ∀ client, Builds old cfg client (stage (.ok client)))
    (unbuilt : ∀ cause, Moves world old (stage (.error cause))) :
    Takes world (.factory id outcome) (world.factory id cfg stage outcome) := by
  rcases outcome with cause | ⟨⟩
  · exact .moves current (unbuilt cause) (Or.inr ⟨cause, rfl⟩)
  · exact .builds current (built _)

/-- Every step does one of the things listed. -/
theorem takes_of_step {label : Label} (taken : world.step label = some after) :
    Takes world label after := by
  cases label with
  | elapse duration =>
      cases taken
      exact .elapse
  | registerApp id cfg =>
      simp only [World.step] at taken
      split_ifs at taken with used
      cases taken
      exact takes_registerApp used
  | unregisterApp appID =>
      cases taken
      exact .unregisters
  | close =>
      cases taken
      exact .closes
  | call id appID operation =>
      simp only [World.step] at taken
      split_ifs at taken with used
      cases taken
      exact takes_lookUpClient used
  | proceed id =>
      simp only [World.step] at taken
      split at taken
      · rename_i current
        exact takes_proceedRegister current taken
      · rename_i current
        exact takes_proceedInit current taken
      · rename_i current
        cases taken
        exact takes_operate current
      · cases taken
  | factory id outcome =>
      simp only [World.step] at taken
      split at taken
      · rename_i current
        cases taken
        exact takes_factory current (fun _ => .register)
          fun _ => .registerUnbuilt
      · rename_i current
        cases taken
        exact takes_factory current (fun _ => .init) fun _ => .initUnbuilt
      · cases taken

end TakesOfStep

/-! ## Mutual exclusion -/

/-- A mutex is held by one call at most, and marked as locked meanwhile. -/
structure MutexInvariant (world : World) : Prop where
  locked : ∀ {id call appMu}, world.calls.lookup id = some call →
    call.holds = some appMu → appMu ∈ world.locked
  exclusive : ∀ {id other call otherCall appMu},
    world.calls.lookup id = some call → call.holds = some appMu →
      world.calls.lookup other = some otherCall →
        otherCall.holds = some appMu → other = id

theorem mutexInvariant_initial : MutexInvariant World.initial where
  locked := by
    intro id call appMu present
    simp [World.initial] at present
  exclusive := by
    intro id other call otherCall appMu present
    simp [World.initial] at present

theorem Moves.holds {world : World} {old new : Call}
    (moved : Moves world old new) {appMu : Nat}
    (held : new.holds = some appMu) : old.holds = some appMu := by
  cases moved <;> exact held

theorem Locks.holds {old new : Call} {appMu : Nat}
    (locked : Locks old appMu new) : new.holds = some appMu := by
  cases locked <;> rfl

theorem Unlocks.holds {old new : Call} {appMu : Nat}
    {returned : List (Client × AppConfig)}
    (unlocked : Unlocks old appMu new returned) :
    old.holds = some appMu ∧ new.holds = none := by
  cases unlocked <;> exact ⟨rfl, rfl⟩

theorem Builds.holds {old new : Call} {cfg : AppConfig} {client : Client}
    (built : Builds old cfg client new) : new.holds = old.holds := by
  cases built <;> rfl

theorem Fails.holds {old new : Call} {appID : UUID}
    (failed : Fails old appID new) : new.holds = old.holds := by
  cases failed <;> rfl

namespace MutexInvariant

variable {world after : World}

/-- A call may go on with the mutex it holds, or without it. -/
theorem replace (invariant : MutexInvariant world) {id : Nat} {new : Call}
    (calls : after.calls = world.calls.insert id new)
    (locked : after.locked = world.locked)
    (holds : ∀ {appMu}, new.holds = some appMu →
      ∃ old, world.calls.lookup id = some old ∧ old.holds = some appMu) :
    MutexInvariant after := by
  have earlier : ∀ {key call appMu}, after.calls.lookup key = some call →
      call.holds = some appMu →
        ∃ old, world.calls.lookup key = some old ∧
          old.holds = some appMu := by
    intro key call appMu present held
    rcases lookup_insert_cases calls present with ⟨rfl, rfl⟩ | ⟨-, before⟩
    · exact holds held
    · exact ⟨call, before, held⟩
  constructor
  · intro key call appMu present held
    obtain ⟨old, before, heldBefore⟩ := earlier present held
    rw [locked]
    exact invariant.locked before heldBefore
  · intro key other call otherCall appMu present held otherPresent otherHeld
    obtain ⟨old, before, heldBefore⟩ := earlier present held
    obtain ⟨otherOld, otherBefore, otherHeldBefore⟩ :=
      earlier otherPresent otherHeld
    exact invariant.exclusive before heldBefore otherBefore otherHeldBefore

/-- A free mutex may be taken. -/
theorem lock (invariant : MutexInvariant world) {id appMu : Nat} {new : Call}
    (free : appMu ∉ world.locked) (holds : new.holds = some appMu) :
    MutexInvariant
      { world with
        calls := world.calls.insert id new
        locked := appMu :: world.locked } := by
  constructor
  · intro key call held present holding
    rcases lookup_insert_cases rfl present with ⟨-, rfl⟩ | ⟨-, before⟩
    · rw [holds] at holding
      cases holding
      exact List.mem_cons_self
    · exact List.mem_cons_of_mem appMu (invariant.locked before holding)
  · intro key other call otherCall held present holding otherPresent
      otherHolding
    -- Whoever held this mutex before would have kept it locked.
    have taken : ∀ {key call}, world.calls.lookup key = some call →
        call.holds = some appMu → False := fun before holding =>
      free (invariant.locked before holding)
    rcases lookup_insert_cases rfl present with ⟨same, rfl⟩ | ⟨-, before⟩ <;>
      rcases lookup_insert_cases rfl otherPresent with
        ⟨otherSame, rfl⟩ | ⟨-, otherBefore⟩
    · rw [same, otherSame]
    · rw [holds] at holding
      cases holding
      exact (taken otherBefore otherHolding).elim
    · rw [holds] at otherHolding
      cases otherHolding
      exact (taken before holding).elim
    · exact invariant.exclusive before holding otherBefore otherHolding

/-- The holder of a mutex may give it back. -/
theorem unlock (invariant : MutexInvariant world) {id appMu : Nat}
    {old new : Call} {returned : List (Client × AppConfig)}
    (current : world.calls.lookup id = some old)
    (unlocked : Unlocks old appMu new returned) :
    MutexInvariant
      { world with
        calls := world.calls.insert id new
        locked := world.locked.filter (· ≠ appMu)
        returned := returned ++ world.returned } := by
  have earlier : ∀ {key call held},
      (world.calls.insert id new).lookup key = some call →
        call.holds = some held →
          key ≠ id ∧ world.calls.lookup key = some call := by
    intro key call held present holding
    rcases lookup_insert_cases rfl present with ⟨-, rfl⟩ | before
    · rw [unlocked.holds.2] at holding
      cases holding
    · exact before
  constructor
  · intro key call held present holding
    obtain ⟨different, before⟩ := earlier present holding
    refine List.mem_filter.mpr ⟨invariant.locked before holding, ?_⟩
    refine decide_eq_true fun same => different ?_
    subst same
    exact invariant.exclusive current unlocked.holds.1 before holding
  · intro key other call otherCall held present holding otherPresent
      otherHolding
    exact invariant.exclusive (earlier present holding).2 holding
      (earlier otherPresent otherHolding).2 otherHolding

theorem step (invariant : MutexInvariant world) {label : Label}
    (taken : world.step label = some after) : MutexInvariant after := by
  cases takes_of_step taken with
  | elapse => exact ⟨invariant.locked, invariant.exclusive⟩
  | refused fresh normalised =>
      exact invariant.replace rfl rfl fun held => by cases held
  | registers fresh normalised =>
      exact invariant.replace rfl rfl fun held => by cases held
  | unregisters => exact ⟨invariant.locked, invariant.exclusive⟩
  | closes => exact ⟨invariant.locked, invariant.exclusive⟩
  | turnedAway fresh =>
      exact invariant.replace rfl rfl fun held => by cases held
  | found fresh configured present =>
      exact invariant.replace rfl rfl fun held => by cases held
  | initialises fresh configured absent mutex =>
      exact invariant.replace rfl rfl fun held => by cases held
  | moves current moved labelled =>
      exact invariant.replace rfl rfl fun held =>
        ⟨_, current, moved.holds held⟩
  | locks current locked free => exact invariant.lock free locked.holds
  | unlocks current unlocked => exact invariant.unlock current unlocked
  | builds current built =>
      exact invariant.replace rfl rfl fun held =>
        ⟨_, current, built.holds ▸ held⟩
  | fails current failed =>
      exact invariant.replace rfl rfl fun held =>
        ⟨_, current, failed.holds ▸ held⟩
  | registerStores current =>
      exact invariant.replace rfl rfl fun held => ⟨_, current, held⟩
  | initStores current =>
      exact invariant.replace rfl rfl fun held => ⟨_, current, held⟩
  | sends current permitted =>
      exact invariant.replace rfl rfl fun held => by cases held

end MutexInvariant

end DbosRelay.DataPlane
