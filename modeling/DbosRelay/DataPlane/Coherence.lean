import DbosRelay.DataPlane.Calls

/-!
# Clients and configurations of the data plane

A client the manager keeps should have been built from the configuration it
keeps, every client it no longer keeps should have been closed, and
`getOrInitClient` should return a client together with its own configuration.
The code reads the configuration before it waits for the mutex of the
application and stores what it has built without looking again, so all three
fail when a registration overlaps another call for the application, or a
removal overlaps an initialisation.  They hold in every run without such an
overlap; initialisations may overlap one another.
-/

namespace DbosRelay.DataPlane

open DbosRelay.Basic
open DbosRelay.Library.Runs
open DbosRelay.Library.Tables
open DbosRelay.Protocol

/-! ## The property -/

/--
The client kept for an application was built from the configuration kept for
it, and every other client built for it has been closed.
-/
structure World.CoherentFor (world : World) (appID : UUID) : Prop where
  current : ∀ {client}, world.manager.clients.lookup appID = some client →
    client ∈ world.built ∧
      world.manager.configs.lookup appID = some client.config
  others : ∀ client ∈ world.built, client.config.applicationID = appID →
    world.manager.clients.lookup appID ≠ some client → client ∈ world.closed

/-- What the manager promises about its clients. -/
structure World.Coherent (world : World) : Prop where
  quiescent : ∀ {appID}, world.Quiescent appID → world.CoherentFor appID
  returned : ∀ {client cfg}, (client, cfg) ∈ world.returned →
    client.config = cfg
  sent : ∀ {client operation}, (client, operation) ∈ world.sent →
    operation.mutates = true → client.config.mode = .readWrite

/-! ## The condition -/

/-- A registration of the application has its last section still before it. -/
def World.registering (world : World) (appID : UUID) : Bool :=
  world.calls.entries.any fun entry => entry.2.registers = some appID

/-- An initialisation for the application is outstanding. -/
def World.initialising (world : World) (appID : UUID) : Bool :=
  world.calls.entries.any fun entry => entry.2.initialises = some appID

/--
No registration overlaps another call for its application, and no client is
removed while an initialisation for its application is outstanding.
-/
def World.undisturbed (world : World) : Label → Bool
  | .registerApp _ cfg =>
      !world.registering cfg.applicationID &&
        !world.initialising cfg.applicationID
  | .call _ appID _ => !world.registering appID
  | .unregisterApp appID =>
      (world.manager.clients.lookup appID).isNone || !world.initialising appID
  | .close =>
      world.manager.clients.keys.all fun appID => !world.initialising appID
  | _ => true

theorem World.registers_ne {world : World} {appID : UUID}
    (free : world.registering appID = false) {id : Nat} {call : Call}
    (present : world.calls.lookup id = some call) :
    call.registers ≠ some appID := by
  intro registers
  have member := mem_entries_iff.mpr present
  have found := List.any_eq_false.mp free _ member
  exact found (decide_eq_true registers)

theorem World.initialises_ne {world : World} {appID : UUID}
    (free : world.initialising appID = false) {id : Nat} {call : Call}
    (present : world.calls.lookup id = some call) :
    call.initialises ≠ some appID := by
  intro initialises
  have member := mem_entries_iff.mpr present
  have found := List.any_eq_false.mp free _ member
  exact found (decide_eq_true initialises)

/-! ## The invariant -/

/-- The client has been found absent under the mutex. -/
def InitStage.missed : InitStage → Bool
  | .backingOffAgain _ => true
  | .building => true
  | .built _ => true
  | _ => false

/-- What an outstanding call relies on. -/
def Call.Fits (manager : DefaultManager) : Call → Prop
  | .registering cfg appMu stage =>
      stage.outstanding = true →
        manager.configs.lookup cfg.applicationID = some cfg ∧
          manager.initMu.lookup cfg.applicationID = some appMu ∧
            manager.clients.lookup cfg.applicationID = none ∧
              ∀ client, stage = .built (.ok client) → client.config = cfg
  | .initialising appID _ cfg appMu stage =>
      stage.outstanding = true →
        manager.configs.lookup appID = some cfg ∧
          manager.initMu.lookup appID = some appMu ∧
            (stage.missed = true → manager.clients.lookup appID = none) ∧
              ∀ client, stage = .built (.ok client) → client.config = cfg
  | _ => True

/-- A call relies on nothing but the entries of its own application. -/
theorem Call.Fits.congr {manager other : DefaultManager} {call : Call}
    (fits : call.Fits manager)
    (same : ∀ appID,
      call.registers = some appID ∨ call.initialises = some appID →
        manager.SameAt other appID) :
    call.Fits other := by
  cases call with
  | registering cfg appMu stage =>
      intro outstanding
      obtain ⟨configs, initMu, clients⟩ :=
        same cfg.applicationID (Or.inl (if_pos outstanding))
      rw [configs, initMu, clients]
      exact fits outstanding
  | initialising appID operation cfg appMu stage =>
      intro outstanding
      obtain ⟨configs, initMu, clients⟩ :=
        same appID (Or.inr (if_pos outstanding))
      rw [configs, initMu, clients]
      exact fits outstanding
  | _ => trivial

/-- The application whose client the call has found absent. -/
def Call.misses : Call → Option UUID
  | .initialising appID _ _ _ stage =>
      if stage.missed then some appID else none
  | _ => none

theorem Call.misses_eq_some {call : Call} {appID : UUID} :
    call.misses = some appID ↔
      ∃ operation cfg appMu stage,
        call = .initialising appID operation cfg appMu stage ∧
          stage.missed = true := by
  cases call <;> simp [Call.misses]
  grind

/-- Such a call is outstanding and holds its mutex. -/
theorem Call.outstanding_of_misses {call : Call} {appID : UUID}
    (misses : call.misses = some appID) :
    ∃ operation cfg appMu stage,
      call = .initialising appID operation cfg appMu stage ∧
        stage.outstanding = true ∧ call.holds = some appMu := by
  obtain ⟨operation, cfg, appMu, stage, rfl, missed⟩ :=
    Call.misses_eq_some.mp misses
  refine ⟨operation, cfg, appMu, stage, rfl, ?_⟩
  cases stage <;> first | exact ⟨rfl, rfl⟩ | cases missed

/-- Storing a client disturbs only those who rely on its absence. -/
theorem Call.Fits.congr_of_misses {manager other : DefaultManager}
    {call : Call} (fits : call.Fits manager)
    (configs : other.configs = manager.configs)
    (initMu : other.initMu = manager.initMu)
    (same : ∀ appID,
      call.registers = some appID ∨ call.misses = some appID →
        other.clients.lookup appID = manager.clients.lookup appID) :
    call.Fits other := by
  cases call with
  | registering cfg appMu stage =>
      intro outstanding
      rw [configs, initMu,
        same cfg.applicationID (Or.inl (if_pos outstanding))]
      exact fits outstanding
  | initialising appID operation cfg appMu stage =>
      intro outstanding
      obtain ⟨config, mutex, absent, carries⟩ := fits outstanding
      rw [configs, initMu]
      refine ⟨config, mutex, fun missed => ?_, carries⟩
      rw [same appID (Or.inr (if_pos missed))]
      exact absent missed
  | _ => trivial

/-- A call with nothing outstanding relies on nothing. -/
theorem Call.fits_of_settled {manager : DefaultManager} {call : Call}
    (registers : call.registers = none)
    (initialises : call.initialises = none) :
    call.Fits manager := by
  cases call with
  | registering cfg appMu stage =>
      intro outstanding
      rw [Call.registers, if_pos outstanding] at registers
      cases registers
  | initialising appID operation cfg appMu stage =>
      intro outstanding
      rw [Call.initialises, if_pos outstanding] at initialises
      cases initialises
  | _ => trivial

/-- A client is stored, closed, or about to be stored. -/
def World.Accounts (world : World) (client : Client) : Prop :=
  client ∈ world.closed ∨
    world.manager.clients.lookup client.config.applicationID = some client ∨
      ∃ id call, world.calls.lookup id = some call ∧
        call.carries = some client

/-- The maps, the calls and the clients belong together. -/
structure ManagerInvariant (world : World) : Prop where
  configured : ∀ {appID cfg}, world.manager.configs.lookup appID = some cfg →
    cfg.applicationID = appID
  current : ∀ {appID client},
    world.manager.clients.lookup appID = some client →
      client ∈ world.built ∧
        world.manager.configs.lookup appID = some client.config
  fits : ∀ {id call}, world.calls.lookup id = some call →
    call.Fits world.manager
  carried : ∀ {id call client}, world.calls.lookup id = some call →
    call.carries = some client → client ∈ world.built
  alone : ∀ {id call other otherCall appID},
    world.calls.lookup id = some call → call.registers = some appID →
      world.calls.lookup other = some otherCall →
        (otherCall.registers = some appID → other = id) ∧
          otherCall.initialises ≠ some appID
  accounted : ∀ {client}, client ∈ world.built → world.Accounts client

theorem managerInvariant_initial : ManagerInvariant World.initial := by
  constructor <;> simp [World.initial, newManager]

/-- A call goes on while the maps it relies on stay as they are. -/
structure World.Replaces (world after : World) (id : Nat) (new : Call) :
    Prop where
  configs : after.manager.configs = world.manager.configs
  initMu : after.manager.initMu = world.manager.initMu
  clients : after.manager.clients = world.manager.clients
  calls : after.calls = world.calls.insert id new
  closed : after.closed = world.closed

/-- The next program counter of a call claims nothing new. -/
structure World.Continues (world : World) (id : Nat) (new : Call) : Prop where
  registers : ∀ {appID}, new.registers = some appID →
    ∃ old, world.calls.lookup id = some old ∧ old.registers = some appID
  initialises : ∀ {appID}, new.initialises = some appID →
    (∃ old, world.calls.lookup id = some old ∧
        old.initialises = some appID) ∨
      world.registering appID = false
  carries : ∀ {old client}, world.calls.lookup id = some old →
    old.carries = some client → new.carries = some client

/-- A call claims what it claimed before, or less, and carries no client. -/
structure Succeeds (old new : Call) : Prop where
  registers : ∀ {appID}, new.registers = some appID →
    old.registers = some appID
  initialises : ∀ {appID}, new.initialises = some appID →
    old.initialises = some appID
  carriesOld : old.carries = none
  carriesNew : new.carries = none

theorem Succeeds.continues {world : World} {id : Nat} {old new : Call}
    (succeeds : Succeeds old new)
    (current : world.calls.lookup id = some old) :
    world.Continues id new where
  registers := fun claims => ⟨old, current, succeeds.registers claims⟩
  initialises := fun claims =>
    Or.inl ⟨old, current, succeeds.initialises claims⟩
  carries := by
    intro other client present carries
    cases current.symm.trans present
    rw [succeeds.carriesOld] at carries
    cases carries

theorem Moves.succeeds {world : World} {old new : Call}
    (moved : Moves world old new) : Succeeds old new := by
  cases moved <;> refine ⟨?_, ?_, rfl, rfl⟩ <;>
    first | exact fun claims => claims | exact nofun

theorem Moves.fits {world : World} {old new : Call}
    (moved : Moves world old new) (fits : old.Fits world.manager) :
    new.Fits world.manager := by
  cases moved with
  | backsOff active => trivial
  | waits backoffOver =>
      intro _
      obtain ⟨config, mutex, -, -⟩ := fits rfl
      exact ⟨config, mutex, nofun, nofun⟩
  | finds present => exact nofun
  | misses absent =>
      intro _
      obtain ⟨config, mutex, -, -⟩ := fits rfl
      exact ⟨config, mutex, fun _ => absent, nofun⟩
  | backsOffAgain active => exact nofun
  | builds backoffOver =>
      intro _
      obtain ⟨config, mutex, absent, -⟩ := fits rfl
      exact ⟨config, mutex, fun _ => absent rfl, nofun⟩
  | refuses mutates readOnly => trivial
  | registerUnbuilt =>
      intro _
      obtain ⟨config, mutex, absent, -⟩ := fits rfl
      exact ⟨config, mutex, absent, nofun⟩
  | initUnbuilt =>
      intro _
      obtain ⟨config, mutex, absent, -⟩ := fits rfl
      exact ⟨config, mutex, fun _ => absent rfl, nofun⟩

theorem Locks.succeeds {old new : Call} {appMu : Nat}
    (locked : Locks old appMu new) : Succeeds old new := by
  cases locked with
  | register => exact ⟨fun claims => claims, nofun, rfl, rfl⟩
  | init => exact ⟨nofun, fun claims => claims, rfl, rfl⟩

theorem Locks.fits {manager : DefaultManager} {old new : Call} {appMu : Nat}
    (locked : Locks old appMu new) (fits : old.Fits manager) :
    new.Fits manager := by
  cases locked with
  | register =>
      intro _
      obtain ⟨config, mutex, absent, -⟩ := fits rfl
      exact ⟨config, mutex, absent, nofun⟩
  | init =>
      intro _
      obtain ⟨config, mutex, -, -⟩ := fits rfl
      exact ⟨config, mutex, nofun, nofun⟩

theorem Unlocks.succeeds {old new : Call} {appMu : Nat}
    {returned : List (Client × AppConfig)}
    (unlocked : Unlocks old appMu new returned) : Succeeds old new := by
  cases unlocked <;> exact ⟨nofun, nofun, rfl, rfl⟩

theorem Fails.succeeds {old new : Call} {appID : UUID}
    (failed : Fails old appID new) : Succeeds old new := by
  cases failed <;> exact ⟨nofun, nofun, rfl, rfl⟩

theorem Unlocks.fits {manager : DefaultManager} {old new : Call} {appMu : Nat}
    {returned : List (Client × AppConfig)}
    (unlocked : Unlocks old appMu new returned) : new.Fits manager := by
  cases unlocked <;> trivial

theorem Fails.fits {manager : DefaultManager} {old new : Call} {appID : UUID}
    (failed : Fails old appID new) : new.Fits manager := by
  cases failed <;> exact nofun

/-- What the factory has just built, the call carries. -/
theorem Builds.carries {old new : Call} {cfg : AppConfig} {client : Client}
    (built : Builds old cfg client new) : new.carries = some client := by
  cases built <;> rfl

theorem Builds.continues {world : World} {id : Nat} {old new : Call}
    {cfg : AppConfig} {client : Client} (built : Builds old cfg client new)
    (current : world.calls.lookup id = some old) :
    world.Continues id new := by
  cases built with
  | register =>
      refine ⟨fun claims => ⟨_, current, claims⟩, nofun, ?_⟩
      intro other client present carries
      cases current.symm.trans present
      cases carries
  | init =>
      refine ⟨nofun, fun claims => Or.inl ⟨_, current, claims⟩, ?_⟩
      intro other client present carries
      cases current.symm.trans present
      cases carries

theorem Builds.fits {manager : DefaultManager} {old new : Call}
    {cfg : AppConfig} {serial : Nat} (built : Builds old cfg ⟨serial, cfg⟩ new)
    (fits : old.Fits manager) : new.Fits manager := by
  cases built with
  | register =>
      intro _
      obtain ⟨config, mutex, absent, -⟩ := fits rfl
      refine ⟨config, mutex, absent, fun client carried => ?_⟩
      cases carried
      rfl
  | init =>
      intro _
      obtain ⟨config, mutex, absent, -⟩ := fits rfl
      refine ⟨config, mutex, fun _ => absent rfl, fun client carried => ?_⟩
      cases carried
      rfl

namespace ManagerInvariant

variable {world after : World} {id : Nat} {new : Call}

section Insert

variable (calls : after.calls = world.calls.insert id new)

include calls

/-- A call which is replaced may have carried the client, the others go on. -/
theorem carrier_insert {client : Client}
    (carrier : ∃ key call, world.calls.lookup key = some call ∧
      call.carries = some client) :
    (∃ old, world.calls.lookup id = some old ∧ old.carries = some client) ∨
      ∃ key call, after.calls.lookup key = some call ∧
        call.carries = some client := by
  rcases carrier with ⟨key, call, present, carries⟩
  by_cases same : key = id
  · subst same
    exact Or.inl ⟨call, present, carries⟩
  · refine Or.inr ⟨key, call, ?_, carries⟩
    rw [calls, lookup_insert_eq, if_neg same]
    exact present

/-- An outstanding registration was one before the step. -/
theorem registers_before
    (registers : ∀ {appID}, new.registers = some appID →
      ∃ old, world.calls.lookup id = some old ∧ old.registers = some appID)
    {key : Nat} {call : Call} {appID : UUID}
    (present : after.calls.lookup key = some call)
    (registering : call.registers = some appID) :
    ∃ old, world.calls.lookup key = some old ∧
      old.registers = some appID := by
  rcases lookup_insert_cases calls present with ⟨rfl, rfl⟩ | ⟨-, before⟩
  · exact registers registering
  · exact ⟨call, before, registering⟩

/-- A registration stays alone while the replaced call claims nothing new. -/
theorem alone_insert (invariant : ManagerInvariant world)
    (registers : ∀ {appID}, new.registers = some appID →
      ∃ old, world.calls.lookup id = some old ∧ old.registers = some appID)
    (initialises : ∀ {appID}, new.initialises = some appID →
      (∃ old, world.calls.lookup id = some old ∧
          old.initialises = some appID) ∨
        world.registering appID = false)
    {key other : Nat} {call otherCall : Call} {appID : UUID}
    (present : after.calls.lookup key = some call)
    (registering : call.registers = some appID)
    (otherPresent : after.calls.lookup other = some otherCall) :
    (otherCall.registers = some appID → other = key) ∧
      otherCall.initialises ≠ some appID := by
  rcases registers_before calls registers present registering with
    ⟨old, before, registered⟩
  constructor
  · intro otherRegisters
    rcases registers_before calls registers otherPresent otherRegisters with
      ⟨otherOld, otherBefore, otherRegistered⟩
    exact (invariant.alone before registered otherBefore).1 otherRegistered
  · intro otherInitialises
    rcases lookup_insert_cases calls otherPresent with
      ⟨rfl, rfl⟩ | ⟨-, otherBefore⟩
    · rcases initialises otherInitialises with
        ⟨otherOld, otherBefore, initialised⟩ | free
      · exact (invariant.alone before registered otherBefore).2 initialised
      · exact World.registers_ne free before registered
    · exact (invariant.alone before registered otherBefore).2 otherInitialises

end Insert

/-- A call takes a step which leaves the maps alone. -/
theorem replace (invariant : ManagerInvariant world)
    (replaces : world.Replaces after id new)
    (continues : world.Continues id new)
    (fits : new.Fits world.manager)
    (keeps : ∀ {client}, client ∈ world.built → client ∈ after.built)
    (builds : ∀ {client}, client ∈ after.built →
      client ∈ world.built ∨ new.carries = some client)
    (carried : ∀ {client}, new.carries = some client →
      client ∈ after.built) :
    ManagerInvariant after := by
  have sameFits : ∀ {call : Call}, call.Fits world.manager →
      call.Fits after.manager := fun before =>
    before.congr fun appID _ => by
      rw [DefaultManager.SameAt, replaces.configs, replaces.initMu,
        replaces.clients]
      exact ⟨rfl, rfl, rfl⟩
  refine
    { configured := ?_
      current := ?_
      fits := ?_
      carried := ?_
      alone := alone_insert replaces.calls invariant continues.registers
        continues.initialises
      accounted := ?_ }
  · intro appID cfg present
    rw [replaces.configs] at present
    exact invariant.configured present
  · intro appID client present
    rw [replaces.clients] at present
    rw [replaces.configs]
    have before := invariant.current present
    exact ⟨keeps before.1, before.2⟩
  · intro key call present
    rcases lookup_insert_cases replaces.calls present with
      ⟨-, rfl⟩ | ⟨-, before⟩
    · exact sameFits fits
    · exact sameFits (invariant.fits before)
  · intro key call client present carries
    rcases lookup_insert_cases replaces.calls present with
      ⟨-, rfl⟩ | ⟨-, before⟩
    · exact carried carries
    · exact keeps (invariant.carried before carries)
  · intro client isBuilt
    unfold World.Accounts
    rw [replaces.closed, replaces.clients]
    have stored : after.calls.lookup id = some new := by
      rw [replaces.calls, lookup_insert_eq, if_pos rfl]
    rcases builds isBuilt with before | carries
    · rcases invariant.accounted before with closed | kept | carrier
      · exact Or.inl closed
      · exact Or.inr (Or.inl kept)
      · refine Or.inr (Or.inr ?_)
        rcases carrier_insert replaces.calls carrier with
          ⟨old, present, carries⟩ | others
        · exact ⟨id, new, stored, continues.carries present carries⟩
        · exact others
    · exact Or.inr (Or.inr ⟨id, new, stored, carries⟩)

section Register

variable {normal : AppConfig} {appMu : Nat}

/-- `RegisterApp` leaves the maps of other applications alone. -/
theorem sameAt_register {manager : DefaultManager} {mutex : Nat} {appID : UUID}
    (different : appID ≠ normal.applicationID) :
    manager.SameAt (manager.register normal mutex) appID :=
  ⟨AList.lookup_insert_ne different, AList.lookup_insert_ne different,
    AList.lookup_erase_ne different⟩

/-- The new registration finds in the maps what it has stored. -/
theorem fits_registering (manager : DefaultManager) (mutex : Nat) :
    (Call.registering normal
      ((manager.initMu.lookup normal.applicationID).getD mutex)
        .waiting).Fits (manager.register normal mutex) := by
  intro _
  refine ⟨?_, ?_, ?_, nofun⟩
  · exact AList.lookup_insert manager.configs
  · exact AList.lookup_insert manager.initMu
  · exact AList.lookup_erase normal.applicationID manager.clients

/-- The other calls rely on maps of other applications. -/
theorem fits_register (invariant : ManagerInvariant world)
    (notRegistering : world.registering normal.applicationID = false)
    (notInitialising : world.initialising normal.applicationID = false)
    {key : Nat} {call : Call} (present : world.calls.lookup key = some call) :
    call.Fits (world.manager.register normal world.mutexes) := by
  refine (invariant.fits present).congr fun appID concerned => ?_
  apply sameAt_register
  rintro rfl
  rcases concerned with registers | initialises
  · exact World.registers_ne notRegistering present registers
  · exact World.initialises_ne notInitialising present initialises

/-- The new registration is alone with its application. -/
theorem alone_registering (invariant : ManagerInvariant world)
    (notRegistering : world.registering normal.applicationID = false)
    (notInitialising : world.initialising normal.applicationID = false)
    {key other : Nat} {call otherCall : Call} {appID : UUID}
    (present : (world.calls.insert id
      (.registering normal appMu .waiting)).lookup key = some call)
    (registers : call.registers = some appID)
    (otherPresent : (world.calls.insert id
      (.registering normal appMu .waiting)).lookup other = some otherCall) :
    (otherCall.registers = some appID → other = key) ∧
      otherCall.initialises ≠ some appID := by
  rcases lookup_insert_cases rfl present with ⟨same, rfl⟩ | ⟨-, before⟩ <;>
    rcases lookup_insert_cases rfl otherPresent with
      ⟨otherSame, rfl⟩ | ⟨-, otherBefore⟩
  · exact ⟨fun _ => otherSame.trans same.symm, nofun⟩
  · cases registers
    constructor
    · intro otherRegisters
      exact (World.registers_ne notRegistering otherBefore otherRegisters).elim
    · exact World.initialises_ne notInitialising otherBefore
  · refine ⟨fun otherRegisters => ?_, nofun⟩
    cases otherRegisters
    exact (World.registers_ne notRegistering before registers).elim
  · exact invariant.alone before registers otherBefore

/-- `RegisterApp`, while nothing else is under way for the application. -/
theorem register (invariant : ManagerInvariant world)
    (fresh : id ∉ world.calls)
    (notRegistering : world.registering normal.applicationID = false)
    (notInitialising : world.initialising normal.applicationID = false) :
    ManagerInvariant
      { world with
        manager := world.manager.register normal world.mutexes
        calls :=
          world.calls.insert id
            (.registering normal
              ((world.manager.initMu.lookup normal.applicationID).getD
                world.mutexes) .waiting)
        mutexes := world.mutexes + 1
        closed :=
          (world.manager.clients.lookup normal.applicationID).toList ++
            world.closed } := by
  refine
    { configured := ?_
      current := ?_
      fits := ?_
      carried := ?_
      alone := invariant.alone_registering notRegistering notInitialising
      accounted := ?_ }
  · intro appID cfg present
    rcases lookup_insert_cases rfl present with ⟨rfl, rfl⟩ | ⟨-, before⟩
    · rfl
    · exact invariant.configured before
  · intro appID client present
    by_cases same : appID = normal.applicationID
    · subst same
      have erased := AList.lookup_erase normal.applicationID
        world.manager.clients
      cases present.symm.trans erased
    · have unchanged : world.manager.SameAt
          (world.manager.register normal world.mutexes) appID :=
        sameAt_register same
      have before := invariant.current (unchanged.2.2 ▸ present)
      exact ⟨before.1, unchanged.1.trans before.2⟩
  · intro key call present
    rcases lookup_insert_cases rfl present with ⟨-, rfl⟩ | ⟨-, before⟩
    · exact fits_registering world.manager world.mutexes
    · exact invariant.fits_register notRegistering notInitialising before
  · intro key call client present carries
    rcases lookup_insert_cases rfl present with ⟨-, rfl⟩ | ⟨-, before⟩
    · cases carries
    · exact invariant.carried before carries
  · intro client isBuilt
    rcases invariant.accounted isBuilt with closed | kept | carrier
    · exact Or.inl (List.mem_append_right _ closed)
    · by_cases same : client.config.applicationID = normal.applicationID
      · rw [same] at kept
        refine Or.inl (List.mem_append_left _ ?_)
        rw [kept]
        exact List.mem_singleton_self client
      · exact Or.inr (Or.inl ((AList.lookup_erase_ne same).trans kept))
    · rcases carrier with ⟨key, call, present, carries⟩
      refine Or.inr (Or.inr ⟨key, call, ?_, carries⟩)
      refine (AList.lookup_insert_ne ?_).trans present
      rintro rfl
      exact fresh (AList.lookup_isSome.mp (Option.isSome_of_eq_some present))

end Register

/-- An outstanding registration has deleted the client. -/
theorem clients_of_registers (invariant : ManagerInvariant world)
    {call : Call} {appID : UUID}
    (present : world.calls.lookup id = some call)
    (registers : call.registers = some appID) :
    world.manager.clients.lookup appID = none := by
  obtain ⟨cfg, appMu, stage, rfl, outstanding, rfl⟩ :=
    Call.registers_eq_some.mp registers
  exact (invariant.fits present outstanding).2.2.1

/--
Applications with a client are removed, and the clients closed, while no
initialisation for them is outstanding.
-/
theorem remove (invariant : ManagerInvariant world) (gone : UUID → Prop)
    (removed : ∀ {appID}, gone appID →
      after.manager.configs.lookup appID = none ∧
        after.manager.clients.lookup appID = none)
    (elsewhere : ∀ {appID}, ¬gone appID →
      world.manager.SameAt after.manager appID)
    (hasClient : ∀ {appID}, gone appID →
      ∃ client, world.manager.clients.lookup appID = some client ∧
        client ∈ after.closed)
    (notInitialising : ∀ {appID}, gone appID →
      world.initialising appID = false)
    (calls : after.calls = world.calls) (built : after.built = world.built)
    (keeps : ∀ {client}, client ∈ world.closed → client ∈ after.closed) :
    ManagerInvariant after := by
  refine
    { configured := ?_
      current := ?_
      fits := ?_
      carried := ?_
      alone := ?_
      accounted := ?_ }
  · intro appID cfg present
    by_cases isGone : gone appID
    · rw [(removed isGone).1] at present
      cases present
    · exact invariant.configured ((elsewhere isGone).1 ▸ present)
  · intro appID client present
    by_cases isGone : gone appID
    · rw [(removed isGone).2] at present
      cases present
    · have before := invariant.current ((elsewhere isGone).2.2 ▸ present)
      rw [built]
      exact ⟨before.1, (elsewhere isGone).1.trans before.2⟩
  · intro key call present
    rw [calls] at present
    refine (invariant.fits present).congr fun appID concerned => ?_
    apply elsewhere
    intro isGone
    rcases concerned with registers | initialises
    · obtain ⟨client, kept, -⟩ := hasClient isGone
      rw [invariant.clients_of_registers present registers] at kept
      cases kept
    · exact World.initialises_ne (notInitialising isGone) present initialises
  · intro key call client present carries
    rw [calls] at present
    rw [built]
    exact invariant.carried present carries
  · intro key call other otherCall appID present registers otherPresent
    rw [calls] at present otherPresent
    exact invariant.alone present registers otherPresent
  · intro client isBuilt
    rw [built] at isBuilt
    unfold World.Accounts
    rcases invariant.accounted isBuilt with closed | kept | carrier
    · exact Or.inl (keeps closed)
    · by_cases isGone : gone client.config.applicationID
      · obtain ⟨closing, present, closed⟩ := hasClient isGone
        cases present.symm.trans kept
        exact Or.inl closed
      · exact Or.inr (Or.inl ((elsewhere isGone).2.2.trans kept))
    · rw [calls]
      exact Or.inr (Or.inr carrier)

section Store

variable {appID : UUID} {client : Client} {old : Call}

/-- Storing a client leaves the maps of other applications alone. -/
theorem sameAt_insert (configs : after.manager.configs = world.manager.configs)
    (initMu : after.manager.initMu = world.manager.initMu)
    (clients : after.manager.clients =
      world.manager.clients.insert appID client)
    {other : UUID} (different : other ≠ appID) :
    world.manager.SameAt after.manager other := by
  rw [DefaultManager.SameAt, configs, initMu, clients]
  exact ⟨rfl, rfl, AList.lookup_insert_ne different⟩

/-- A call which does not rely on the absence of the client goes on. -/
theorem fits_stored (invariant : ManagerInvariant world)
    (configs : after.manager.configs = world.manager.configs)
    (initMu : after.manager.initMu = world.manager.initMu)
    (clients : after.manager.clients =
      world.manager.clients.insert appID client)
    {key : Nat} {call : Call} (present : world.calls.lookup key = some call)
    (noRival : call.registers ≠ some appID ∧ call.misses ≠ some appID) :
    call.Fits after.manager := by
  refine Call.Fits.congr_of_misses (invariant.fits present) configs initMu ?_
  intro other concerned
  apply (sameAt_insert configs initMu clients ?_).2.2
  rintro rfl
  rcases concerned with registers | misses
  · exact noRival.1 registers
  · exact noRival.2 misses

/-- The stored client was carried by the call, and no other was replaced. -/
theorem accounts_stored (invariant : ManagerInvariant world)
    (clients : after.manager.clients =
      world.manager.clients.insert appID client)
    (calls : after.calls = world.calls.insert id new)
    (closed : after.closed = world.closed)
    (current : world.calls.lookup id = some old)
    (carries : old.carries = some client)
    (configured : world.manager.configs.lookup appID = some client.config)
    (absent : world.manager.clients.lookup appID = none)
    {accounted : Client} (isBuilt : accounted ∈ world.built) :
    after.Accounts accounted := by
  unfold World.Accounts
  rw [closed, clients]
  rcases invariant.accounted isBuilt with isClosed | kept | carrier
  · exact Or.inl isClosed
  · refine Or.inr (Or.inl ((AList.lookup_insert_ne ?_).trans kept))
    intro same
    rw [same, absent] at kept
    cases kept
  · rcases carrier_insert calls carrier with ⟨call, present, carriesOther⟩ | others
    · cases current.symm.trans present
      cases carries.symm.trans carriesOther
      refine Or.inr (Or.inl ?_)
      rw [invariant.configured configured]
      exact AList.lookup_insert world.manager.clients
    · exact Or.inr (Or.inr others)

/-- A call stores the client it carries, and nobody else relies on its absence. -/
theorem store (invariant : ManagerInvariant world)
    (configs : after.manager.configs = world.manager.configs)
    (initMu : after.manager.initMu = world.manager.initMu)
    (clients : after.manager.clients =
      world.manager.clients.insert appID client)
    (calls : after.calls = world.calls.insert id new)
    (built : after.built = world.built) (closed : after.closed = world.closed)
    (current : world.calls.lookup id = some old)
    (carries : old.carries = some client)
    (configured : world.manager.configs.lookup appID = some client.config)
    (absent : world.manager.clients.lookup appID = none)
    (rivals : ∀ {key call}, world.calls.lookup key = some call → key ≠ id →
      call.registers ≠ some appID ∧ call.misses ≠ some appID)
    (settled : new.registers = none ∧ new.initialises = none ∧
      new.carries = none) :
    ManagerInvariant after := by
  refine
    { configured := ?_
      current := ?_
      fits := ?_
      carried := ?_
      alone := alone_insert calls invariant ?_ ?_
      accounted := fun isBuilt => invariant.accounts_stored clients calls
        closed current carries configured absent (built ▸ isBuilt) }
  · intro other cfg present
    rw [configs] at present
    exact invariant.configured present
  · intro other kept present
    rw [configs, built]
    rcases lookup_insert_cases clients present with ⟨rfl, rfl⟩ | ⟨-, before⟩
    · exact ⟨invariant.carried current carries, configured⟩
    · exact invariant.current before
  · intro key call present
    rcases lookup_insert_cases calls present with ⟨-, rfl⟩ | ⟨different, before⟩
    · exact Call.fits_of_settled settled.1 settled.2.1
    · exact invariant.fits_stored configs initMu clients before
        (rivals before different)
  · intro key call carried present carries
    rw [built]
    rcases lookup_insert_cases calls present with ⟨-, rfl⟩ | ⟨-, before⟩
    · rw [settled.2.2] at carries
      cases carries
    · exact invariant.carried before carries
  · intro app registers
    rw [settled.1] at registers
    cases registers
  · intro app initialises
    rw [settled.2.1] at initialises
    cases initialises

end Store

/-- A fresh call which is over at once. -/
theorem settle (invariant : ManagerInvariant world)
    (replaces : world.Replaces after id new) (fresh : id ∉ world.calls)
    (settled : new.registers = none ∧ new.initialises = none ∧
      new.carries = none)
    (built : after.built = world.built) :
    ManagerInvariant after := by
  obtain ⟨registers, initialises, carries⟩ := settled
  refine invariant.replace replaces ?_
    (Call.fits_of_settled registers initialises) ?_ ?_ ?_
  · refine
      { registers := ?_
        initialises := ?_
        carries := ?_ }
    · intro appID claims
      rw [registers] at claims
      cases claims
    · intro appID claims
      rw [initialises] at claims
      cases claims
    · intro old client present
      exact (fresh (AList.lookup_isSome.mp
        (Option.isSome_of_eq_some present))).elim
  · intro client before
    rw [built]
    exact before
  · intro client later
    rw [built] at later
    exact Or.inl later
  · intro client claims
    rw [carries] at claims
    cases claims

/-- A call goes on which neither carried a client nor carries one now. -/
theorem proceed (invariant : ManagerInvariant world)
    (replaces : world.Replaces after id new) {old : Call}
    (current : world.calls.lookup id = some old)
    (succeeds : Succeeds old new) (fits : new.Fits world.manager)
    (built : after.built = world.built) :
    ManagerInvariant after := by
  refine invariant.replace replaces (succeeds.continues current) fits ?_ ?_ ?_
  · intro client before
    rw [built]
    exact before
  · intro client later
    rw [built] at later
    exact Or.inl later
  · intro client carries
    rw [succeeds.carriesNew] at carries
    cases carries

/-- `UnregisterApp`, while no initialisation relies on the application. -/
theorem unregisterApp (invariant : ManagerInvariant world) {appID : UUID}
    (undisturbed : (world.manager.clients.lookup appID).isNone = true ∨
      world.initialising appID = false) :
    ManagerInvariant (world.unregisterApp appID) := by
  cases kept : world.manager.clients.lookup appID with
  | none =>
      have unchanged : world.unregisterApp appID = world := by
        simp [World.unregisterApp, DefaultManager.unregisterApp, kept]
      rw [unchanged]
      exact invariant
  | some client =>
      rw [kept] at undisturbed
      have managed : (world.unregisterApp appID).manager =
          world.manager.remove appID := by
        simp only [World.unregisterApp, DefaultManager.unregisterApp, kept]
      have closed : (world.unregisterApp appID).closed =
          client :: world.closed := by
        simp only [World.unregisterApp, kept]
        rfl
      refine invariant.remove (fun other => other = appID)
        ?_ ?_ ?_ ?_ rfl rfl ?_
      · rintro other rfl
        rw [managed]
        exact ⟨AList.lookup_erase _ _, AList.lookup_erase _ _⟩
      · intro other different
        rw [managed]
        exact world.manager.sameAt_remove different
      · rintro other rfl
        rw [closed]
        exact ⟨client, kept, List.mem_cons_self⟩
      · rintro other rfl
        exact undisturbed.resolve_left (by simp)
      · intro other member
        rw [closed]
        exact List.mem_cons_of_mem client member

/-- `Close`, while no initialisation relies on an application with a client. -/
theorem close (invariant : ManagerInvariant world)
    (undisturbed : ∀ appID ∈ world.manager.clients.keys,
      world.initialising appID = false) :
    ManagerInvariant world.close := by
  refine invariant.remove (fun appID => appID ∈ world.manager.clients.keys)
    ?_ ?_ ?_ ?_ rfl rfl ?_
  · intro appID member
    exact DefaultManager.lookup_foldl_remove_of_mem world.manager member
  · intro appID notMember
    exact DefaultManager.sameAt_foldl_remove world.manager notMember
  · intro appID member
    obtain ⟨client, kept⟩ := Option.isSome_iff_exists.mp
      (AList.lookup_isSome.mpr (AList.mem_keys.mpr member))
    refine ⟨client, kept, List.mem_append_left _ ?_⟩
    exact List.mem_map_of_mem (mem_entries_iff.mpr kept)
  · intro appID member
    exact undisturbed appID member
  · intro client member
    exact List.mem_append_right _ member

/-- A registration stores its client. -/
theorem registerStores (invariant : ManagerInvariant world)
    {cfg : AppConfig} {appMu : Nat} {client : Client}
    (current : world.calls.lookup id =
      some (.registering cfg appMu (.built (.ok client)))) :
    ManagerInvariant
      { world with
        manager := world.manager.storeClient cfg.applicationID client
        calls :=
          world.calls.insert id (.registering cfg appMu .releasing) } := by
  obtain ⟨configured, -, absent, carried⟩ := invariant.fits current rfl
  cases carried client rfl
  refine invariant.store rfl rfl rfl rfl rfl rfl current rfl configured absent
    ?_ ⟨rfl, rfl, rfl⟩
  intro key call present different
  have alone := invariant.alone current rfl present
  refine ⟨fun registers => different (alone.1 registers), fun misses => ?_⟩
  obtain ⟨operation, other, otherMu, stage, rfl, outstanding, -⟩ :=
    Call.outstanding_of_misses misses
  exact alone.2 (if_pos outstanding)

/-- An initialisation stores its client. -/
theorem initStores (invariant : ManagerInvariant world)
    (mutexes : MutexInvariant world)
    {appID : UUID} {operation : Operation} {cfg : AppConfig} {appMu : Nat}
    {client : Client}
    (current : world.calls.lookup id =
      some (.initialising appID operation cfg appMu (.built (.ok client)))) :
    ManagerInvariant
      { world with
        manager := world.manager.storeLazily appID client
        calls :=
          world.calls.insert id
            (.initialising appID operation cfg appMu
              (.releasing (.ok client))) } := by
  obtain ⟨configured, mutex, absent, carried⟩ := invariant.fits current rfl
  cases carried client rfl
  refine invariant.store rfl rfl rfl rfl rfl rfl current rfl configured
    (absent rfl) ?_ ⟨rfl, rfl, rfl⟩
  intro key call present different
  constructor
  · intro registers
    exact (invariant.alone present registers current).2 rfl
  · -- Whoever has found the client absent holds the mutex this call holds.
    intro misses
    obtain ⟨otherOperation, other, otherMu, stage, rfl, outstanding, holds⟩ :=
      Call.outstanding_of_misses misses
    rw [(invariant.fits present outstanding).2.1] at mutex
    cases mutex
    exact different (mutexes.exclusive current rfl present holds)

/-- Every undisturbed step keeps maps, calls and clients together. -/
theorem step (invariant : ManagerInvariant world)
    (mutexes : MutexInvariant world) {label : Label}
    (undisturbed : world.undisturbed label = true)
    (taken : world.step label = some after) :
    ManagerInvariant after := by
  cases takes_of_step taken with
  | elapse =>
      exact ⟨invariant.configured, invariant.current, invariant.fits,
        invariant.carried, invariant.alone, invariant.accounted⟩
  | refused fresh normalised =>
      exact invariant.settle ⟨rfl, rfl, rfl, rfl, rfl⟩ fresh
        ⟨rfl, rfl, rfl⟩ rfl
  | registers fresh normalised =>
      have free := Bool.and_eq_true_iff.mp undisturbed
      have same := AppConfig.applicationID_normalise normalised
      rw [← same, Bool.not_eq_true', Bool.not_eq_true'] at free
      exact invariant.register fresh free.1 free.2
  | unregisters =>
      apply invariant.unregisterApp
      rw [← Bool.not_eq_true']
      exact Bool.or_eq_true_iff.mp undisturbed
  | closes =>
      apply invariant.close
      intro appID member
      rw [← Bool.not_eq_true']
      exact List.all_eq_true.mp undisturbed appID member
  | turnedAway fresh =>
      exact invariant.settle ⟨rfl, rfl, rfl, rfl, rfl⟩ fresh
        ⟨rfl, rfl, rfl⟩ rfl
  | found fresh configured present =>
      exact invariant.settle ⟨rfl, rfl, rfl, rfl, rfl⟩ fresh
        ⟨rfl, rfl, rfl⟩ rfl
  | initialises fresh configured absent mutex =>
      refine invariant.replace ⟨rfl, rfl, rfl, rfl, rfl⟩ ?_ ?_
        (fun member => member) Or.inl nofun
      · refine ⟨nofun, fun claims => ?_, fun present => ?_⟩
        · cases claims
          exact Or.inr ((Bool.not_eq_true' _).mp undisturbed)
        · exact (fresh (AList.lookup_isSome.mp
            (Option.isSome_of_eq_some present))).elim
      · intro _
        exact ⟨configured, mutex, nofun, nofun⟩
  | moves current moved labelled =>
      exact invariant.proceed ⟨rfl, rfl, rfl, rfl, rfl⟩ current
        moved.succeeds (moved.fits (invariant.fits current)) rfl
  | locks current locked free =>
      exact invariant.proceed ⟨rfl, rfl, rfl, rfl, rfl⟩ current
        locked.succeeds (locked.fits (invariant.fits current)) rfl
  | unlocks current unlocked =>
      exact invariant.proceed ⟨rfl, rfl, rfl, rfl, rfl⟩ current
        unlocked.succeeds unlocked.fits rfl
  | builds current built =>
      refine invariant.replace ⟨rfl, rfl, rfl, rfl, rfl⟩
        (built.continues current) (built.fits (invariant.fits current))
        ?_ ?_ ?_
      · intro client before
        exact List.mem_cons_of_mem _ before
      · intro client later
        rcases List.mem_cons.mp later with rfl | before
        · exact Or.inr built.carries
        · exact Or.inl before
      · intro client carries
        cases carries.symm.trans built.carries
        exact List.mem_cons_self
  | fails current failed =>
      exact invariant.proceed ⟨rfl, rfl, rfl, rfl, rfl⟩ current
        failed.succeeds failed.fits rfl
  | registerStores current => exact invariant.registerStores current
  | initStores current => exact invariant.initStores mutexes current
  | sends current permitted =>
      exact invariant.proceed ⟨rfl, rfl, rfl, rfl, rfl⟩ current
        ⟨nofun, nofun, rfl, rfl⟩ trivial rfl

end ManagerInvariant

/-! ## What has been returned and sent -/

/-- The client a call has in hand is the one of its configuration. -/
def Call.Honest : Call → Prop
  | .initialising _ _ cfg _ (.releasing (.ok client)) => client.config = cfg
  | .operating _ client cfg => client.config = cfg
  | _ => True

/-- Clients in hand, returned and used. -/
structure HistoryInvariant (world : World) : Prop where
  honest : ∀ {id call}, world.calls.lookup id = some call → call.Honest
  returned : ∀ {client cfg}, (client, cfg) ∈ world.returned →
    client.config = cfg
  sent : ∀ {client operation}, (client, operation) ∈ world.sent →
    operation.mutates = true → client.config.mode = .readWrite

theorem historyInvariant_initial : HistoryInvariant World.initial := by
  constructor <;> simp [World.initial]

/-- A client found under the mutex is the one of the configuration. -/
theorem Moves.honest {world : World} {old new : Call}
    (managed : ManagerInvariant world)
    {id : Nat} (current : world.calls.lookup id = some old)
    (moved : Moves world old new) : new.Honest := by
  cases moved with
  | finds present =>
      have configured := (managed.fits current rfl).1
      cases (managed.current present).2.symm.trans configured
      rfl
  | _ => trivial

namespace HistoryInvariant

variable {world after : World}

/-- A call may go on with any client of its configuration. -/
theorem replace (invariant : HistoryInvariant world) {id : Nat} {new : Call}
    (calls : after.calls = world.calls.insert id new) (honest : new.Honest)
    (returned : ∀ {client cfg}, (client, cfg) ∈ after.returned →
      (client, cfg) ∈ world.returned ∨ client.config = cfg)
    (sent : ∀ {client operation}, (client, operation) ∈ after.sent →
      (client, operation) ∈ world.sent ∨
        (operation.mutates = true → client.config.mode = .readWrite)) :
    HistoryInvariant after := by
  refine
    { honest := ?_
      returned := ?_
      sent := ?_ }
  · intro key call present
    rcases lookup_insert_cases calls present with ⟨-, rfl⟩ | ⟨-, before⟩
    · exact honest
    · exact invariant.honest before
  · intro client cfg member
    rcases returned member with before | own
    · exact invariant.returned before
    · exact own
  · intro client operation member
    rcases sent member with before | permitted
    · exact invariant.sent before
    · exact permitted

theorem step (invariant : HistoryInvariant world)
    (managed : ManagerInvariant world) {label : Label}
    (taken : world.step label = some after) : HistoryInvariant after := by
  cases takes_of_step taken with
  | elapse => exact ⟨invariant.honest, invariant.returned, invariant.sent⟩
  | refused fresh normalised =>
      exact invariant.replace rfl trivial Or.inl Or.inl
  | registers fresh normalised =>
      exact invariant.replace rfl trivial Or.inl Or.inl
  | unregisters => exact ⟨invariant.honest, invariant.returned, invariant.sent⟩
  | closes => exact ⟨invariant.honest, invariant.returned, invariant.sent⟩
  | turnedAway fresh => exact invariant.replace rfl trivial Or.inl Or.inl
  | found fresh configured present =>
      cases (managed.current present).2.symm.trans configured
      refine invariant.replace rfl rfl ?_ Or.inl
      intro client cfg member
      rcases List.mem_cons.mp member with same | before
      · cases same
        exact Or.inr rfl
      · exact Or.inl before
  | initialises fresh configured absent mutex =>
      exact invariant.replace rfl trivial Or.inl Or.inl
  | moves current moved labelled =>
      exact invariant.replace rfl (Moves.honest managed current moved)
        Or.inl Or.inl
  | locks current locked free =>
      refine invariant.replace rfl ?_ Or.inl Or.inl
      cases locked <;> trivial
  | unlocks current unlocked =>
      have honest := invariant.honest current
      cases unlocked with
      | register => exact invariant.replace rfl trivial Or.inl Or.inl
      | init =>
          refine invariant.replace rfl honest ?_ Or.inl
          intro client cfg member
          rcases List.mem_cons.mp member with same | before
          · cases same
            exact Or.inr honest
          · exact Or.inl before
      | initFails => exact invariant.replace rfl trivial Or.inl Or.inl
  | builds current built =>
      refine invariant.replace rfl ?_ Or.inl Or.inl
      cases built <;> trivial
  | fails current failed =>
      refine invariant.replace rfl ?_ Or.inl Or.inl
      cases failed <;> trivial
  | registerStores current =>
      exact invariant.replace rfl trivial Or.inl Or.inl
  | initStores current =>
      obtain ⟨-, -, -, carried⟩ := managed.fits current rfl
      exact invariant.replace rfl (carried _ rfl) Or.inl Or.inl
  | sends current permitted =>
      have honest := invariant.honest current
      refine invariant.replace rfl trivial Or.inl ?_
      intro client operation member
      rcases List.mem_cons.mp member with same | before
      · cases same
        refine Or.inr fun mutates => ?_
        rw [show _ = _ from honest]
        exact permitted mutates
      · exact Or.inl before

end HistoryInvariant

/-! ## Coherence -/

/-- An outstanding or carrying call is a call under way. -/
theorem World.Quiescent.carries_ne {world : World} {client : Client}
    (invariant : ManagerInvariant world)
    (quiescent : world.Quiescent client.config.applicationID)
    {id : Nat} {call : Call} (present : world.calls.lookup id = some call) :
    call.carries ≠ some client := by
  intro carries
  have idle := quiescent id call present
  have fits := invariant.fits present
  rcases call with
    ⟨cfg, appMu, _ | _ | (_ | _) | _⟩ |
    ⟨appID, operation, cfg, appMu, _ | _ | _ | _ | _ | (_ | _) | _⟩ | _ | _ |
      _ | _ <;> try cases carries
  · obtain ⟨-, -, -, carried⟩ := fits rfl
    rw [carried _ rfl] at idle
    exact idle rfl
  · obtain ⟨configured, -, -, carried⟩ := fits rfl
    rw [carried _ rfl, invariant.configured configured] at idle
    exact idle rfl

/-- The three invariants make the manager coherent. -/
theorem ManagerInvariant.coherent {world : World}
    (invariant : ManagerInvariant world) (history : HistoryInvariant world) :
    world.Coherent where
  quiescent := by
    intro appID quiescent
    refine ⟨invariant.current, ?_⟩
    rintro client isBuilt rfl notKept
    rcases invariant.accounted isBuilt with closed | kept | carrier
    · exact closed
    · exact (notKept kept).elim
    · obtain ⟨id, call, present, carries⟩ := carrier
      exact (quiescent.carries_ne invariant present carries).elim
  returned := history.returned
  sent := history.sent

/--
In every run in which no registration overlaps another call for its
application and no client is removed while an initialisation for its
application is outstanding, the manager is coherent.
-/
theorem coherent_of_undisturbed {labels : List Label} {world : World}
    (guarded : GuardedRun World.step
      (fun before label => before.undisturbed label = true)
      World.initial labels world) :
    world.Coherent := by
  have invariant :=
    guarded.invariant
      (fun state => MutexInvariant state ∧ ManagerInvariant state ∧
        HistoryInvariant state)
      (fun undisturbed taken before =>
        ⟨before.1.step taken, before.2.1.step before.1 undisturbed taken,
          before.2.2.step before.2.1 taken⟩)
      ⟨mutexInvariant_initial, managerInvariant_initial,
        historyInvariant_initial⟩
  exact invariant.2.1.coherent invariant.2.2

/-- A registration, and a cancellation afterwards. -/
def registersThenCancels : List Label :=
  [.registerApp 0 (ordersConfig .readWrite), .proceed 0, .factory 0 (.ok ()),
    .proceed 0, .proceed 0, .call 1 ⟨7⟩ (.dispatch .cancel), .proceed 1]

theorem coherent_registersThenCancels :
    ∃ world, run World.step World.initial registersThenCancels = some world ∧
      world.sent = [(⟨0, ordersConfig .readWrite⟩, .dispatch .cancel)] ∧
        world.Coherent := by
  have reached :
      (runGuarded World.step
          (fun before label => before.undisturbed label = true)
          World.initial registersThenCancels).map World.sent =
        some [(⟨0, ordersConfig .readWrite⟩, .dispatch .cancel)] := by
    decide
  obtain ⟨world, taken, sent⟩ := Option.map_eq_some_iff.mp reached
  have guarded := guardedRun_of_runGuarded taken
  exact ⟨world, guarded.run_eq, sent, coherent_of_undisturbed guarded⟩

/--
A cancellation finds the application configured for writing and without a
client; before it gets the mutex, the application is registered for reading.
-/
def reregistersMeanwhile : List Label :=
  [.registerApp 0 (ordersConfig .readWrite), .proceed 0,
    .factory 0 (.error "connection refused"), .proceed 0, .proceed 0,
    .elapse 6000000000,
    .call 1 ⟨7⟩ (.dispatch .cancel), .proceed 1,
    .registerApp 2 (ordersConfig .read), .proceed 2, .factory 2 (.ok ()),
    .proceed 2, .proceed 2,
    .proceed 1, .proceed 1, .proceed 1, .proceed 1]

/-- The cancellation goes through the client of the read-only configuration. -/
theorem reregistersMeanwhile_incoherent :
    ¬∀ labels world, run World.step World.initial labels = some world →
      world.Coherent := by
  intro always
  have reached :
      (run World.step World.initial reregistersMeanwhile).map World.sent =
        some [(⟨0, ordersConfig .read⟩, .dispatch .cancel)] := by
    decide
  obtain ⟨world, taken, sent⟩ := Option.map_eq_some_iff.mp reached
  have coherent := always reregistersMeanwhile world taken
  have member : ((⟨0, ordersConfig .read⟩ : Client),
      Operation.dispatch .cancel) ∈ world.sent := by
    rw [sent]
    exact List.mem_singleton_self _
  exact absurd (coherent.sent member rfl) (by decide)

end DbosRelay.DataPlane
