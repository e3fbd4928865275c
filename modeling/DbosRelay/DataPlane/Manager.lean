import DbosRelay.Library.Runs
import DbosRelay.Library.Tables
import DbosRelay.Router.Dispatch

/-!
# The data-plane manager

`DefaultManager` of `internal/dataplane/manager.go`: four maps under one lock,
and one mutex per application under which clients are built.  `RegisterApp` and
`getOrInitClient` take and release both several times; between two of their
critical sections any other call may run.  A call is therefore a program
counter, and a label lets one call execute its next section.

The client factory lies outside: a label says whether it returns a client.
Every client carries the configuration it was built from, and the world keeps
which clients have been built and which have been closed.
-/

namespace DbosRelay.DataPlane

open DbosRelay.Basic
open DbosRelay.Library.Runs
open DbosRelay.Library.Tables
open DbosRelay.Protocol
open DbosRelay.Router

/-! ## Configuration -/

/-- `Mode`; a string in the source, and `RegisterApp` accepts any. -/
inductive Mode where
  | unset
  | read
  | readWrite
  | other (name : String)
deriving DecidableEq, Repr

/-- The value of an `Integration` field; only the known values are valid. -/
inductive IntegrationName where
  | unset
  | known (integration : Integration)
  | other (name : String)
deriving DecidableEq, Repr

/-- `AppConfig`, without its logger. -/
structure AppConfig where
  applicationID : UUID
  applicationName : String
  databaseURL : String
  mode : Mode
  integration : IntegrationName
  maxConnections : Int
  statementTimeout : Duration
deriving DecidableEq, Repr

/-- What `RegisterApp` returns instead of registering. -/
inductive RegisterError where
  | databaseURLRequired
  | invalidIntegration (name : String)
deriving DecidableEq, Repr

/-- The mode an empty one stands for. -/
def Mode.orRead : Mode → Mode
  | .unset => .read
  | mode => mode

/-- The integration an empty one stands for. -/
def IntegrationName.orHybrid : IntegrationName → IntegrationName
  | .unset => .known .hybrid
  | integration => integration

/-- The part of `RegisterApp` before its first lock: checks and defaults. -/
def AppConfig.normalise (cfg : AppConfig) : Except RegisterError AppConfig :=
  if cfg.databaseURL = "" then .error .databaseURLRequired
  else
    match cfg.integration.orHybrid with
    | .other name => .error (.invalidIntegration name)
    | integration =>
        .ok
          { cfg with
            mode := cfg.mode.orRead
            integration := integration
            maxConnections :=
              if cfg.maxConnections ≤ 0 then 5 else cfg.maxConnections
            statementTimeout :=
              if cfg.statementTimeout ≤ 0 then 5 * second
              else cfg.statementTimeout }

/-- The defaults leave the application alone. -/
theorem AppConfig.applicationID_normalise {cfg normal : AppConfig}
    (normalised : cfg.normalise = .ok normal) :
    normal.applicationID = cfg.applicationID := by
  unfold AppConfig.normalise at normalised
  by_cases noURL : cfg.databaseURL = ""
  · rw [if_pos noURL] at normalised
    cases normalised
  · rw [if_neg noURL] at normalised
    split at normalised
    · cases normalised
    · cases normalised
      rfl

/-! ## The maps -/

/-- A client, and the configuration the factory built it from. -/
structure Client where
  serial : Nat
  config : AppConfig
deriving DecidableEq, Repr

/-- `DefaultManager`, without its factory and logger. -/
structure DefaultManager where
  clients : Table UUID Client
  configs : Table UUID AppConfig
  /-- Mutexes are pointers; a number stands for the one it points to. -/
  initMu : Table UUID Nat
  lastInitErr : Table UUID Time

/-- `NewManager`. -/
def newManager : DefaultManager where
  clients := ∅
  configs := ∅
  initMu := ∅
  lastInitErr := ∅

/-- `initBackoff`. -/
def initBackoff : Duration := 5 * second

namespace DefaultManager

/-- `HasDataPlane`. -/
def hasDataPlane (manager : DefaultManager) (appID : UUID) : Bool :=
  (manager.configs.lookup appID).isSome

/-- `GetMode`. -/
def getMode (manager : DefaultManager) (appID : UUID) : Option Mode :=
  (manager.configs.lookup appID).map AppConfig.mode

/-- `GetIntegration`. -/
def getIntegration (manager : DefaultManager) (appID : UUID) :
    Option IntegrationName :=
  (manager.configs.lookup appID).map fun cfg => cfg.integration.orHybrid

/-- `m.lastInitErr[appID]`, the zero time where there is none. -/
def lastErr (manager : DefaultManager) (appID : UUID) : Time :=
  (manager.lastInitErr.lookup appID).getD zeroTime

/--
The first critical section of `RegisterApp`; `fresh` is the mutex it would
allocate.
-/
def register (manager : DefaultManager) (cfg : AppConfig) (fresh : Nat) :
    DefaultManager where
  clients := manager.clients.erase cfg.applicationID
  configs := manager.configs.insert cfg.applicationID cfg
  initMu :=
    manager.initMu.insert cfg.applicationID
      ((manager.initMu.lookup cfg.applicationID).getD fresh)
  lastInitErr := manager.lastInitErr.erase cfg.applicationID

/-- Everything recorded for an application is deleted. -/
def remove (manager : DefaultManager) (appID : UUID) : DefaultManager where
  clients := manager.clients.erase appID
  configs := manager.configs.erase appID
  initMu := manager.initMu.erase appID
  lastInitErr := manager.lastInitErr.erase appID

/-- `UnregisterApp`. -/
def unregisterApp (manager : DefaultManager) (appID : UUID) : DefaultManager :=
  match manager.clients.lookup appID with
  | some _ => manager.remove appID
  | none => manager

/-- `Close`: a loop over the clients. -/
def close (manager : DefaultManager) : DefaultManager :=
  manager.clients.keys.foldl remove manager

/-- The section of `RegisterApp` after a successful build. -/
def storeClient (manager : DefaultManager) (appID : UUID) (client : Client) :
    DefaultManager :=
  { manager with clients := manager.clients.insert appID client }

/-- The section of `getOrInitClient` after a successful build. -/
def storeLazily (manager : DefaultManager) (appID : UUID) (client : Client) :
    DefaultManager :=
  { manager with
    clients := manager.clients.insert appID client
    lastInitErr := manager.lastInitErr.erase appID }

/-- The section of either after a failed build. -/
def storeFailure (manager : DefaultManager) (appID : UUID) (now : Time) :
    DefaultManager :=
  { manager with lastInitErr := manager.lastInitErr.insert appID now }

end DefaultManager

/-- Two managers agree about an application. -/
def DefaultManager.SameAt (manager other : DefaultManager) (appID : UUID) :
    Prop :=
  other.configs.lookup appID = manager.configs.lookup appID ∧
    other.initMu.lookup appID = manager.initMu.lookup appID ∧
      other.clients.lookup appID = manager.clients.lookup appID

namespace DefaultManager

theorem sameAt_remove (manager : DefaultManager) {appID other : UUID}
    (different : other ≠ appID) :
    manager.SameAt (manager.remove appID) other :=
  ⟨AList.lookup_erase_ne different, AList.lookup_erase_ne different,
    AList.lookup_erase_ne different⟩

/-- Removals leave the other applications alone. -/
theorem sameAt_foldl_remove (manager : DefaultManager) {apps : List UUID}
    {other : UUID} (notMember : other ∉ apps) :
    manager.SameAt (apps.foldl remove manager) other := by
  induction apps generalizing manager with
  | nil => exact ⟨rfl, rfl, rfl⟩
  | cons appID apps induction =>
      rw [List.mem_cons, not_or] at notMember
      have first := manager.sameAt_remove notMember.1
      have rest := induction (manager.remove appID) notMember.2
      exact ⟨rest.1.trans first.1, rest.2.1.trans first.2.1,
        rest.2.2.trans first.2.2⟩

/-- What has been removed stays removed. -/
theorem lookup_foldl_remove_of_mem (manager : DefaultManager)
    {apps : List UUID} {appID : UUID} (member : appID ∈ apps) :
    (apps.foldl remove manager).configs.lookup appID = none ∧
      (apps.foldl remove manager).clients.lookup appID = none := by
  induction apps generalizing manager with
  | nil => cases member
  | cons first apps induction =>
      by_cases again : appID ∈ apps
      · exact induction (manager.remove first) again
      · have same : appID = first :=
          (List.mem_cons.mp member).resolve_right again
        subst same
        obtain ⟨configs, -, clients⟩ :=
          sameAt_foldl_remove (manager.remove appID) again
        rw [List.foldl_cons, configs, clients]
        exact ⟨AList.lookup_erase _ _, AList.lookup_erase _ _⟩

end DefaultManager

/-! ## Calls -/

/-- What an operation of the manager returns when it reaches no client. -/
inductive ManagerError where
  | noDataPlaneConfigured
  | notProperlyRegistered
  | backoffActive
  | initFailed (cause : String)
  | readOnlyMode
deriving DecidableEq, Repr

/-- `Error`. -/
def ManagerError.text : ManagerError → String
  | .noDataPlaneConfigured => "no data-plane configured for application"
  | .notProperlyRegistered => "application not properly registered"
  | .backoffActive => "failed to initialize data-plane client: backoff active"
  | .initFailed cause => "failed to initialize data-plane client: " ++ cause
  | .readOnlyMode => "data-plane is in read-only mode"

/-- The operations which start with `getOrInitClient`. -/
inductive Operation where
  | dispatch (messageType : MessageType)
  | getEvent
  | enqueue
  | send
  | recover
  | hasPendingWorkflows
deriving DecidableEq, Repr

/-- The operation is checked against the mode. -/
def Operation.mutates : Operation → Bool
  | .dispatch messageType => isMutating messageType
  | .getEvent => false
  | .enqueue => true
  | .send => true
  | .recover => true
  | .hasPendingWorkflows => false

/-- How far a call of `RegisterApp` is after its first section. -/
inductive RegisterStage where
  | waiting
  | building
  | built (outcome : Except String Client)
  | releasing
deriving DecidableEq

/-- How far a call of `getOrInitClient` is after its first section. -/
inductive InitStage where
  | backingOff (lastErr : Time)
  | waiting
  | rechecking
  | backingOffAgain (lastErr : Time)
  | building
  | built (outcome : Except String Client)
  | releasing (result : Except ManagerError Client)
deriving DecidableEq

/-- A call under way, or one which has returned. -/
inductive Call where
  | registering (cfg : AppConfig) (appMu : Nat) (stage : RegisterStage)
  | initialising (appID : UUID) (operation : Operation) (cfg : AppConfig)
      (appMu : Nat) (stage : InitStage)
  | operating (operation : Operation) (client : Client) (cfg : AppConfig)
  | refused (error : RegisterError)
  | failed (error : ManagerError)
  | finished
deriving DecidableEq

/-! ## The world -/

/-- The manager among the calls made to it. -/
structure World where
  now : Time
  manager : DefaultManager
  calls : Table Nat Call
  /-- How many mutexes have been allocated. -/
  mutexes : Nat
  locked : List Nat
  /-- What the factory has built. -/
  built : List Client
  closed : List Client
  /-- What calls of `getOrInitClient` have returned without an error. -/
  returned : List (Client × AppConfig)
  /-- What has been handed to which client. -/
  sent : List (Client × Operation)

/-- A fresh manager at time zero. -/
def World.initial : World where
  now := 0
  manager := newManager
  calls := ∅
  mutexes := 0
  locked := []
  built := []
  closed := []
  returned := []
  sent := []

/-- One atomic step. -/
inductive Label where
  | elapse (duration : Nat)
  | registerApp (id : Nat) (cfg : AppConfig)
  | unregisterApp (appID : UUID)
  | close
  | call (id : Nat) (appID : UUID) (operation : Operation)
  | proceed (id : Nat)
  | factory (id : Nat) (outcome : Except String Unit)
deriving DecidableEq

namespace World

/-- A call gets to its next program counter. -/
def setCall (world : World) (id : Nat) (call : Call) : World :=
  { world with calls := world.calls.insert id call }

/-- `RegisterApp` up to the end of its first section. -/
def registerApp (world : World) (id : Nat) (cfg : AppConfig) : World :=
  match cfg.normalise with
  | .error error => world.setCall id (.refused error)
  | .ok cfg =>
      let appMu :=
        (world.manager.initMu.lookup cfg.applicationID).getD world.mutexes
      { world with
        manager := world.manager.register cfg world.mutexes
        calls := world.calls.insert id (.registering cfg appMu .waiting)
        mutexes := world.mutexes + 1
        closed :=
          (world.manager.clients.lookup cfg.applicationID).toList ++
            world.closed }

/-- `UnregisterApp`. -/
def unregisterApp (world : World) (appID : UUID) : World :=
  { world with
    manager := world.manager.unregisterApp appID
    closed := (world.manager.clients.lookup appID).toList ++ world.closed }

/-- `Close`. -/
def close (world : World) : World :=
  { world with
    manager := world.manager.close
    closed :=
      world.manager.clients.entries.map (fun entry => entry.2) ++
        world.closed }

/-- The first section of `getOrInitClient`. -/
def lookUpClient (world : World) (id : Nat) (appID : UUID)
    (operation : Operation) : World :=
  match world.manager.configs.lookup appID with
  | none => world.setCall id (.failed .noDataPlaneConfigured)
  | some cfg =>
      match world.manager.clients.lookup appID with
      | some client =>
          { world with
            calls := world.calls.insert id (.operating operation client cfg)
            returned := (client, cfg) :: world.returned }
      | none =>
          match world.manager.initMu.lookup appID with
          | none => world.setCall id (.failed .notProperlyRegistered)
          | some appMu =>
              world.setCall id
                (.initialising appID operation cfg appMu
                  (.backingOff (world.manager.lastErr appID)))

/-- `time.Since(lastErr) < initBackoff`. -/
def inBackoff (world : World) (lastErr : Time) : Bool :=
  timeSub world.now lastErr < initBackoff

/-- A free mutex is taken. -/
def lock (world : World) (appMu id : Nat) (call : Call) : Option World :=
  if appMu ∈ world.locked then none
  else
    some
      { world with
        calls := world.calls.insert id call
        locked := appMu :: world.locked }

/-- The deferred unlock, and with it the return of the call. -/
def unlock (world : World) (appMu id : Nat) (call : Call) : World :=
  { world with
    calls := world.calls.insert id call
    locked := world.locked.filter (· ≠ appMu) }

/-- `RegisterApp` after its first section, but for the factory. -/
def proceedRegister (world : World) (id : Nat) (cfg : AppConfig)
    (appMu : Nat) : RegisterStage → Option World
  | .waiting => world.lock appMu id (.registering cfg appMu .building)
  | .building => none
  | .built (.ok client) =>
      some
        { world with
          manager := world.manager.storeClient cfg.applicationID client
          calls := world.calls.insert id (.registering cfg appMu .releasing) }
  | .built (.error _) =>
      some
        { world with
          manager := world.manager.storeFailure cfg.applicationID world.now
          calls := world.calls.insert id (.registering cfg appMu .releasing) }
  | .releasing => some (world.unlock appMu id .finished)

/-- `getOrInitClient` after its first section, but for the factory. -/
def proceedInit (world : World) (id : Nat) (appID : UUID)
    (operation : Operation) (cfg : AppConfig) (appMu : Nat) :
    InitStage → Option World
  | .backingOff lastErr =>
      if world.inBackoff lastErr then
        some (world.setCall id (.failed .backoffActive))
      else
        some
          (world.setCall id
            (.initialising appID operation cfg appMu .waiting))
  | .waiting =>
      world.lock appMu id (.initialising appID operation cfg appMu .rechecking)
  | .rechecking =>
      match world.manager.clients.lookup appID with
      | some client =>
          some
            (world.setCall id
              (.initialising appID operation cfg appMu
                (.releasing (.ok client))))
      | none =>
          some
            (world.setCall id
              (.initialising appID operation cfg appMu
                (.backingOffAgain (world.manager.lastErr appID))))
  | .backingOffAgain lastErr =>
      if world.inBackoff lastErr then
        some
          (world.setCall id
            (.initialising appID operation cfg appMu
              (.releasing (.error .backoffActive))))
      else
        some
          (world.setCall id
            (.initialising appID operation cfg appMu .building))
  | .building => none
  | .built (.ok client) =>
      some
        { world with
          manager := world.manager.storeLazily appID client
          calls :=
            world.calls.insert id
              (.initialising appID operation cfg appMu
                (.releasing (.ok client))) }
  | .built (.error cause) =>
      some
        { world with
          manager := world.manager.storeFailure appID world.now
          calls :=
            world.calls.insert id
              (.initialising appID operation cfg appMu
                (.releasing (.error (.initFailed cause)))) }
  | .releasing (.ok client) =>
      some
        { world.unlock appMu id (.operating operation client cfg) with
          returned := (client, cfg) :: world.returned }
  | .releasing (.error error) =>
      some (world.unlock appMu id (.failed error))

/-- The check of the mode, and the call of the client. -/
def operate (world : World) (id : Nat) (operation : Operation)
    (client : Client) (cfg : AppConfig) : World :=
  if operation.mutates && cfg.mode ≠ .readWrite then
    world.setCall id (.failed .readOnlyMode)
  else
    { world with
      calls := world.calls.insert id .finished
      sent := (client, operation) :: world.sent }

/-- The factory returns. -/
def factory (world : World) (id : Nat) (cfg : AppConfig)
    (stage : Except String Client → Call) : Except String Unit → World
  | .ok () =>
      let client : Client := ⟨world.built.length, cfg⟩
      { world with
        calls := world.calls.insert id (stage (.ok client))
        built := client :: world.built }
  | .error cause => world.setCall id (stage (.error cause))

/-- The step a label stands for. -/
def step (world : World) : Label → Option World
  | .elapse duration => some { world with now := world.now + duration }
  | .registerApp id cfg =>
      if id ∈ world.calls then none else some (world.registerApp id cfg)
  | .unregisterApp appID => some (world.unregisterApp appID)
  | .close => some world.close
  | .call id appID operation =>
      if id ∈ world.calls then none
      else some (world.lookUpClient id appID operation)
  | .proceed id =>
      match world.calls.lookup id with
      | some (.registering cfg appMu stage) =>
          world.proceedRegister id cfg appMu stage
      | some (.initialising appID operation cfg appMu stage) =>
          world.proceedInit id appID operation cfg appMu stage
      | some (.operating operation client cfg) =>
          some (world.operate id operation client cfg)
      | _ => none
  | .factory id outcome =>
      match world.calls.lookup id with
      | some (.registering cfg appMu .building) =>
          some
            (world.factory id cfg
              (fun built => .registering cfg appMu (.built built)) outcome)
      | some (.initialising appID operation cfg appMu .building) =>
          some
            (world.factory id cfg
              (fun built =>
                .initialising appID operation cfg appMu (.built built)) outcome)
      | _ => none

end World

/-- A data plane for one application. -/
def ordersConfig (mode : Mode) : AppConfig where
  applicationID := ⟨7⟩
  applicationName := "orders"
  databaseURL := "postgres://db/orders"
  mode := mode
  integration := .known .direct
  maxConnections := 5
  statementTimeout := 5 * second

end DbosRelay.DataPlane
