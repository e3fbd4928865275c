import DbosRelay.Hub.Dispatch

/-!
# Routing a message

`DefaultRouter.Dispatch` of `internal/router/router.go`: the system database in
Direct mode, the local executors, the executors of up to three peer instances,
and the database once more as the fallback of hybrid mode.  The store, the
clock, the peers and the data plane answer from outside; every answer which
leaves open whether the message has been applied says so.
-/

namespace DbosRelay.Router

open DbosRelay.Basic
open DbosRelay.Hub
open DbosRelay.Protocol

/-! ## Errors -/

/-- The error values of the router; `Dispatch` wraps some of them. -/
inductive Sentinel where
  | orgNotFound
  | appNotFound
  | noLiveExecutor
  | executorTimeout
  | executorError
  | operationUnsupported
  | storeUnavailable
  | dataPlaneUnavailable
  | eventNotFound
  | readOnlyMode
deriving DecidableEq, Repr

/-- `Error`; the last one belongs to the data plane. -/
def Sentinel.text : Sentinel → String
  | .orgNotFound => "organisation not found"
  | .appNotFound => "application not found"
  | .noLiveExecutor => "no live executor connected"
  | .executorTimeout => "executor request timed out"
  | .executorError => "executor returned an error"
  | .operationUnsupported => "operation not supported"
  | .storeUnavailable => "store unavailable"
  | .dataPlaneUnavailable => "data-plane unavailable"
  | .eventNotFound => "workflow event not found"
  | .readOnlyMode => "data-plane is in read-only mode"

/-- What the router returns instead of a message. -/
inductive RouterError where
  | wrapped (sentinel : Sentinel) (detail : String)
  | passed (error : GoError)
deriving DecidableEq, Repr

/-- `Error`. -/
def RouterError.text : RouterError → String
  | .wrapped sentinel detail => sentinel.text ++ ": " ++ detail
  | .passed error => error.text

/-! ## The application -/

/-- How a lookup in the store fails. -/
inductive StoreError where
  | noRows
  | failed (text : String)
deriving DecidableEq, Repr

/-- The two lookups of an `AppResolver`. -/
structure AppResolver where
  getOrganisationByName : String → Except StoreError UUID
  getApplicationByName : UUID → String → Except StoreError UUID

/-- The organisation of a name; `local` and `default` stand in for each other. -/
def AppResolver.organisation (store : AppResolver) (orgName : String) :
    Except StoreError UUID :=
  match store.getOrganisationByName orgName with
  | .error .noRows =>
      if orgName = "local" then store.getOrganisationByName "default"
      else if orgName = "default" then store.getOrganisationByName "local"
      else .error .noRows
  | found => found

/-- `resolveApplication`. -/
def resolveApplication (store : AppResolver) (orgName appName : String) :
    Except RouterError UUID :=
  let orgName := if orgName = "" then "local" else orgName
  match store.organisation orgName with
  | .error .noRows => .error (.wrapped .orgNotFound orgName)
  | .error (.failed text) => .error (.wrapped .storeUnavailable text)
  | .ok org =>
      match store.getApplicationByName org appName with
      | .error .noRows => .error (.wrapped .appNotFound appName)
      | .error (.failed text) => .error (.wrapped .storeUnavailable text)
      | .ok app => .ok app

/-! ## The data plane -/

/-- `Integration`; the manager registers no other value. -/
inductive Integration where
  | hybrid
  | direct
  | attached
deriving DecidableEq, Repr

/--
An error of the data plane.  A read-only or unsupported operation is refused
before anything is executed.
-/
inductive DataPlaneError where
  | readOnlyMode (text : String)
  | unsupportedOperation (text : String)
  | failed (error : GoError) (mayHaveApplied : Bool)
deriving DecidableEq, Repr

/-- `Error`. -/
def DataPlaneError.text : DataPlaneError → String
  | .readOnlyMode text => text
  | .unsupportedOperation text => text
  | .failed error _ => error.text

/-- A call of the data plane's `Dispatch`. -/
abbrev DataPlaneOutcome := Except DataPlaneError Message

/-- The hand-off to the database. -/
def DataPlaneOutcome.handOff : DataPlaneOutcome → HandOff
  | .ok _ => ⟨.database, true⟩
  | .error (.failed _ mayHaveApplied) => ⟨.database, mayHaveApplied⟩
  | .error _ => ⟨.database, false⟩

/-- `isDataPlaneNotFound`. -/
def isDataPlaneNotFound (error : DataPlaneError) : Bool :=
  occursIn (toLower error.text) "not found"

/-- The empty response for a missing record. -/
def emptyResponse (msg : Message) : Message :=
  { msg with content := [] }

/-- `dataPlaneFailure`. -/
def dataPlaneFailure (msg : Message) (error : DataPlaneError) :
    Except RouterError Message :=
  match error with
  | .unsupportedOperation text =>
      if nonDatabaseReason msg.messageType ≠ "" then
        .error
          (.wrapped .noLiveExecutor (nonDatabaseReason msg.messageType))
      else .error (.wrapped .noLiveExecutor text)
  | .readOnlyMode text => .error (.wrapped .readOnlyMode text)
  | .failed cause mayHaveApplied =>
      if isDataPlaneNotFound (.failed cause mayHaveApplied) ∧
          (msg.messageType = .getWorkflow ∨ msg.messageType = .getSchedule ∨
            msg.messageType = .getQueue) then
        .ok (emptyResponse msg)
      else if cause.deadlineExceeded ∨
          occursIn (toLower cause.text) "timed out" then
        .error
          (.wrapped .executorTimeout
            ("data-plane statement timeout: " ++ cause.text))
      else
        .error
          (.wrapped .dataPlaneUnavailable
            ("data-plane fallback failed: " ++ cause.text))

/-! ## Peers -/

/-- The columns of an instance the router reads. -/
structure PeerInstance where
  advertiseAddress : String
  port : Int
  heartbeatAt : Option Time
deriving DecidableEq, Repr

/-- What becomes of a forward. -/
inductive ForwardOutcome where
  | answers (response : Message)
  | fails (mayHaveApplied : Bool)
deriving DecidableEq, Repr

/--
A connected executor in the listing, and what the router meets when its turn
comes: the state of its context, its clock, the instance lookup, the time left
and the forward itself.
-/
structure PeerRow where
  ownerInstanceID : Option UUID
  leaseExpiresAt : Option Time
  ctxDone : Bool
  now : Time
  inst : Option PeerInstance
  checkedAt : Time
  remaining : Option Duration
  forward : ForwardOutcome
deriving DecidableEq, Repr

/-- `maxPeerForwards`. -/
def maxPeerForwards : Nat := 3

/-- The lease has run out. -/
def PeerRow.leaseExpired (row : PeerRow) : Bool :=
  match row.leaseExpiresAt with
  | some lease => lease < row.now
  | none => false

/-- The instance can be addressed and has sent a heartbeat within two minutes. -/
def PeerInstance.reachable (inst : PeerInstance) (now : Time) : Bool :=
  inst.advertiseAddress ≠ "" && 0 < inst.port &&
    match inst.heartbeatAt with
    | some heartbeat => timeSub now heartbeat ≤ 120 * second
    | none => true

/-- The timeout of one forward. -/
def PeerRow.forwardTimeout (row : PeerRow) : Duration :=
  match row.remaining with
  | some remaining => min remaining (5 * second)
  | none => 5 * second

/-- `%s` of an identifier. -/
def uuidText (id : UUID) : String :=
  String.ofList
    ((List.range 32).flatMap fun index =>
      let nibble := id.bytes.toNat / 16 ^ (31 - index) % 16
      let digit := Nat.digitChar nibble
      if index = 8 ∨ index = 12 ∨ index = 16 ∨ index = 20 then ['-', digit]
      else [digit])

/-- The URL a forward is sent to. -/
def targetURL (peerScheme : String) (inst : PeerInstance) (appID : UUID) :
    String :=
  let address := inst.advertiseAddress.toList
  let schemeAndAddress : String × List Char :=
    if "https://".toList.isPrefixOf address then ("https", address.drop 8)
    else if "http://".toList.isPrefixOf address then ("http", address.drop 7)
    else if peerScheme ≠ "" then (peerScheme, address)
    else ("http", address)
  schemeAndAddress.1 ++ "://" ++ String.ofList schemeAndAddress.2 ++ ":" ++
    toString inst.port ++ "/internal/v1/forward/" ++ uuidText appID

/-- Where the router itself stands among the instances. -/
structure PeerConfig where
  localInstanceID : Option UUID
  /-- The environment variable `RELAY_PEER_SCHEME`. -/
  peerScheme : String
  appID : UUID

/-- The loop over the listed executors. -/
def forwardToPeers (config : PeerConfig) (seenOwners : List UUID)
    (attempts : Nat) : List PeerRow → Option Message × List HandOff
  | [] => (none, [])
  | row :: rows =>
      if row.ctxDone then (none, [])
      else if maxPeerForwards ≤ attempts then (none, [])
      else
        match row.ownerInstanceID with
        | none => forwardToPeers config seenOwners attempts rows
        | some owner =>
            if config.localInstanceID = some owner ∨ row.leaseExpired ∨
                owner ∈ seenOwners then
              forwardToPeers config seenOwners attempts rows
            else
              match row.inst with
              | none => forwardToPeers config (owner :: seenOwners) attempts rows
              | some inst =>
                  if inst.reachable row.checkedAt then
                    if row.forwardTimeout ≤ 0 then (none, [])
                    else
                      let peer : Backend :=
                        .peer owner
                          (targetURL config.peerScheme inst config.appID)
                      match row.forward with
                      | .answers response => (some response, [⟨peer, true⟩])
                      | .fails mayHaveApplied =>
                          let rest :=
                            forwardToPeers config (owner :: seenOwners)
                              (attempts + 1) rows
                          (rest.1, ⟨peer, mayHaveApplied⟩ :: rest.2)
                  else
                    forwardToPeers config (owner :: seenOwners) attempts rows

/-! ## The router -/

/-- Who served a request. -/
inductive ServedFrom where
  | executor
  | database
deriving DecidableEq, Repr

/-- The surroundings of one call of `DefaultRouter.Dispatch`. -/
structure RouterWorld where
  store : AppResolver
  /-- `HasDataPlane`, and then `GetIntegration`. -/
  dataPlane : Option (Option Integration)
  databaseFirst : DataPlaneOutcome
  hub : HubWorld
  /-- A forwarder is configured and the store can list executors. -/
  forwards : Bool
  listing : Option (List PeerRow)
  localInstanceID : Option UUID
  peerScheme : String
  databaseFallback : DataPlaneOutcome

/-- The integration mode of the application. -/
def RouterWorld.integration (world : RouterWorld) : Integration :=
  (world.dataPlane.bind id).getD .hybrid

/-- What a dispatch returns, whom it credits, and what it has handed over. -/
structure RouterDispatched where
  result : Except RouterError Message
  servedFrom : Option ServedFrom
  handOffs : List HandOff

/-- The error text reads as if there were no executor. -/
def isNoExecutor (errStr : String) : Bool :=
  contains errStr "no live executor" ||
    contains errStr "no executors registered" ||
    contains errStr "no executors available"

/-- The forwards to peers, when there may be any. -/
def RouterWorld.forwarded (world : RouterWorld) (appID : UUID) :
    Option Message × List HandOff :=
  if world.forwards then
    match world.listing with
    | none => (none, [])
    | some rows =>
        forwardToPeers ⟨world.localInstanceID, world.peerScheme, appID⟩ [] 0
          rows
  else (none, [])

/-- What remains when neither a local nor a peer's executor has answered. -/
def RouterWorld.withoutExecutor (world : RouterWorld) (msg : Message)
    (err : GoError) (directErr : Option DataPlaneError) :
    RouterDispatched :=
  match directErr with
  | some directErr => ⟨dataPlaneFailure msg directErr, none, []⟩
  | none =>
      if world.integration = .hybrid ∧ world.dataPlane.isSome then
        match world.databaseFallback with
        | .ok response =>
            ⟨.ok response, some .database,
              [DataPlaneOutcome.handOff world.databaseFallback]⟩
        | .error error =>
            ⟨dataPlaneFailure msg error, none,
              [DataPlaneOutcome.handOff world.databaseFallback]⟩
      else if world.integration = .direct ∧ world.dataPlane.isSome ∧
          nonDatabaseReason msg.messageType ≠ "" then
        ⟨.error
            (.wrapped .noLiveExecutor (nonDatabaseReason msg.messageType)),
          none, []⟩
      else ⟨.error (.wrapped .noLiveExecutor err.text), none, []⟩

/-- `Dispatch` from the local executors on. -/
def RouterWorld.dispatchToExecutors (world : RouterWorld) (appID : UUID)
    (msg : Message) (directErr : Option DataPlaneError) : RouterDispatched :=
  let hub := hubDispatch world.hub appID msg
  match hub.result with
  | .ok response => ⟨.ok response, some .executor, hub.handOffs⟩
  | .error err =>
      if isNoExecutor err.text then
        let forwarded := world.forwarded appID
        match forwarded.1 with
        | some response =>
            ⟨.ok response, some .executor, hub.handOffs ++ forwarded.2⟩
        | none =>
            let last := world.withoutExecutor msg err directErr
            { last with
              handOffs := hub.handOffs ++ forwarded.2 ++ last.handOffs }
      else if err.deadlineExceeded || contains err.text "timed out" then
        ⟨.error (.wrapped .executorTimeout err.text), none, hub.handOffs⟩
      else ⟨.error (.passed err), none, hub.handOffs⟩

/-- The same, after an attempt at the database. -/
def RouterDispatched.after (handOff : HandOff)
    (dispatched : RouterDispatched) : RouterDispatched :=
  { dispatched with handOffs := handOff :: dispatched.handOffs }

/-- `Dispatch` of a resolved application. -/
def RouterWorld.dispatchTo (world : RouterWorld) (appID : UUID)
    (msg : Message) : RouterDispatched :=
  let handOff := DataPlaneOutcome.handOff world.databaseFirst
  if world.integration = .direct ∧ world.dataPlane.isSome then
    match world.databaseFirst with
    | .ok response => ⟨.ok response, some .database, [handOff]⟩
    | .error (.readOnlyMode text) =>
        ⟨.error (.wrapped .readOnlyMode text), none, [handOff]⟩
    | .error (.unsupportedOperation _) =>
        (world.dispatchToExecutors appID msg none).after handOff
    | .error (.failed error mayHaveApplied) =>
        let failure := DataPlaneError.failed error mayHaveApplied
        if isMutating msg.messageType || isDataPlaneNotFound failure then
          ⟨dataPlaneFailure msg failure, none, [handOff]⟩
        else
          (world.dispatchToExecutors appID msg (some failure)).after handOff
  else if world.integration = .hybrid ∧ isFleetAggregate msg.messageType ∧
      world.dataPlane.isSome then
    match world.databaseFirst with
    | .ok response => ⟨.ok response, some .database, [handOff]⟩
    | .error _ => (world.dispatchToExecutors appID msg none).after handOff
  else world.dispatchToExecutors appID msg none

/-- `DefaultRouter.Dispatch`. -/
def RouterWorld.dispatch (world : RouterWorld) (orgName appName : String)
    (msg : Message) : RouterDispatched :=
  match resolveApplication world.store orgName appName with
  | .error error => ⟨.error error, none, []⟩
  | .ok appID => world.dispatchTo appID msg

end DbosRelay.Router
