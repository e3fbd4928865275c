import DbosRelay.DataPlane.Client

/-!
# Direct mode without write access

`DefaultManager.Dispatch` checks the mode of an application against the list of
mutating message types, the client's switch over Go types decides what is
written, and the error switch of `DefaultRouter.Dispatch` decides what may still
go to an executor.  The three agree about every message which changes
workflows, schedules or versions, except for `recovery`: it is not listed as
mutating and the client does not support it, so the router hands it on.
-/

namespace DbosRelay.Router

open DbosRelay.Basic
open DbosRelay.DataPlane
open DbosRelay.Hub
open DbosRelay.Protocol

/-! ## The data plane behind the router -/

/-- The surroundings of one call of `DefaultManager.Dispatch`. -/
structure DataPlaneWorld where
  manager : DefaultManager
  /--
  Whether `getOrInitClient` has a client, and if not, its error and whether
  that wraps `context.DeadlineExceeded`.
  -/
  initialised : Except (ManagerError × Bool) Unit
  /-- The SDK's client is a DBOS context. -/
  exposesContext : Bool
  parse : ParseTime
  answers : List (Except GoError Answer)

namespace DataPlaneWorld

/-- `SDKClient.Dispatch`, and the calls it makes. -/
def clientDispatch (world : DataPlaneWorld) (req : Request) :
    DataPlaneOutcome × List DatabaseCall :=
  if world.exposesContext then
    match req.body.execute world.parse ⟨world.answers, []⟩ with
    | none =>
        (.error (.unsupportedOperation
          ("operation not supported by data-plane: " ++
            req.body.messageType.text)), [])
    | some (.ok (), session) => (.ok req.message, session.calls)
    | some (.error error, session) =>
        (.error (.failed error (session.calls.any DatabaseCall.writes)),
          session.calls)
  else
    (.error (.failed
      (.new "data-plane client does not expose a DBOS context") false), [])

/-- `DefaultManager.Dispatch`. -/
def dispatch (world : DataPlaneWorld) (appID : UUID) (req : Request) :
    DataPlaneOutcome × List DatabaseCall :=
  match world.manager.configs.lookup appID with
  | none =>
      (.error (.failed (.new ManagerError.noDataPlaneConfigured.text) false),
        [])
  | some cfg =>
      match world.initialised with
      | .error (error, deadlineExceeded) =>
          (.error (.failed ⟨error.text, deadlineExceeded⟩ false), [])
      | .ok () =>
          if isMutating req.body.messageType ∧ cfg.mode ≠ .readWrite then
            (.error (.readOnlyMode ManagerError.readOnlyMode.text), [])
          else world.clientDispatch req

/-- `HasDataPlane`, and then `GetIntegration`. -/
def configured (world : DataPlaneWorld) (appID : UUID) :
    Option (Option Integration) :=
  (world.manager.getIntegration appID).map fun integration =>
    match integration with
    | .known integration => some integration
    | _ => none

end DataPlaneWorld

/--
`DefaultRouter.Dispatch` of an application in Direct mode, and the calls of
the database it makes: the data plane is asked once, before anybody else.
-/
def dispatchDirect (world : RouterWorld) (dataPlane : DataPlaneWorld)
    (orgName appName : String) (req : Request) :
    RouterDispatched × List DatabaseCall :=
  match resolveApplication world.store orgName appName with
  | .error error => (⟨.error error, none, []⟩, [])
  | .ok appID =>
      let answered := dataPlane.dispatch appID req
      let world :=
        { world with
          dataPlane := dataPlane.configured appID
          databaseFirst := answered.1 }
      (world.dispatchTo appID req.message, answered.2)

/-! ## The property -/

/-- The messages whose execution changes workflows, schedules or versions. -/
def changesState : MessageType → Bool
  | .recovery
  | .cancel
  | .resume
  | .forkWorkflow
  | .rewindWorkflow
  | .forkFromFailure
  | .retention
  | .importWorkflow
  | .delete
  | .pauseSchedule
  | .resumeSchedule
  | .backfillSchedule
  | .triggerSchedule
  | .setLatestApplicationVersion => true
  | _ => false

/-- The application is registered as Direct, with a mode other than read-write. -/
def ReadOnlyDirect (store : AppResolver) (manager : DefaultManager)
    (orgName appName : String) : Prop :=
  ∀ appID, resolveApplication store orgName appName = .ok appID →
    ∃ cfg, manager.configs.lookup appID = some cfg ∧
      cfg.integration = .known .direct ∧ cfg.mode ≠ .readWrite

/-- Nothing has been written, and no executor has been given the message. -/
structure FailsClosed (dispatched : RouterDispatched × List DatabaseCall) :
    Prop where
  writes : ∀ databaseCall ∈ dispatched.2, databaseCall.writes = false
  handOffs : ∀ handOff ∈ dispatched.1.handOffs, handOff.backend = .database

/-! ## Refusals -/

/-- Apart from `recovery` every such message is listed as mutating. -/
theorem isMutating_of_changesState {messageType : MessageType}
    (changes : changesState messageType = true)
    (notRecovery : messageType ≠ .recovery) :
    isMutating messageType = true := by
  cases messageType with
  | recovery => exact absurd rfl notRecovery
  | _ => first | rfl | cases changes

/-- How the manager refuses a mutation without write access. -/
inductive Refusal : DataPlaneOutcome → Prop where
  | readOnlyMode (text : String) : Refusal (.error (.readOnlyMode text))
  | failed (error : GoError) (mayHaveApplied : Bool) :
      Refusal (.error (.failed error mayHaveApplied))

/-- A mutation without write access is refused. -/
theorem DataPlaneWorld.refusal_dispatch {dataPlane : DataPlaneWorld}
    {appID : UUID} {req : Request} {cfg : AppConfig}
    (mutating : isMutating req.body.messageType = true)
    (registered : dataPlane.manager.configs.lookup appID = some cfg)
    (readOnly : cfg.mode ≠ .readWrite) :
    Refusal (dataPlane.dispatch appID req).1 := by
  unfold DataPlaneWorld.dispatch
  rw [registered]
  cases dataPlane.initialised with
  | error failure => exact .failed _ _
  | ok client =>
      have refuses : isMutating req.body.messageType = true ∧
          cfg.mode ≠ .readWrite := ⟨mutating, readOnly⟩
      simp only [if_pos refuses]
      exact .readOnlyMode _

/-- A client reads, and nothing else, for a message not listed as mutating. -/
theorem DataPlaneWorld.writes_clientDispatch {dataPlane : DataPlaneWorld}
    {req : Request} (reads : isMutating req.body.messageType = false) :
    ∀ databaseCall ∈ (dataPlane.clientDispatch req).2,
      databaseCall.writes = false := by
  have readOnly : Session.ReadOnly ⟨dataPlane.answers, []⟩ := nofun
  unfold DataPlaneWorld.clientDispatch
  split_ifs
  · split
    · exact nofun
    · rename_i session executed
      exact RequestBody.readOnly_execute reads readOnly executed
    · rename_i error session executed
      exact RequestBody.readOnly_execute reads readOnly executed
  · exact nofun

/-- Without write access nothing is written, whatever the message. -/
theorem DataPlaneWorld.writes_dispatch {dataPlane : DataPlaneWorld}
    {appID : UUID} {req : Request} {cfg : AppConfig}
    (registered : dataPlane.manager.configs.lookup appID = some cfg)
    (readOnly : cfg.mode ≠ .readWrite) :
    ∀ databaseCall ∈ (dataPlane.dispatch appID req).2,
      databaseCall.writes = false := by
  unfold DataPlaneWorld.dispatch
  rw [registered]
  cases dataPlane.initialised with
  | error failure => exact nofun
  | ok client =>
      dsimp only
      split_ifs with refuses
      · exact nofun
      · apply DataPlaneWorld.writes_clientDispatch
        by_contra mutating
        exact refuses ⟨Bool.eq_true_of_not_eq_false mutating, readOnly⟩

/-- In Direct mode a refused mutation goes to nobody else. -/
theorem RouterWorld.handOffs_of_refusal {world : RouterWorld} {appID : UUID}
    {msg : Message} (mutating : isMutating msg.messageType = true)
    (direct : world.dataPlane = some (some .direct))
    (refusal : Refusal world.databaseFirst) :
    (world.dispatchTo appID msg).handOffs =
      [DataPlaneOutcome.handOff world.databaseFirst] := by
  have isDirect : world.integration = .direct ∧ world.dataPlane.isSome := by
    rw [RouterWorld.integration, direct]
    exact ⟨rfl, rfl⟩
  unfold RouterWorld.dispatchTo
  rw [if_pos isDirect]
  cases refused : world.databaseFirst with
  | ok response => rfl
  | error error =>
      rw [refused] at refusal
      cases refusal with
      | readOnlyMode text => rfl
      | failed error mayHaveApplied =>
          simp only [mutating, Bool.true_or, if_true]

theorem DataPlaneOutcome.backend_handOff (outcome : DataPlaneOutcome) :
    (DataPlaneOutcome.handOff outcome).backend = .database := by
  rcases outcome with (_ | _ | _) | _ <;> rfl

/-- A message listed as mutating is stopped by a Direct mode without write access. -/
theorem failsClosed_of_isMutating {world : RouterWorld}
    {dataPlane : DataPlaneWorld} {orgName appName : String} {req : Request}
    (mutating : isMutating req.body.messageType = true)
    (registered :
      ReadOnlyDirect world.store dataPlane.manager orgName appName) :
    FailsClosed (dispatchDirect world dataPlane orgName appName req) := by
  unfold dispatchDirect
  cases resolved : resolveApplication world.store orgName appName with
  | error error => exact ⟨nofun, nofun⟩
  | ok appID =>
      obtain ⟨cfg, configured, isDirect, readOnly⟩ := registered appID resolved
      have refusal :=
        DataPlaneWorld.refusal_dispatch mutating configured readOnly
      have direct : dataPlane.configured appID = some (some .direct) := by
        simp [DataPlaneWorld.configured, DefaultManager.getIntegration,
          configured, isDirect, IntegrationName.orHybrid]
      constructor
      · exact DataPlaneWorld.writes_dispatch configured readOnly
      · intro handOff member
        dsimp only at member
        rw [RouterWorld.handOffs_of_refusal mutating direct refusal,
          List.mem_singleton] at member
        subst member
        exact DataPlaneOutcome.backend_handOff _

/-! ## Messages which are not stopped -/

/-- A store with one application. -/
def ordersResolver : AppResolver where
  getOrganisationByName name :=
    if name = "local" then .ok ⟨1⟩ else .error .noRows
  getApplicationByName org name :=
    if org = ⟨1⟩ ∧ name = "orders" then .ok ⟨7⟩ else .error .noRows

/-- An application without local executors; a peer's executor answers. -/
def answeringPeer : RouterWorld where
  store := ordersResolver
  dataPlane := none
  databaseFirst := .error (.unsupportedOperation "")
  hub := ⟨newRegistry, .timedOut, true, newRegistry, .timedOut⟩
  forwards := true
  listing :=
    some
      [{ ownerInstanceID := some ⟨0xB⟩
         leaseExpiresAt := some (60 * second)
         ctxDone := false
         now := 0
         inst := some ⟨"10.0.0.2", 8080, some 0⟩
         checkedAt := 0
         remaining := none
         forward := .answers ⟨.recovery, "req-1", []⟩ }]
  localInstanceID := some ⟨0xA⟩
  peerScheme := ""
  databaseFallback := .error (.unsupportedOperation "")

/-- The application is registered as Direct and read-only, and has its client. -/
def readOnlyOrders : DataPlaneWorld where
  manager :=
    { newManager with
      configs := (newManager.configs).insert ⟨7⟩ (ordersConfig .read) }
  initialised := .ok ()
  exposesContext := true
  parse := fun _ => .error "unparsed"
  answers := []

theorem readOnlyDirect_orders :
    ReadOnlyDirect answeringPeer.store readOnlyOrders.manager
      "local" "orders" := by
  intro appID resolved
  cases resolved
  exact ⟨ordersConfig .read, rfl, rfl, by decide⟩

/-- A recovery goes to the peer. -/
theorem handOffs_recovery (requestID : String) (executorIDs : List String) :
    (dispatchDirect answeringPeer readOnlyOrders "local" "orders"
        ⟨requestID, .recovery executorIDs⟩).1.handOffs =
      [⟨.database, false⟩,
        ⟨.peer ⟨0xB⟩ (targetURL "" ⟨"10.0.0.2", 8080, some 0⟩ ⟨7⟩), true⟩] :=
  rfl

/--
A message which changes workflows, schedules or versions is stopped by every
Direct mode without write access, whatever becomes of the client, the
database, the hub and the forwarder, exactly if it is not a recovery.
-/
theorem failsClosed_iff_not_recovery (req : Request)
    (changes : changesState req.body.messageType = true) :
    (∀ world dataPlane orgName appName,
      ReadOnlyDirect world.store dataPlane.manager orgName appName →
        FailsClosed (dispatchDirect world dataPlane orgName appName req)) ↔
      req.body.messageType ≠ .recovery := by
  constructor
  · intro always isRecovery
    obtain ⟨requestID, body⟩ := req
    obtain ⟨executorIDs, rfl⟩ : ∃ executorIDs, body = .recovery executorIDs := by
      cases body with
      | recovery executorIDs => exact ⟨executorIDs, rfl⟩
      | listWorkflows queued => cases queued <;> cases isRecovery
      | _ => cases isRecovery
    have closed := always answeringPeer readOnlyOrders "local" "orders"
      readOnlyDirect_orders
    have handOffs := closed.handOffs
    rw [handOffs_recovery] at handOffs
    have peer := handOffs _ (List.mem_cons_of_mem _ (List.mem_singleton_self _))
    cases peer
  · intro notRecovery world dataPlane orgName appName registered
    exact failsClosed_of_isMutating
      (isMutating_of_changesState changes notRecovery) registered

/-- A cancellation. -/
def cancelRequest : Request := ⟨"req-1", .cancel "wf-1" [] false⟩

theorem failsClosed_cancelRequest :
    FailsClosed
      (dispatchDirect answeringPeer readOnlyOrders "local" "orders"
        cancelRequest) :=
  (failsClosed_iff_not_recovery cancelRequest rfl).mpr (by decide)
    answeringPeer readOnlyOrders "local" "orders" readOnlyDirect_orders

/-- The recovery of an executor's workflows. -/
def recoveryRequest : Request := ⟨"req-1", .recovery ["exec-1"]⟩

theorem recoveryRequest_notStopped :
    changesState recoveryRequest.body.messageType = true ∧
      ReadOnlyDirect answeringPeer.store readOnlyOrders.manager
        "local" "orders" ∧
      ¬FailsClosed
        (dispatchDirect answeringPeer readOnlyOrders "local" "orders"
          recoveryRequest) := by
  refine ⟨rfl, readOnlyDirect_orders, fun closed => ?_⟩
  have handOffs := closed.handOffs
  rw [recoveryRequest, handOffs_recovery] at handOffs
  have peer := handOffs _ (List.mem_cons_of_mem _ (List.mem_singleton_self _))
  cases peer

end DbosRelay.Router
