import DbosRelay.Router.Dispatch

/-!
# Mutations are handed over at most once

A mutation which must not be repeated may be passed from one backend to the
next only while no backend may have applied it.  In Direct mode the router says
so and stops after a failed write.  The hub's second executor, the further
peers and the fallback to the database do not ask: they are reached after any
failure, also one which leaves open what has happened.
-/

namespace DbosRelay.Router

open DbosRelay.Basic
open DbosRelay.Hub
open DbosRelay.Protocol

/-! ## The peers in turn -/

/-- A forward the router makes unless an earlier one is answered. -/
structure ForwardAttempt where
  peer : Backend
  outcome : ForwardOutcome
deriving DecidableEq, Repr

/-- The forwards the router would make if none were answered. -/
def forwardPlan (config : PeerConfig) (seenOwners : List UUID)
    (attempts : Nat) : List PeerRow → List ForwardAttempt
  | [] => []
  | row :: rows =>
      if row.ctxDone then []
      else if maxPeerForwards ≤ attempts then []
      else
        match row.ownerInstanceID with
        | none => forwardPlan config seenOwners attempts rows
        | some owner =>
            if config.localInstanceID = some owner ∨ row.leaseExpired ∨
                owner ∈ seenOwners then
              forwardPlan config seenOwners attempts rows
            else
              match row.inst with
              | none => forwardPlan config (owner :: seenOwners) attempts rows
              | some inst =>
                  if inst.reachable row.checkedAt then
                    if row.forwardTimeout ≤ 0 then []
                    else
                      ⟨.peer owner
                          (targetURL config.peerScheme inst config.appID),
                        row.forward⟩ ::
                        forwardPlan config (owner :: seenOwners)
                          (attempts + 1) rows
                  else
                    forwardPlan config (owner :: seenOwners) attempts rows

/-- Make the forwards until one is answered. -/
def runPlan : List ForwardAttempt → Option Message × List HandOff
  | [] => (none, [])
  | attempt :: plan =>
      match attempt.outcome with
      | .answers response => (some response, [⟨attempt.peer, true⟩])
      | .fails mayHaveApplied =>
          ((runPlan plan).1, ⟨attempt.peer, mayHaveApplied⟩ :: (runPlan plan).2)

theorem forwardToPeers_eq (config : PeerConfig) (seenOwners : List UUID)
    (attempts : Nat) (rows : List PeerRow) :
    forwardToPeers config seenOwners attempts rows =
      runPlan (forwardPlan config seenOwners attempts rows) := by
  induction rows generalizing seenOwners attempts with
  | nil => rfl
  | cons row rows induction =>
      rw [forwardToPeers, forwardPlan]
      by_cases done : row.ctxDone = true
      · rw [if_pos done, if_pos done]
        rfl
      rw [if_neg done, if_neg done]
      by_cases limit : maxPeerForwards ≤ attempts
      · rw [if_pos limit, if_pos limit]
        rfl
      rw [if_neg limit, if_neg limit]
      cases row.ownerInstanceID with
      | none => exact induction _ _
      | some owner =>
          dsimp only
          by_cases skipped : config.localInstanceID = some owner ∨
              row.leaseExpired = true ∨ owner ∈ seenOwners
          · rw [if_pos skipped, if_pos skipped]
            exact induction _ _
          rw [if_neg skipped, if_neg skipped]
          cases row.inst with
          | none => exact induction _ _
          | some inst =>
              dsimp only
              by_cases reachable : inst.reachable row.checkedAt = true
              · rw [if_pos reachable, if_pos reachable]
                by_cases spent : row.forwardTimeout ≤ 0
                · rw [if_pos spent, if_pos spent]
                  rfl
                · rw [if_neg spent, if_neg spent, runPlan]
                  cases row.forward with
                  | answers response => rfl
                  | fails mayHaveApplied => rw [induction]
              · rw [if_neg reachable, if_neg reachable]
                exact induction _ _

/--
A failed forward which may have been applied is followed by no further peer and
not by the database.
-/
def PlanKeepsOnce (fallsBack : Bool) : List ForwardAttempt → Prop
  | [] => True
  | attempt :: plan =>
      match attempt.outcome with
      | .answers _ => True
      | .fails mayHaveApplied =>
          (mayHaveApplied = true → plan = [] ∧ fallsBack = false) ∧
            PlanKeepsOnce fallsBack plan

/-- The hand-offs of a plan, and the database after them when nobody answers. -/
def planHandOffs (fallback : List HandOff) (plan : List ForwardAttempt) :
    List HandOff :=
  (runPlan plan).2 ++ if (runPlan plan).1 = none then fallback else []

section Plan

variable {fallback : List HandOff} {fallsBack : Bool}
variable {plan : List ForwardAttempt}

theorem planHandOffs_cons_fails {peer : Backend} {mayHaveApplied : Bool} :
    planHandOffs fallback (⟨peer, .fails mayHaveApplied⟩ :: plan) =
      ⟨peer, mayHaveApplied⟩ :: planHandOffs fallback plan :=
  rfl

theorem planHandOffs_eq_nil (used : fallback = [] ↔ fallsBack = false) :
    planHandOffs fallback plan = [] ↔ plan = [] ∧ fallsBack = false := by
  cases plan with
  | nil => simpa [planHandOffs, runPlan] using used
  | cons attempt plan =>
      rcases attempt with ⟨peer, outcome⟩
      cases outcome with
      | answers response => simp [planHandOffs, runPlan]
      | fails mayHaveApplied => simp [planHandOffs_cons_fails]

/-- When a plan with its fallback hands a message over safely. -/
theorem handedOverSafely_planHandOffs (single : HandedOverSafely fallback)
    (used : fallback = [] ↔ fallsBack = false)
    (plan : List ForwardAttempt) :
    HandedOverSafely (planHandOffs fallback plan) ↔
      PlanKeepsOnce fallsBack plan := by
  induction plan with
  | nil => simpa [planHandOffs, runPlan, PlanKeepsOnce] using single
  | cons attempt plan induction =>
      rcases attempt with ⟨peer, outcome⟩
      cases outcome with
      | answers response =>
          simp [planHandOffs, runPlan, PlanKeepsOnce]
      | fails mayHaveApplied =>
          rw [planHandOffs_cons_fails, PlanKeepsOnce, ← induction,
            ← planHandOffs_eq_nil used, ← List.singleton_append,
            handedOverSafely_append]
          simp only [handedOverSafely_singleton, true_and,
            knownNotApplied_singleton]
          cases mayHaveApplied <;> simp [and_comm]

end Plan

/-! ## The condition -/

/-- The forwards to the peers of an application. -/
def RouterWorld.plan (world : RouterWorld) (appID : UUID) :
    List ForwardAttempt :=
  if world.forwards then
    match world.listing with
    | none => []
    | some rows =>
        forwardPlan ⟨world.localInstanceID, world.peerScheme, appID⟩ [] 0 rows
  else []

/-- The database is the fallback. -/
def RouterWorld.fallsBack (world : RouterWorld) : Bool :=
  world.integration = .hybrid && world.dataPlane.isSome

/-- Direct mode does not settle the request at the database. -/
def RouterWorld.reachesExecutors (world : RouterWorld) : Bool :=
  match world.databaseFirst with
  | .error (.unsupportedOperation _) => true
  | _ => !(world.integration = .direct && world.dataPlane.isSome)

/-- A failure at a connection whose error reads as if there were no executor. -/
def deniesExecutor : ConnOutcome → Bool
  | .registerFails error => isNoExecutor error.text
  | .writeFails error _ => isNoExecutor (error.wrap "dispatch failed").text
  | _ => false

/-- What becomes of the request at the last local executor it is meant for. -/
def lastOutcome (world : HubWorld) (appID : UUID) (conn : ExecutorConn) :
    ConnOutcome :=
  match world.first, world.alternativeConn appID conn with
  | .writeFails _ _, some _ => world.alternative
  | first, _ => first

/--
The router looks beyond the local executors: none is registered, or the last
failure reads as if none were.
-/
def RouterWorld.LooksBeyond (world : RouterWorld) (appID : UUID)
    (msg : Message) : Prop :=
  match world.hub.registry.selectExecutor appID with
  | .error error => isNoExecutor error.message = true
  | .ok (_, conn) =>
      msg.requestID ≠ "" ∧
        deniesExecutor (lastOutcome world.hub appID conn) = true

/-- No backend follows one which failed and may have applied the message. -/
structure RouterWorld.KeepsOnce (world : RouterWorld) (appID : UUID)
    (msg : Message) : Prop where
  executors : world.hub.NoDoubtfulRetry appID msg
  beyond : world.LooksBeyond appID msg →
    world.plan appID ≠ [] ∨ world.fallsBack = true →
      ¬ world.hub.DoubtfulWrite appID msg
  peers : world.LooksBeyond appID msg →
    PlanKeepsOnce world.fallsBack (world.plan appID)

section Dispatch

variable {world : RouterWorld} {appID : UUID} {msg : Message}

theorem forwarded_eq (world : RouterWorld) (appID : UUID) :
    world.forwarded appID = runPlan (world.plan appID) := by
  rw [RouterWorld.forwarded, RouterWorld.plan]
  split_ifs
  · cases world.listing with
    | none => rfl
    | some rows => exact forwardToPeers_eq _ _ _ _
  · rfl

/-- The hand-off to the fallback, if it is reached. -/
def RouterWorld.fallbackHandOffs (world : RouterWorld) : List HandOff :=
  if world.fallsBack then [DataPlaneOutcome.handOff world.databaseFallback]
  else []

theorem handOffs_withoutExecutor (err : GoError) :
    (world.withoutExecutor msg err none).handOffs =
      world.fallbackHandOffs := by
  simp only [RouterWorld.withoutExecutor, RouterWorld.fallbackHandOffs]
  by_cases fallsBack : world.integration = .hybrid ∧ world.dataPlane.isSome = true
  · have back : world.fallsBack = true := by
      simpa [RouterWorld.fallsBack] using fallsBack
    rw [if_pos fallsBack, if_pos back]
    cases world.databaseFallback <;> rfl
  · have noBack : world.fallsBack ≠ true := by
      simpa [RouterWorld.fallsBack] using fallsBack
    rw [if_neg fallsBack, if_neg noBack]
    split_ifs <;> rfl

theorem fallbackHandOffs_eq_nil :
    world.fallbackHandOffs = [] ↔ world.fallsBack = false := by
  rw [RouterWorld.fallbackHandOffs]
  cases world.fallsBack <;> simp

theorem handedOverSafely_fallbackHandOffs :
    HandedOverSafely world.fallbackHandOffs := by
  rw [RouterWorld.fallbackHandOffs]
  split_ifs
  · exact handedOverSafely_singleton _
  · exact handedOverSafely_nil

/-- The fixed texts of an executor which was reached do not deny it. -/
theorem deniesExecutor_iff {outcome : ConnOutcome} :
    deniesExecutor outcome = true ↔
      ∃ error,
        (dispatchToConn outcome).mapError ConnError.dispatchErr =
            .error error ∧
          isNoExecutor error.text = true := by
  have fixed (text : String) (other : isNoExecutor text = false) :
      ¬ isNoExecutor (GoError.new text).text = true := by
    simp [GoError.new, other]
  cases outcome with
  | registerFails cause =>
      simp [deniesExecutor, dispatchToConn, Except.mapError]
  | writeFails cause mayHaveApplied =>
      simp [deniesExecutor, dispatchToConn, Except.mapError]
  | contextDone deadlineExceeded =>
      have other :
          isNoExecutor (contextError deadlineExceeded).text = false := by
        cases deadlineExceeded <;> decide
      simp [deniesExecutor, dispatchToConn, Except.mapError, other]
  | timedOut =>
      have other := fixed "request timed out" (by decide)
      simpa [deniesExecutor, dispatchToConn, Except.mapError] using other
  | closed =>
      have other :=
        fixed "connection closed while awaiting response" (by decide)
      simpa [deniesExecutor, dispatchToConn, Except.mapError] using other
  | answers response => simp [deniesExecutor, dispatchToConn, Except.mapError]

/-- When the error of the hub reads as if there were no executor. -/
theorem looksBeyond_iff (onceOnly : isSafeToRetry msg.messageType = false) :
    world.LooksBeyond appID msg ↔
      ∃ err, (hubDispatch world.hub appID msg).result = .error err ∧
        isNoExecutor err.text = true := by
  cases selected : world.hub.registry.selectExecutor appID with
  | error error =>
      simp [RouterWorld.LooksBeyond, hubDispatch, selected, GoError.new]
  | ok selection =>
      rcases selection with ⟨registry, conn⟩
      by_cases named : msg.requestID = ""
      · have other : isNoExecutor "request must have an ID" = false := by
          decide
        simp [RouterWorld.LooksBeyond, hubDispatch, selected, named,
          GoError.new, other]
      · rw [result_hubDispatch onceOnly selected named]
        simp only [RouterWorld.LooksBeyond, selected, named, ne_eq,
          not_false_eq_true, true_and]
        exact deniesExecutor_iff

/-- An executor which is denied may have applied the message after a doubtful write only. -/
theorem knownNotApplied_handOffs (conn : ExecutorConn)
    {outcome : ConnOutcome} (denied : deniesExecutor outcome = true) :
    KnownNotApplied (outcome.handOffs conn) ↔ outcome.doubtful = false := by
  cases outcome with
  | registerFails cause =>
      simp [ConnOutcome.handOffs, ConnOutcome.doubtful]
  | writeFails cause mayHaveApplied =>
      simp [ConnOutcome.handOffs, ConnOutcome.doubtful]
  | _ => cases denied

/--
Before the router looks beyond the local executors, nothing has been handed over
that may have been applied, unless a write was doubtful.
-/
theorem knownNotApplied_hubDispatch
    (onceOnly : isSafeToRetry msg.messageType = false)
    (beyond : world.LooksBeyond appID msg) :
    KnownNotApplied (hubDispatch world.hub appID msg).handOffs ↔
      ¬ world.hub.DoubtfulWrite appID msg := by
  cases selected : world.hub.registry.selectExecutor appID with
  | error error =>
      simp [hubDispatch, HubWorld.DoubtfulWrite, selected]
  | ok selection =>
      rcases selection with ⟨registry, conn⟩
      rw [RouterWorld.LooksBeyond, selected] at beyond
      rcases beyond with ⟨named, denied⟩
      have doubtful :
          world.hub.DoubtfulWrite appID msg ↔
            world.hub.first.doubtful = true ∨
              world.hub.first.failsWrite = true ∧
                world.hub.alternativeConn appID conn ≠ none ∧
                world.hub.alternative.doubtful = true := by
        simp [HubWorld.DoubtfulWrite, selected, named]
      rw [doubtful, handOffs_hubDispatch onceOnly selected named,
        knownNotApplied_append]
      rw [lastOutcome] at denied
      cases first : world.hub.first with
      | writeFails cause mayHaveApplied =>
          rw [first] at denied
          cases chosen : world.hub.alternativeConn appID conn with
          | none => simp [ConnOutcome.handOffs, ConnOutcome.doubtful]
          | some alternative =>
              rw [chosen] at denied
              have known := knownNotApplied_handOffs alternative denied
              dsimp only at known ⊢
              rw [known, not_or]
              simp [ConnOutcome.handOffs.eq_2, ConnOutcome.doubtful.eq_1,
                ConnOutcome.failsWrite]
      | _ =>
          rw [first] at denied
          have known := knownNotApplied_handOffs conn denied
          simpa [ConnOutcome.failsWrite] using known

theorem handOffs_dispatchToExecutors_beyond
    (onceOnly : isSafeToRetry msg.messageType = false)
    (beyond : world.LooksBeyond appID msg) :
    (world.dispatchToExecutors appID msg none).handOffs =
      (hubDispatch world.hub appID msg).handOffs ++
        planHandOffs world.fallbackHandOffs (world.plan appID) := by
  rcases (looksBeyond_iff onceOnly).mp beyond with ⟨err, failed, reads⟩
  simp only [RouterWorld.dispatchToExecutors, failed, if_pos reads,
    forwarded_eq, planHandOffs]
  cases (runPlan (world.plan appID)).1 with
  | none => simp [handOffs_withoutExecutor]
  | some response => simp

theorem handOffs_dispatchToExecutors_settled
    (onceOnly : isSafeToRetry msg.messageType = false)
    (settled : ¬ world.LooksBeyond appID msg) :
    (world.dispatchToExecutors appID msg none).handOffs =
      (hubDispatch world.hub appID msg).handOffs := by
  simp only [RouterWorld.dispatchToExecutors]
  cases result : (hubDispatch world.hub appID msg).result with
  | ok response => rfl
  | error err =>
      have reads : ¬ isNoExecutor err.text = true := by
        intro reads
        exact settled ((looksBeyond_iff onceOnly).mpr ⟨err, result, reads⟩)
      dsimp only
      rw [if_neg reads]
      split_ifs <;> rfl

/-- When the executors, the peers and the fallback keep a message from being repeated. -/
theorem handedOverSafely_dispatchToExecutors
    (onceOnly : isSafeToRetry msg.messageType = false) :
    HandedOverSafely (world.dispatchToExecutors appID msg none).handOffs ↔
      world.KeepsOnce appID msg := by
  by_cases looks : world.LooksBeyond appID msg
  · rw [handOffs_dispatchToExecutors_beyond onceOnly looks,
      handedOverSafely_append, handedOverSafely_hubDispatch onceOnly,
      handedOverSafely_planHandOffs handedOverSafely_fallbackHandOffs
        fallbackHandOffs_eq_nil,
      knownNotApplied_hubDispatch onceOnly looks, Ne,
      planHandOffs_eq_nil fallbackHandOffs_eq_nil]
    have used :
        ¬ (world.plan appID = [] ∧ world.fallsBack = false) ↔
          world.plan appID ≠ [] ∨ world.fallsBack = true := by
      rw [not_and_or, Bool.not_eq_false]
    rw [used]
    constructor
    · rintro ⟨executors, peers, beyond⟩
      exact ⟨executors, fun _ => beyond, fun _ => peers⟩
    · rintro ⟨executors, beyond, peers⟩
      exact ⟨executors, peers looks, beyond looks⟩
  · rw [handOffs_dispatchToExecutors_settled onceOnly looks,
      handedOverSafely_hubDispatch onceOnly]
    constructor
    · intro executors
      exact ⟨executors, fun found => absurd found looks,
        fun found => absurd found looks⟩
    · intro keeps
      exact keeps.executors

/-- An operation which the database refuses has not been applied. -/
theorem handedOverSafely_after {dispatched : RouterDispatched}
    {handOff : HandOff} (refused : handOff.mayHaveApplied = false) :
    HandedOverSafely (dispatched.after handOff).handOffs ↔
      HandedOverSafely dispatched.handOffs := by
  rw [RouterDispatched.after, ← List.singleton_append,
    handedOverSafely_append]
  simp [refused]

theorem reachesExecutors_of_not_direct
    (direct : ¬ (world.integration = .direct ∧ world.dataPlane.isSome = true)) :
    world.reachesExecutors = true := by
  have elsewhere :
      (decide (world.integration = .direct) && world.dataPlane.isSome) =
        false := by
    simpa using direct
  rw [RouterWorld.reachesExecutors]
  split
  · rfl
  · rw [elsewhere]
    rfl

theorem reachesExecutors_of_direct
    (direct : world.integration = .direct ∧ world.dataPlane.isSome = true) :
    world.reachesExecutors = true ↔
      ∃ text, world.databaseFirst = .error (.unsupportedOperation text) := by
  rw [RouterWorld.reachesExecutors, direct.1, direct.2]
  split <;> simp_all

/-- When a resolved application is given a mutation at most once. -/
theorem handedOverSafely_dispatchTo
    (mutating : isMutating msg.messageType = true)
    (onceOnly : isSafeToRetry msg.messageType = false) :
    HandedOverSafely (world.dispatchTo appID msg).handOffs ↔
      (world.reachesExecutors = true → world.KeepsOnce appID msg) := by
  rw [← handedOverSafely_dispatchToExecutors onceOnly, RouterWorld.dispatchTo]
  by_cases direct : world.integration = .direct ∧ world.dataPlane.isSome = true
  · rw [if_pos direct, reachesExecutors_of_direct direct]
    cases world.databaseFirst with
    | ok response => simp
    | error error =>
        cases error with
        | readOnlyMode text => simp
        | unsupportedOperation text =>
            simpa using handedOverSafely_after rfl
        | failed error mayHaveApplied => simp [mutating]
  · rw [if_neg direct]
    simp [isFleetAggregate_of_isMutating mutating,
      reachesExecutors_of_not_direct direct]

end Dispatch

/-! ## At most once -/

/--
A mutation which must not be repeated is handed over safely exactly when Direct
mode settles it at the database, or no failed hand-off which may have been
applied has a further executor, peer or database behind it.
-/
theorem dispatch_handsOverSafely_iff (world : RouterWorld)
    (orgName appName : String) (msg : Message)
    (mutating : isMutating msg.messageType = true)
    (onceOnly : isSafeToRetry msg.messageType = false) :
    HandedOverSafely (world.dispatch orgName appName msg).handOffs ↔
      ∀ appID, resolveApplication world.store orgName appName = .ok appID →
        world.reachesExecutors = true → world.KeepsOnce appID msg := by
  rw [RouterWorld.dispatch]
  cases resolveApplication world.store orgName appName with
  | error error => simp
  | ok appID => simpa using handedOverSafely_dispatchTo mutating onceOnly

/-- A store with one organisation and one application. -/
def singleApplication : AppResolver where
  getOrganisationByName name :=
    if name = "local" then .ok ⟨1⟩ else .error .noRows
  getApplicationByName org name :=
    if org = ⟨1⟩ ∧ name = "orders" then .ok ⟨7⟩ else .error .noRows

/-- A fork of a workflow. -/
def forkRequest : Message := ⟨.forkWorkflow, "req-1", []⟩

/-- A peer's executor whose forward meets the given outcome. -/
def peerRow (owner : UUID) (address : String) (forward : ForwardOutcome) :
    PeerRow where
  ownerInstanceID := some owner
  leaseExpiresAt := some (60 * second)
  ctxDone := false
  now := 0
  inst := some ⟨address, 8080, some 0⟩
  checkedAt := 0
  remaining := none
  forward := forward

/-- A hybrid application without local executors, and the executors of its peers. -/
def forwardingWorld (rows : List PeerRow) : RouterWorld where
  store := singleApplication
  dataPlane := some (some .hybrid)
  databaseFirst := .ok forkRequest
  hub := ⟨newRegistry, .timedOut, true, newRegistry, .timedOut⟩
  forwards := true
  listing := some rows
  localInstanceID := some ⟨0xA⟩
  peerScheme := ""
  databaseFallback := .ok forkRequest

theorem dispatch_handsOverSafely_refusedForward :
    HandedOverSafely
      ((forwardingWorld [peerRow ⟨0xB⟩ "10.0.0.2" (.fails false)]).dispatch
        "local" "orders" forkRequest).handOffs := by
  apply (dispatch_handsOverSafely_iff _ "local" "orders" forkRequest rfl rfl).mpr
  intro appID resolved reached
  refine ⟨?_, ?_, ?_⟩
  · rintro registry conn selected
    cases selected
  · rintro beyond further ⟨registry, conn, selected, rest⟩
    cases selected
  · intro beyond
    have plan :
        (forwardingWorld [peerRow ⟨0xB⟩ "10.0.0.2" (.fails false)]).plan
            appID =
          [⟨.peer ⟨0xB⟩ (targetURL "" ⟨"10.0.0.2", 8080, some 0⟩ appID),
            .fails false⟩] :=
      rfl
    rw [plan]
    simp [PlanKeepsOnce]

/-- Both peers let the forward time out. -/
def silentPeers : RouterWorld :=
  forwardingWorld
    [peerRow ⟨0xB⟩ "10.0.0.2" (.fails true),
      peerRow ⟨0xC⟩ "10.0.0.3" (.fails true)]

theorem handOffs_silentPeers :
    (silentPeers.dispatch "local" "orders" forkRequest).handOffs =
      [⟨.peer ⟨0xB⟩ (targetURL "" ⟨"10.0.0.2", 8080, some 0⟩ ⟨7⟩), true⟩,
        ⟨.peer ⟨0xC⟩ (targetURL "" ⟨"10.0.0.3", 8080, some 0⟩ ⟨7⟩), true⟩,
        ⟨.database, true⟩] :=
  rfl

/-- A forward which has timed out is followed by another peer and by the database. -/
theorem silentPeers_repeated :
    isMutating forkRequest.messageType = true ∧
      isSafeToRetry forkRequest.messageType = false ∧
      ¬ HandedOverSafely
        (silentPeers.dispatch "local" "orders" forkRequest).handOffs := by
  refine ⟨rfl, rfl, ?_⟩
  rw [handOffs_silentPeers]
  simp [HandedOverSafely]

end DbosRelay.Router
