import DbosRelay.Basic
import Mathlib.Data.List.Basic

/-!
# Recovery dispatch

`internal/liveness/dispatch.go`: the choice of candidate peers and the two
paths of `RecoverDeadExecutor`, down to the decision to delete the record of
the dead executor.  The deletion itself is a step of the cluster model.

Everything outside the dispatcher is an oracle: the data plane, the peers, the
transport and the prober answer in any way, and the PENDING workflows of the
dead executor shrink accordingly.  A peer which carries out a recovery re-owns
exactly the workflows at its own version, whether or not its acknowledgement
arrives.  A reply to the pending-workflow probe which carries no error message
is truthful, one which carries an error message says nothing.
-/

namespace DbosRelay.Liveness

open DbosRelay.Basic

/-! ## Candidates -/

/-- A connected candidate executor. -/
structure Peer where
  appID : UUID
  executorID : String
  applicationVersion : String
deriving DecidableEq, Repr

/-- The errors of `SelectCandidates` and `RecoverDeadExecutor`. -/
inductive RecoveryError where
  | noHealthyPeers
  | crossTenantRecovery (candidate target : UUID)
  | versionMismatchDisallowed
  | recoveryFailed (lastError : Option String)
  | pendingAfterDatabaseRecovery
  | listingPeers (error : String)
  | verifyingPending (error : String)
  | verifyingCrossVersionPending (error : String)
  | deletingRecord (error : String)
deriving DecidableEq, Repr

/-- The text of a recovery error; an application is printed as its number. -/
def RecoveryError.message : RecoveryError → String
  | .noHealthyPeers => "no healthy peer executors available for recovery"
  | .crossTenantRecovery candidate target =>
      "cross-application or cross-organisation recovery refused: candidate app " ++
        toString candidate.bytes.toNat ++ " != target app " ++
        toString target.bytes.toNat
  | .versionMismatchDisallowed =>
      "no peer running matching version and cross-version recovery is not permitted"
  | .recoveryFailed none =>
      "recovery failed across all available peer executors"
  | .recoveryFailed (some error) =>
      "recovery failed across all available peer executors: " ++ error
  | .pendingAfterDatabaseRecovery =>
      "recovery failed across all available peer executors: " ++
        "pending workflows remain after database recovery"
  | .listingPeers error => "listing healthy peers: " ++ error
  | .verifyingPending error =>
      "verifying pending workflows after database recovery: " ++ error
  | .verifyingCrossVersionPending error =>
      "verifying cross-version pending workflows: " ++ error
  | .deletingRecord error => "deleting dead executor record: " ++ error

/-- The loop of `SelectCandidates`: exact matches and alternate versions. -/
def partitionPeers (deadAppID : UUID) (deadExecutorID deadVersion : String) :
    List Peer → Except RecoveryError (List Peer × List Peer)
  | [] => .ok ([], [])
  | peer :: peers =>
      if peer.appID ≠ deadAppID then
        .error (.crossTenantRecovery peer.appID deadAppID)
      else
        match partitionPeers deadAppID deadExecutorID deadVersion peers with
        | .error error => .error error
        | .ok (exactMatches, alternateVersions) =>
            if peer.executorID = deadExecutorID then
              .ok (exactMatches, alternateVersions)
            else if peer.applicationVersion = deadVersion then
              .ok (peer :: exactMatches, alternateVersions)
            else
              .ok (exactMatches, peer :: alternateVersions)

/-- `SelectCandidates`. -/
def selectCandidates (deadAppID : UUID) (deadExecutorID deadVersion : String)
    (peers : List Peer) (allowCrossVersion : Bool) :
    Except RecoveryError (List Peer) :=
  match partitionPeers deadAppID deadExecutorID deadVersion peers with
  | .error error => .error error
  | .ok (exactMatches, alternateVersions) =>
      if exactMatches ≠ [] then
        if allowCrossVersion then .ok (exactMatches ++ alternateVersions)
        else .ok exactMatches
      else if alternateVersions ≠ [] then
        if allowCrossVersion then .ok alternateVersions
        else .error .versionMismatchDisallowed
      else .error .noHealthyPeers

section Candidates

variable {deadAppID : UUID} {deadExecutorID deadVersion : String}

/-- The same-version peers, without the dead executor. -/
def exactPeers (deadExecutorID deadVersion : String) (peers : List Peer) :
    List Peer :=
  peers.filter fun peer =>
    peer.executorID ≠ deadExecutorID ∧ peer.applicationVersion = deadVersion

/-- The other-version peers, without the dead executor. -/
def alternatePeers (deadExecutorID deadVersion : String) (peers : List Peer) :
    List Peer :=
  peers.filter fun peer =>
    peer.executorID ≠ deadExecutorID ∧ peer.applicationVersion ≠ deadVersion

/-- With one application only, the loop is a pair of filters. -/
theorem partitionPeers_of_sameApplication {peers : List Peer}
    (sameApplication : ∀ peer ∈ peers, peer.appID = deadAppID) :
    partitionPeers deadAppID deadExecutorID deadVersion peers =
      .ok (exactPeers deadExecutorID deadVersion peers,
        alternatePeers deadExecutorID deadVersion peers) := by
  induction peers with
  | nil => rfl
  | cons peer peers induction =>
      rw [List.forall_mem_cons] at sameApplication
      rcases sameApplication with ⟨samePeer, sameRest⟩
      rw [partitionPeers, induction sameRest]
      simp only [samePeer, ne_eq, not_true_eq_false, if_false, exactPeers,
        alternatePeers, List.filter_cons]
      by_cases isDead : peer.executorID = deadExecutorID
      · simp [isDead]
      · by_cases sameVersion : peer.applicationVersion = deadVersion
        · simp [isDead, sameVersion]
        · simp [isDead, sameVersion]

/-- A peer of another application stops the loop, wherever it stands. -/
theorem partitionPeers_of_foreign (deadExecutorID deadVersion : String)
    {peers : List Peer} {foreign : Peer}
    (listed : foreign ∈ peers) (otherApplication : foreign.appID ≠ deadAppID) :
    ∃ candidate,
      partitionPeers deadAppID deadExecutorID deadVersion peers =
        .error (.crossTenantRecovery candidate deadAppID) := by
  induction peers with
  | nil => cases listed
  | cons peer peers induction =>
      by_cases samePeer : peer.appID = deadAppID
      · have inRest : foreign ∈ peers := by
          rcases List.mem_cons.mp listed with rfl | inRest
          · exact (otherApplication samePeer).elim
          · exact inRest
        rcases induction inRest with ⟨candidate, refused⟩
        refine ⟨candidate, ?_⟩
        rw [partitionPeers, if_neg (not_not.mpr samePeer), refused]
      · refine ⟨peer.appID, ?_⟩
        rw [partitionPeers, if_pos samePeer]

/-- The result is the refusal of a peer of another application. -/
def RefusesTenant (result : Except RecoveryError (List Peer)) : Prop :=
  ∃ candidate target, result = .error (.crossTenantRecovery candidate target)

theorem selectCandidates_of_foreign {peers : List Peer}
    {allowCrossVersion : Bool} {foreign : Peer}
    (listed : foreign ∈ peers) (otherApplication : foreign.appID ≠ deadAppID) :
    RefusesTenant
      (selectCandidates deadAppID deadExecutorID deadVersion peers
        allowCrossVersion) := by
  rcases partitionPeers_of_foreign deadExecutorID deadVersion listed
      otherApplication with
    ⟨candidate, refused⟩
  refine ⟨candidate, deadAppID, ?_⟩
  rw [selectCandidates, refused]

/-- The four results when every peer is of the dead executor's application. -/
theorem selectCandidates_of_sameApplication {peers : List Peer}
    (allowCrossVersion : Bool)
    (sameApplication : ∀ peer ∈ peers, peer.appID = deadAppID) :
    selectCandidates deadAppID deadExecutorID deadVersion peers
        allowCrossVersion =
      if exactPeers deadExecutorID deadVersion peers = [] ∧
          alternatePeers deadExecutorID deadVersion peers = [] then
        .error .noHealthyPeers
      else if allowCrossVersion then
        .ok (exactPeers deadExecutorID deadVersion peers ++
          alternatePeers deadExecutorID deadVersion peers)
      else if exactPeers deadExecutorID deadVersion peers = [] then
        .error .versionMismatchDisallowed
      else .ok (exactPeers deadExecutorID deadVersion peers) := by
  rw [selectCandidates, partitionPeers_of_sameApplication sameApplication]
  cases exactPeers deadExecutorID deadVersion peers with
  | nil =>
      cases alternatePeers deadExecutorID deadVersion peers with
      | nil => simp
      | cons peer others => simp
  | cons peer others => simp

theorem mem_exactPeers {peers : List Peer} {peer : Peer} :
    peer ∈ exactPeers deadExecutorID deadVersion peers ↔
      peer ∈ peers ∧ peer.executorID ≠ deadExecutorID ∧
        peer.applicationVersion = deadVersion := by
  simp [exactPeers]

theorem mem_alternatePeers {peers : List Peer} {peer : Peer} :
    peer ∈ alternatePeers deadExecutorID deadVersion peers ↔
      peer ∈ peers ∧ peer.executorID ≠ deadExecutorID ∧
        peer.applicationVersion ≠ deadVersion := by
  simp [alternatePeers]

/-- What `SelectCandidates` returns are peers of the application other than the dead one. -/
theorem mem_of_selectCandidates {peers candidates : List Peer}
    {allowCrossVersion : Bool} {candidate : Peer}
    (selected : selectCandidates deadAppID deadExecutorID deadVersion peers
      allowCrossVersion = .ok candidates)
    (member : candidate ∈ candidates) :
    candidate ∈ peers ∧ candidate.executorID ≠ deadExecutorID ∧
      candidate.appID = deadAppID := by
  have sameApplication : ∀ peer ∈ peers, peer.appID = deadAppID := by
    intro peer listed
    by_contra otherApplication
    rcases selectCandidates_of_foreign listed otherApplication with
      ⟨_, _, refused⟩
    rw [refused] at selected
    cases selected
  have fromEither :
      candidate ∈ exactPeers deadExecutorID deadVersion peers ∨
        candidate ∈ alternatePeers deadExecutorID deadVersion peers := by
    rw [selectCandidates_of_sameApplication allowCrossVersion sameApplication]
      at selected
    split_ifs at selected
    · cases selected
      exact List.mem_append.mp member
    · cases selected
      exact Or.inl member
  rcases fromEither with exactMatch | alternate
  · rcases mem_exactPeers.mp exactMatch with ⟨listed, notDead, -⟩
    exact ⟨listed, notDead, sameApplication candidate listed⟩
  · rcases mem_alternatePeers.mp alternate with ⟨listed, notDead, -⟩
    exact ⟨listed, notDead, sameApplication candidate listed⟩

/--
`SelectCandidates` on every list of peers: the refusal of another application
exactly when one is listed, otherwise the same-version peers before the others
as far as cross-version recovery is allowed, and in any case neither the dead
executor nor a peer of another application.
-/
theorem selectCandidates_result (deadAppID : UUID)
    (deadExecutorID deadVersion : String) (peers : List Peer)
    (allowCrossVersion : Bool) :
    let result := selectCandidates deadAppID deadExecutorID deadVersion peers
      allowCrossVersion
    let exactMatches := exactPeers deadExecutorID deadVersion peers
    let alternates := alternatePeers deadExecutorID deadVersion peers
    (RefusesTenant result ↔ ∃ peer ∈ peers, peer.appID ≠ deadAppID) ∧
      ((∀ peer ∈ peers, peer.appID = deadAppID) →
        (allowCrossVersion = true ∧ (exactMatches ≠ [] ∨ alternates ≠ []) →
          result = .ok (exactMatches ++ alternates)) ∧
        (allowCrossVersion = false ∧ exactMatches ≠ [] →
          result = .ok exactMatches) ∧
        (allowCrossVersion = false ∧ exactMatches = [] ∧ alternates ≠ [] →
          result = .error .versionMismatchDisallowed) ∧
        (exactMatches = [] ∧ alternates = [] →
          result = .error .noHealthyPeers)) ∧
      ∀ candidates, result = .ok candidates →
        ∀ candidate ∈ candidates,
          candidate.executorID ≠ deadExecutorID ∧
            candidate.appID = deadAppID := by
  intro result exactMatches alternates
  refine ⟨?_, ?_, ?_⟩
  · constructor
    · rintro ⟨candidate, target, refused⟩
      by_contra noneForeign
      push Not at noneForeign
      have decided : result = _ :=
        selectCandidates_of_sameApplication allowCrossVersion noneForeign
      rw [decided] at refused
      split_ifs at refused <;> cases refused
    · rintro ⟨foreign, listed, otherApplication⟩
      exact selectCandidates_of_foreign listed otherApplication
  · intro sameApplication
    have decided : result = _ :=
      selectCandidates_of_sameApplication allowCrossVersion sameApplication
    refine ⟨?_, ?_, ?_, ?_⟩
    · rintro ⟨allowed, someLeft⟩
      rw [decided, if_neg (not_and_or.mpr someLeft), if_pos allowed]
    · rintro ⟨disallowed, someExact⟩
      rw [decided, if_neg (fun both => someExact both.1), disallowed,
        if_neg Bool.false_ne_true, if_neg someExact]
    · rintro ⟨disallowed, noExact, someAlternate⟩
      rw [decided, if_neg (fun both => someAlternate both.2), disallowed,
        if_neg Bool.false_ne_true, if_pos noExact]
    · intro bothEmpty
      rw [decided, if_pos bothEmpty]
  · intro candidates selected candidate member
    exact (mem_of_selectCandidates selected member).2

end Candidates

/-! ## The world outside the dispatcher -/

/-- A PENDING workflow of the dead executor. -/
structure PendingWorkflow where
  id : String
  applicationVersion : String
deriving DecidableEq, Repr

/-- `RecoveryResponse`. -/
structure RecoveryResponse where
  success : Bool
  errorMessage : Option String
deriving DecidableEq, Repr

/-- What `SendRecovery` returns, and whether the peer acted without acknowledging. -/
structure SendOutcome where
  reply : Except String (Option RecoveryResponse)
  actedUnacknowledged : Bool

/-- The reply is a response reporting success. -/
def SendOutcome.acknowledged (outcome : SendOutcome) : Bool :=
  match outcome.reply with
  | .ok (some response) => response.success
  | _ => false

/-- The error `RecoverDeadExecutor` keeps of an outcome which is no acknowledgement. -/
def SendOutcome.refusal (outcome : SendOutcome) : String :=
  match outcome.reply with
  | .error error => error
  | .ok (some ⟨_, some errorMessage⟩) =>
      if errorMessage ≠ "" then errorMessage else "peer rejected recovery"
  | .ok _ => "peer rejected recovery"

/-- The reply to an `exist_pending_workflows` request. -/
inductive ProbeReply where
  | failed (error : String)
  | truthful
  | errored (errorMessage : String) (exist : Bool)
deriving DecidableEq, Repr

/--
`Hub.CheckPendingWorkflows`: the `exist` field of whatever response arrives;
its error message is not looked at.
-/
def checkPendingWorkflows (reply : ProbeReply) (pending : Bool) :
    Except String Bool :=
  match reply with
  | .failed error => .error error
  | .truthful => .ok pending
  | .errored _ exist => .ok exist

/-- One `Recover` call of the data plane and the workflows it re-enqueues. -/
structure DirectRecover where
  result : Except String (List String)
  reenqueues : PendingWorkflow → Bool

/-- The data plane of an application in Direct mode. -/
structure DirectRecovery where
  recoverDeadVersion : DirectRecover
  checkError : Option String
  recoverEveryVersion : DirectRecover
  recheckError : Option String

/-- Everything one call of `RecoverDeadExecutor` depends on. -/
structure RecoveryWorld where
  direct : Option DirectRecovery
  findHealthyPeers : Except String (List Peer)
  sendRecovery : Peer → SendOutcome
  transportProbes : Bool
  probe : Peer → ProbeReply
  allowVersionMismatch : Bool

/-- A peer carried out the recovery it was asked for. -/
def RecoveryWorld.reowns (world : RecoveryWorld) (peer : Peer) : Bool :=
  (world.sendRecovery peer).acknowledged ||
    (world.sendRecovery peer).actedUnacknowledged

/-- The workflows which remain once every peer of a list has been asked. -/
def RecoveryWorld.remaining (world : RecoveryWorld)
    (workflows : List PendingWorkflow) (asked : List Peer) :
    List PendingWorkflow :=
  workflows.filter fun workflow =>
    asked.all fun peer =>
      !(world.reowns peer &&
        workflow.applicationVersion = peer.applicationVersion)

/-- Some workflow is pending at a version. -/
def pendingAt (workflows : List PendingWorkflow) (version : String) : Bool :=
  workflows.any fun workflow => workflow.applicationVersion = version

/-! ## The dispatcher -/

/-- How a call ends: the record is deleted next, or an error is returned. -/
inductive RecoveryVerdict where
  | confirmed (targetExecutorID : String)
  | refused (error : RecoveryError)
deriving DecidableEq, Repr

/-- `directRecoveryTarget`. -/
def directRecoveryTarget : String := "database"

/-- The loop over the candidates. -/
def askCandidates (world : RecoveryWorld) (deadVersion : String) :
    List Peer → List PendingWorkflow → Option String →
      RecoveryVerdict × List PendingWorkflow
  | [], workflows, lastError =>
      (.refused (.recoveryFailed lastError), workflows)
  | candidate :: candidates, workflows, _ =>
      let left := world.remaining workflows [candidate]
      let outcome := world.sendRecovery candidate
      if !outcome.acknowledged then
        askCandidates world deadVersion candidates left (some outcome.refusal)
      else if candidate.applicationVersion ≠ deadVersion ∧
          world.transportProbes then
        match checkPendingWorkflows (world.probe candidate)
            (pendingAt left deadVersion) with
        | .error error =>
            askCandidates world deadVersion candidates left (some error)
        | .ok true =>
            askCandidates world deadVersion candidates left
              (some "cross-version recovery acknowledged but pending workflows remain")
        | .ok false => (.confirmed candidate.executorID, left)
      else (.confirmed candidate.executorID, left)

/-- The WebSocket path. -/
def recoverOverPeers (world : RecoveryWorld) (appID : UUID)
    (deadExecutorID deadVersion : String)
    (workflows : List PendingWorkflow) :
    RecoveryVerdict × List PendingWorkflow :=
  match world.findHealthyPeers with
  | .error error => (.refused (.listingPeers error), workflows)
  | .ok peers =>
      match selectCandidates appID deadExecutorID deadVersion peers
          world.allowVersionMismatch with
      | .error error => (.refused error, workflows)
      | .ok candidates =>
          askCandidates world deadVersion candidates workflows none

/-- The workflows a `Recover` call leaves. -/
def DirectRecover.left (call : DirectRecover)
    (workflows : List PendingWorkflow) : List PendingWorkflow :=
  workflows.filter fun workflow => !call.reenqueues workflow

/-- The database path once its first `Recover` has succeeded. -/
def verifyDirect (direct : DirectRecovery) (allowVersionMismatch : Bool)
    (workflows : List PendingWorkflow) :
    RecoveryVerdict × List PendingWorkflow :=
  match direct.checkError with
  | some error => (.refused (.verifyingPending error), workflows)
  | none =>
      if workflows ≠ [] ∧ allowVersionMismatch then
        let left := direct.recoverEveryVersion.left workflows
        match direct.recoverEveryVersion.result with
        | .error _ => (.refused .pendingAfterDatabaseRecovery, left)
        | .ok _ =>
            match direct.recheckError with
            | some error =>
                (.refused (.verifyingCrossVersionPending error), left)
            | none =>
                if left ≠ [] then
                  (.refused .pendingAfterDatabaseRecovery, left)
                else (.confirmed directRecoveryTarget, left)
      else if workflows ≠ [] then
        (.refused .pendingAfterDatabaseRecovery, workflows)
      else (.confirmed directRecoveryTarget, workflows)

/--
`RecoverDeadExecutor` up to the deletion, with the PENDING workflows of the
dead executor before the call.  The second component is what remains of them.
-/
def recoverDeadExecutor (world : RecoveryWorld) (appID : UUID)
    (deadExecutorID deadVersion : String)
    (workflows : List PendingWorkflow) :
    RecoveryVerdict × List PendingWorkflow :=
  match world.direct with
  | none =>
      recoverOverPeers world appID deadExecutorID deadVersion workflows
  | some direct =>
      let left := direct.recoverDeadVersion.left workflows
      match direct.recoverDeadVersion.result with
      | .ok _ => verifyDirect direct world.allowVersionMismatch left
      | .error _ =>
          recoverOverPeers world appID deadExecutorID deadVersion left

/-! ## Whose acknowledgement is final -/

section Orphans

variable {world : RecoveryWorld} {deadVersion : String}
variable {workflows : List PendingWorkflow}

/--
Every workflow is at the version of a peer asked so far which carried out the
recovery it was asked for.
-/
def RecoveryWorld.Covered (world : RecoveryWorld)
    (workflows : List PendingWorkflow) (asked : List Peer) : Prop :=
  ∀ workflow ∈ workflows, ∃ peer ∈ asked,
    world.reowns peer = true ∧
      workflow.applicationVersion = peer.applicationVersion

/--
The dispatcher takes the acknowledgement of `candidate`, asked after `asked`,
as the end of the recovery: the peer runs the dead version, or it is not
probed, or the probe reports nothing pending at the dead version.
-/
def RecoveryWorld.Final (world : RecoveryWorld) (deadVersion : String)
    (workflows : List PendingWorkflow) (asked : List Peer)
    (candidate : Peer) : Prop :=
  (world.sendRecovery candidate).acknowledged = true ∧
    (candidate.applicationVersion = deadVersion ∨
      world.transportProbes = false ∨
      checkPendingWorkflows (world.probe candidate)
        (pendingAt (world.remaining workflows (asked ++ [candidate]))
          deadVersion) = .ok false)

/-- `candidate` is the first of the candidates whose acknowledgement is final. -/
structure RecoveryWorld.FirstFinal (world : RecoveryWorld)
    (deadVersion : String) (workflows : List PendingWorkflow)
    (candidates asked : List Peer) (candidate : Peer) : Prop where
  inOrder : asked ++ [candidate] <+: candidates
  final : world.Final deadVersion workflows asked candidate
  earlier : ∀ before peer, before ++ [peer] <+: asked →
    ¬ world.Final deadVersion workflows before peer

theorem remaining_eq_nil_iff {asked : List Peer} :
    world.remaining workflows asked = [] ↔
      world.Covered workflows asked := by
  rw [RecoveryWorld.remaining, List.filter_eq_nil_iff]
  constructor
  · intro nothingLeft workflow member
    have covered := nothingLeft workflow member
    simpa using covered
  · intro covered workflow member
    rcases covered workflow member with ⟨peer, wasAsked, reowned, sameVersion⟩
    simpa using ⟨peer, wasAsked, reowned, sameVersion⟩

theorem remaining_remaining (first second : List Peer) :
    world.remaining (world.remaining workflows first) second =
      world.remaining workflows (first ++ second) := by
  simp only [RecoveryWorld.remaining, List.filter_filter, List.all_append]
  apply List.filter_congr
  intro workflow _
  exact Bool.and_comm _ _

/-- Asking one peer first shifts what is final afterwards. -/
theorem final_remaining_iff (first candidate : Peer) (asked : List Peer) :
    world.Final deadVersion (world.remaining workflows [first]) asked candidate ↔
      world.Final deadVersion workflows (first :: asked) candidate := by
  rw [RecoveryWorld.Final, RecoveryWorld.Final, remaining_remaining]
  rfl

/-- A final acknowledgement of the first candidate ends the loop. -/
theorem askCandidates_cons_of_final
    {candidate : Peer} {candidates : List Peer} {lastError : Option String}
    (final : world.Final deadVersion workflows [] candidate) :
    askCandidates world deadVersion (candidate :: candidates) workflows
        lastError =
      (.confirmed candidate.executorID,
        world.remaining workflows [candidate]) := by
  rcases final with ⟨acknowledged, sameVersion | notProbed | nothingPending⟩
  · simp [askCandidates, acknowledged, sameVersion]
  · simp [askCandidates, acknowledged, notProbed]
  · rw [List.nil_append] at nothingPending
    simp only [askCandidates, acknowledged, nothingPending]
    split_ifs <;> simp_all

/-- Otherwise the loop goes on with what the candidate left. -/
theorem askCandidates_cons_of_not_final
    {candidate : Peer} {candidates : List Peer} {lastError : Option String}
    (notFinal : ¬ world.Final deadVersion workflows [] candidate) :
    ∃ nextError,
      askCandidates world deadVersion (candidate :: candidates) workflows
          lastError =
        askCandidates world deadVersion candidates
          (world.remaining workflows [candidate]) nextError := by
  rw [RecoveryWorld.Final, List.nil_append] at notFinal
  by_cases acknowledged : (world.sendRecovery candidate).acknowledged = true
  · rw [and_iff_right acknowledged, not_or, not_or, Bool.not_eq_false]
      at notFinal
    rcases notFinal with ⟨otherVersion, probed, stillPending⟩
    cases answer : checkPendingWorkflows (world.probe candidate)
        (pendingAt (world.remaining workflows [candidate]) deadVersion) with
    | error error =>
        refine ⟨some error, ?_⟩
        simp [askCandidates, acknowledged, otherVersion, probed, answer]
    | ok pending =>
        cases pending with
        | false => exact (stillPending answer).elim
        | true =>
            refine
              ⟨some "cross-version recovery acknowledged but pending workflows remain",
                ?_⟩
            simp [askCandidates, acknowledged, otherVersion, probed, answer]
  · refine ⟨some (world.sendRecovery candidate).refusal, ?_⟩
    simp [askCandidates, acknowledged]

/-- A head which is final is the first. -/
theorem firstFinal_cons_of_final {head candidate : Peer} {tail asked : List Peer}
    (headFinal : world.Final deadVersion workflows [] head) :
    world.FirstFinal deadVersion workflows (head :: tail) asked candidate ↔
      asked = [] ∧ candidate = head := by
  constructor
  · intro first
    cases asked with
    | nil => exact ⟨rfl, by simpa using first.inOrder⟩
    | cons askedHead askedTail =>
        have isPrefix := first.inOrder
        rw [List.cons_append, List.cons_prefix_cons] at isPrefix
        rcases isPrefix with ⟨rfl, -⟩
        exact (first.earlier [] askedHead (by simp) headFinal).elim
  · rintro ⟨rfl, rfl⟩
    refine ⟨by simp, headFinal, ?_⟩
    intro before peer isPrefix
    simp at isPrefix

/-- A head which is not final is asked before the first one. -/
theorem firstFinal_cons_of_not_final {head candidate : Peer}
    {tail asked : List Peer}
    (headNotFinal : ¬ world.Final deadVersion workflows [] head) :
    world.FirstFinal deadVersion workflows (head :: tail) asked candidate ↔
      ∃ askedTail, asked = head :: askedTail ∧
        world.FirstFinal deadVersion (world.remaining workflows [head]) tail
          askedTail candidate := by
  constructor
  · intro first
    cases asked with
    | nil =>
        have sameHead : candidate = head := by
          simpa using first.inOrder
        rw [sameHead] at first
        exact (headNotFinal first.final).elim
    | cons askedHead askedTail =>
        have inOrder := first.inOrder
        rw [List.cons_append, List.cons_prefix_cons] at inOrder
        rcases inOrder with ⟨rfl, tailOrder⟩
        refine ⟨askedTail, rfl, tailOrder, ?_, ?_⟩
        · exact (final_remaining_iff askedHead candidate askedTail).mpr
            first.final
        · intro before peer isPrefix
          rw [final_remaining_iff]
          apply first.earlier (askedHead :: before) peer
          rw [List.cons_append, List.cons_prefix_cons]
          exact ⟨rfl, isPrefix⟩
  · rintro ⟨askedTail, rfl, first⟩
    refine ⟨?_, ?_, ?_⟩
    · rw [List.cons_append, List.cons_prefix_cons]
      exact ⟨rfl, first.inOrder⟩
    · exact (final_remaining_iff head candidate askedTail).mp first.final
    · intro before peer isPrefix
      cases before with
      | nil =>
          have sameHead : peer = head := by
            simpa using isPrefix
          rw [sameHead]
          exact headNotFinal
      | cons beforeHead beforeTail =>
          rw [List.cons_append, List.cons_prefix_cons] at isPrefix
          rcases isPrefix with ⟨rfl, tailPrefix⟩
          rw [← final_remaining_iff]
          exact first.earlier beforeTail peer tailPrefix

/-- The loop confirms exactly at the first final acknowledgement. -/
theorem askCandidates_eq_confirmed_iff
    {candidates : List Peer} {lastError : Option String}
    {target : String} {left : List PendingWorkflow} :
    askCandidates world deadVersion candidates workflows lastError =
        (.confirmed target, left) ↔
      ∃ asked candidate,
        world.FirstFinal deadVersion workflows candidates asked candidate ∧
          target = candidate.executorID ∧
          left = world.remaining workflows (asked ++ [candidate]) := by
  induction candidates generalizing workflows lastError with
  | nil =>
      constructor
      · intro confirmed
        simp [askCandidates] at confirmed
      · rintro ⟨asked, candidate, first, -, -⟩
        have impossible := first.inOrder
        simp at impossible
  | cons head tail induction =>
      by_cases headFinal : world.Final deadVersion workflows [] head
      · rw [askCandidates_cons_of_final headFinal]
        simp only [firstFinal_cons_of_final headFinal]
        constructor
        · intro confirmed
          cases confirmed
          exact ⟨[], head, ⟨rfl, rfl⟩, rfl, rfl⟩
        · rintro ⟨asked, candidate, ⟨rfl, rfl⟩, rfl, rfl⟩
          rfl
      · rcases askCandidates_cons_of_not_final headFinal with
          ⟨nextError, goesOn⟩
        rw [goesOn, induction]
        simp only [firstFinal_cons_of_not_final headFinal, remaining_remaining]
        constructor
        · rintro ⟨asked, candidate, first, rfl, rfl⟩
          exact ⟨head :: asked, candidate, ⟨asked, rfl, first⟩, rfl, rfl⟩
        · rintro ⟨asked, candidate, ⟨askedTail, rfl, first⟩, rfl, rfl⟩
          exact ⟨askedTail, candidate, first, rfl, rfl⟩

end Orphans

/-! ## No work is orphaned -/

/-- A call which goes on to delete the record leaves no pending workflow behind. -/
def OrphansNothing (result : RecoveryVerdict × List PendingWorkflow) : Prop :=
  ∀ target, result.1 = .confirmed target → result.2 = []

/-- The workflows the database path leaves to the peers, when it leaves any call to them. -/
def RecoveryWorld.leftToPeers (world : RecoveryWorld)
    (workflows : List PendingWorkflow) : Option (List PendingWorkflow) :=
  match world.direct with
  | none => some workflows
  | some direct =>
      match direct.recoverDeadVersion.result with
      | .ok _ => none
      | .error _ => some (direct.recoverDeadVersion.left workflows)

/--
Whenever the peers are asked, the ones asked up to the first final
acknowledgement which carried out the recovery run, between them, every version at
which a workflow of the dead executor is pending.
-/
def RecoveryWorld.PeersCover (world : RecoveryWorld) (appID : UUID)
    (deadExecutorID deadVersion : String)
    (workflows : List PendingWorkflow) : Prop :=
  ∀ left ∈ world.leftToPeers workflows,
    ∀ peers candidates asked candidate,
      world.findHealthyPeers = .ok peers →
        selectCandidates appID deadExecutorID deadVersion peers
            world.allowVersionMismatch = .ok candidates →
          world.FirstFinal deadVersion left candidates asked candidate →
            world.Covered left (asked ++ [candidate])

/-- The database path deletes the record only when nothing is pending at any version. -/
theorem verifyDirect_orphansNothing
    (direct : DirectRecovery) (allowVersionMismatch : Bool)
    (workflows : List PendingWorkflow) :
    OrphansNothing (verifyDirect direct allowVersionMismatch workflows) := by
  intro target confirmed
  rw [verifyDirect] at confirmed ⊢
  split at confirmed
  · cases confirmed
  · split_ifs at confirmed ⊢ with rerun pending
    · dsimp only at confirmed ⊢
      split at confirmed
      · cases confirmed
      · split at confirmed
        · cases confirmed
        · split_ifs at confirmed ⊢ with stillPending
          exact not_not.mp stillPending
    · exact not_not.mp pending

theorem recoverOverPeers_orphansNothing_iff
    (world : RecoveryWorld) (appID : UUID)
    (deadExecutorID deadVersion : String)
    (left : List PendingWorkflow) :
    OrphansNothing
        (recoverOverPeers world appID deadExecutorID deadVersion left) ↔
      ∀ peers candidates asked candidate,
        world.findHealthyPeers = .ok peers →
          selectCandidates appID deadExecutorID deadVersion peers
              world.allowVersionMismatch = .ok candidates →
            world.FirstFinal deadVersion left candidates asked candidate →
              world.Covered left (asked ++ [candidate]) := by
  constructor
  · intro orphansNothing peers candidates asked candidate found selected first
    have confirmed :
        recoverOverPeers world appID deadExecutorID deadVersion left =
          (.confirmed candidate.executorID,
            world.remaining left (asked ++ [candidate])) := by
      rw [recoverOverPeers, found]
      dsimp only
      rw [selected]
      exact askCandidates_eq_confirmed_iff.mpr
        ⟨asked, candidate, first, rfl, rfl⟩
    rw [← remaining_eq_nil_iff]
    have nothingLeft := orphansNothing candidate.executorID
    rw [confirmed] at nothingLeft
    exact nothingLeft rfl
  · intro covered target confirmed
    rw [recoverOverPeers] at confirmed ⊢
    cases found : world.findHealthyPeers with
    | error error =>
        rw [found] at confirmed
        cases confirmed
    | ok peers =>
        rw [found] at confirmed
        dsimp only at confirmed ⊢
        cases selected : selectCandidates appID deadExecutorID deadVersion peers
            world.allowVersionMismatch with
        | error error =>
            rw [selected] at confirmed
            cases confirmed
        | ok candidates =>
            rw [selected] at confirmed
            dsimp only at confirmed ⊢
            rcases askCandidates_eq_confirmed_iff.mp
                (Prod.ext confirmed rfl) with
              ⟨asked, candidate, first, -, leftover⟩
            exact leftover.trans
              (remaining_eq_nil_iff.mpr
                (covered peers candidates asked candidate found selected first))

/--
`RecoverDeadExecutor` deletes the record of a dead executor only when none of
its workflows is pending at any version, exactly when the peers it has asked and
which carried out the recovery run every version which is pending.  The database
path always meets this; the WebSocket path checks the dead version only, and only
of a peer which runs another one.
-/
theorem recoverDeadExecutor_orphansNothing_iff
    (world : RecoveryWorld) (appID : UUID)
    (deadExecutorID deadVersion : String)
    (workflows : List PendingWorkflow) :
    OrphansNothing
        (recoverDeadExecutor world appID deadExecutorID deadVersion
          workflows) ↔
      world.PeersCover appID deadExecutorID deadVersion workflows := by
  rw [recoverDeadExecutor, RecoveryWorld.PeersCover, RecoveryWorld.leftToPeers]
  cases world.direct with
  | none =>
      rw [recoverOverPeers_orphansNothing_iff]
      simp
  | some direct =>
      dsimp only
      cases direct.recoverDeadVersion.result with
      | ok ids =>
          constructor
          · intro _ left impossible
            cases impossible
          · intro _
            exact verifyDirect_orphansNothing _ _ _
      | error error =>
          dsimp only
          rw [recoverOverPeers_orphansNothing_iff]
          simp

/--
A peer at the dead executor's own version acknowledges.  A workflow which an
earlier rollout left at another version is never looked at.
-/
def rolloutLeftover : RecoveryWorld where
  direct := none
  findHealthyPeers := .ok [⟨⟨1⟩, "peer-v2", "v2"⟩]
  sendRecovery _ := ⟨.ok (some ⟨true, none⟩), false⟩
  transportProbes := true
  probe _ := .truthful
  allowVersionMismatch := false

theorem rolloutLeftover_orphans :
    recoverDeadExecutor rolloutLeftover ⟨1⟩ "exec-dead" "v2"
        [⟨"workflow-1", "v1"⟩] =
      (.confirmed "peer-v2", [⟨"workflow-1", "v1"⟩]) ∧
    ¬ OrphansNothing
      (recoverDeadExecutor rolloutLeftover ⟨1⟩ "exec-dead" "v2"
        [⟨"workflow-1", "v1"⟩]) := by
  have result :
      recoverDeadExecutor rolloutLeftover ⟨1⟩ "exec-dead" "v2"
          [⟨"workflow-1", "v1"⟩] =
        (.confirmed "peer-v2", [⟨"workflow-1", "v1"⟩]) := by
    decide
  refine ⟨result, ?_⟩
  intro orphansNothing
  rw [result] at orphansNothing
  cases orphansNothing "peer-v2" rfl

end DbosRelay.Liveness
