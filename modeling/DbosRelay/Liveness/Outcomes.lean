import DbosRelay.Library.Programs
import DbosRelay.Liveness.Dispatch

/-!
# Outcomes of a recovery

`RecoverDeadExecutor` once more, as the sequence of requests it makes: to the
data plane, the peer finder, the transport and its prober, the deleter and the
recorder.  Every one of them answers in any way.  A complete run is a trace of
requests with their answers, and the module says which traces there are: whom
they contact, when they delete the record, what they write down and what they
return.
-/

namespace DbosRelay.Liveness

open DbosRelay.Basic
open DbosRelay.Library.Programs

/-! ## The requests -/

/-- `gen.RecordRecoveryDispatchParams`. -/
structure RecordRecoveryDispatchParams where
  applicationID : UUID
  deadExecutorID : String
  targetExecutorID : String
  dispatchedAt : Time
  success : Bool
deriving DecidableEq, Repr

/--
What the dispatcher asks of the world.  The transport and the prober are given
a candidate's executor ID; the candidate itself is kept for the record.
-/
inductive DispatchRequest where
  | hasDirectRecovery (appID : UUID)
  | recover (appID : UUID) (executorIDs : List String) (appVersion : String)
  | checkPending (appID : UUID) (executorID appVersion : String)
  | findHealthyPeers (appID : UUID)
  | newRequestID
  | sendRecovery (appID : UUID) (candidate : Peer) (requestID : String)
      (executorIDs : List String)
  | probe (appID : UUID) (candidate : Peer)
      (deadExecutorID deadVersion : String)
  | deleteExecutor (key : ExecutorKey)
  | now
  | recordRecoveryDispatch (params : RecordRecoveryDispatchParams)
deriving DecidableEq, Repr

/-- The answers; of a deletion and of a record, the error if there is one. -/
def DispatchRequest.Reply : DispatchRequest → Type
  | .hasDirectRecovery _ => Bool
  | .recover _ _ _ => Except String (List String)
  | .checkPending _ _ _ => Except String Bool
  | .findHealthyPeers _ => Except String (List Peer)
  | .newRequestID => String
  | .sendRecovery _ _ _ _ => Except String (Option RecoveryResponse)
  | .probe _ _ _ _ => Except String Bool
  | .deleteExecutor _ => Option String
  | .now => Time
  | .recordRecoveryDispatch _ => Option String

/-- Programs over the dispatcher's requests. -/
abbrev DispatchProgram := Program DispatchRequest DispatchRequest.Reply

/-- A request of the dispatcher and its answer. -/
abbrev DispatchEvent :=
  Library.Programs.Event DispatchRequest DispatchRequest.Reply Unit

namespace Ask

variable (appID : UUID)

/-- `HasDirectRecovery`. -/
abbrev hasDirectRecovery : DispatchProgram Bool :=
  Program.ask (DispatchRequest.hasDirectRecovery appID)

/-- `DirectRecovery.Recover`. -/
abbrev recover (executorIDs : List String) (appVersion : String) :
    DispatchProgram (Except String (List String)) :=
  Program.ask (DispatchRequest.recover appID executorIDs appVersion)

/-- `DirectRecovery.CheckPendingWorkflows`. -/
abbrev checkPending (executorID appVersion : String) :
    DispatchProgram (Except String Bool) :=
  Program.ask (DispatchRequest.checkPending appID executorID appVersion)

/-- `FindHealthyPeers`. -/
abbrev findHealthyPeers : DispatchProgram (Except String (List Peer)) :=
  Program.ask (DispatchRequest.findHealthyPeers appID)

/-- `uuid.NewString`. -/
abbrev newRequestID : DispatchProgram String :=
  Program.ask DispatchRequest.newRequestID

/-- `SendRecovery`. -/
abbrev sendRecovery (candidate : Peer) (requestID : String)
    (executorIDs : List String) :
    DispatchProgram (Except String (Option RecoveryResponse)) :=
  Program.ask (DispatchRequest.sendRecovery appID candidate requestID executorIDs)

/-- `WorkflowProber.CheckPendingWorkflows`. -/
abbrev probe (candidate : Peer) (deadExecutorID deadVersion : String) :
    DispatchProgram (Except String Bool) :=
  Program.ask (DispatchRequest.probe appID candidate deadExecutorID deadVersion)

/-- `DeleteExecutor`. -/
abbrev deleteExecutor (key : ExecutorKey) : DispatchProgram (Option String) :=
  Program.ask (DispatchRequest.deleteExecutor key)

/-- `time.Now`. -/
abbrev now : DispatchProgram Time :=
  Program.ask DispatchRequest.now

/-- `RecordRecoveryDispatch`. -/
abbrev recordRecoveryDispatch (params : RecordRecoveryDispatchParams) :
    DispatchProgram (Option String) :=
  Program.ask (DispatchRequest.recordRecoveryDispatch params)

end Ask

/-- `RecoveryDispatcher`: which of its collaborators are configured. -/
structure RecoveryDispatcher where
  direct : Bool
  deleter : Bool
  recorder : Bool
  transportProbes : Bool
  allowVersionMismatch : Bool

namespace RecoveryDispatcher

variable (dispatcher : RecoveryDispatcher) (appID : UUID)
variable (deadExecutorID deadVersion : String)

/-- Record an outcome; an error of the recorder is logged at most. -/
def record (targetExecutorID : String) (success : Bool) :
    DispatchProgram Unit :=
  if dispatcher.recorder then do
    let dispatchedAt ← Ask.now
    let _ ← Ask.recordRecoveryDispatch
      ⟨appID, deadExecutorID, targetExecutorID, dispatchedAt, success⟩
    pure ()
  else pure ()

/-- Recovery is confirmed: delete the record of the dead executor. -/
def confirm (targetExecutorID : String) :
    DispatchProgram (Except RecoveryError Unit) := do
  let failure ←
    if dispatcher.deleter then
      Ask.deleteExecutor ⟨appID, deadExecutorID⟩
    else pure none
  match failure with
  | some error => pure (.error (.deletingRecord error))
  | none =>
      dispatcher.record appID deadExecutorID targetExecutorID true
      pure (.ok ())

/-- The loop over the candidates. -/
def askCandidates (requestID : String) :
    List Peer → Option String → DispatchProgram (Except RecoveryError Unit)
  | [], lastError => pure (.error (.recoveryFailed lastError))
  | candidate :: candidates, _ => do
      let reply ← Ask.sendRecovery appID candidate requestID [deadExecutorID]
      let outcome : SendOutcome := ⟨reply, false⟩
      if !outcome.acknowledged then
        dispatcher.record appID deadExecutorID candidate.executorID false
        askCandidates requestID candidates (some outcome.refusal)
      else if candidate.applicationVersion ≠ deadVersion ∧
          dispatcher.transportProbes then
        match ← Ask.probe appID candidate deadExecutorID deadVersion with
        | .error error =>
            dispatcher.record appID deadExecutorID candidate.executorID false
            askCandidates requestID candidates (some error)
        | .ok true =>
            dispatcher.record appID deadExecutorID candidate.executorID false
            askCandidates requestID candidates
              (some "cross-version recovery acknowledged but pending workflows remain")
        | .ok false =>
            dispatcher.confirm appID deadExecutorID candidate.executorID
      else dispatcher.confirm appID deadExecutorID candidate.executorID

/-- The WebSocket path. -/
def recoverOverPeers : DispatchProgram (Except RecoveryError Unit) := do
  match ← Ask.findHealthyPeers appID with
  | .error error => pure (.error (.listingPeers error))
  | .ok peers =>
      match selectCandidates appID deadExecutorID deadVersion peers
          dispatcher.allowVersionMismatch with
      | .error error => pure (.error error)
      | .ok candidates =>
          let requestID ← Ask.newRequestID
          dispatcher.askCandidates appID deadExecutorID deadVersion requestID
            candidates none

/-- The last look of the database path at what is pending. -/
def concludeDirect (pending : Bool) :
    DispatchProgram (Except RecoveryError Unit) :=
  if pending then pure (.error .pendingAfterDatabaseRecovery)
  else dispatcher.confirm appID deadExecutorID directRecoveryTarget

/-- The database path once its first `Recover` has succeeded. -/
def verifyDirect : DispatchProgram (Except RecoveryError Unit) := do
  match ← Ask.checkPending appID deadExecutorID "" with
  | .error error => pure (.error (.verifyingPending error))
  | .ok pending =>
      if pending && dispatcher.allowVersionMismatch then
        match ← Ask.recover appID [deadExecutorID] "" with
        | .error _ => dispatcher.concludeDirect appID deadExecutorID pending
        | .ok _ =>
            match ← Ask.checkPending appID deadExecutorID "" with
            | .error error => pure (.error (.verifyingCrossVersionPending error))
            | .ok stillPending =>
                dispatcher.concludeDirect appID deadExecutorID stillPending
      else dispatcher.concludeDirect appID deadExecutorID pending

/-- `RecoverDeadExecutor`. -/
def recoverDeadExecutor : DispatchProgram (Except RecoveryError Unit) := do
  let direct ←
    if dispatcher.direct then Ask.hasDirectRecovery appID
    else pure false
  if direct then
    match ← Ask.recover appID [deadExecutorID] deadVersion with
    | .ok _ => dispatcher.verifyDirect appID deadExecutorID
    | .error _ =>
        dispatcher.recoverOverPeers appID deadExecutorID deadVersion
  else dispatcher.recoverOverPeers appID deadExecutorID deadVersion

end RecoveryDispatcher

/-! ## The verdict of a world -/

section Verdicts

variable {world : RecoveryWorld} {appID : UUID}
variable {deadExecutorID deadVersion : String}

/-- The world between two requests: what is pending, and the `Recover` calls so far. -/
structure Recovering where
  workflows : List PendingWorkflow
  recovers : Nat

/-- The dispatcher of a world. -/
def RecoveryWorld.dispatcher (world : RecoveryWorld)
    (deleter recorder : Bool) : RecoveryDispatcher :=
  ⟨world.direct.isSome, deleter, recorder, world.transportProbes,
    world.allowVersionMismatch⟩

/-- The next `Recover` call of the data plane. -/
def DirectRecovery.recover (direct : DirectRecovery) (recovers : Nat) :
    DirectRecover :=
  if recovers = 0 then direct.recoverDeadVersion else direct.recoverEveryVersion

/-- The answer to the check which follows a `Recover` call. -/
def DirectRecovery.check (direct : DirectRecovery) (state : Recovering) :
    Except String Bool :=
  match if state.recovers ≤ 1 then direct.checkError else direct.recheckError with
  | some error => .error error
  | none => .ok (state.workflows ≠ [])

/-- The answers of a world; how a deletion or a record ends is a choice. -/
def RecoveryWorld.perform (world : RecoveryWorld) (deadVersion : String)
    (choice : Option String) (request : DispatchRequest) (state : Recovering) :
    request.Reply × Recovering :=
  match request with
  | .hasDirectRecovery _ => (world.direct.isSome, state)
  | .recover _ _ _ =>
      match world.direct with
      | none => ((.error "" : Except String (List String)), state)
      | some direct =>
          let call := direct.recover state.recovers
          (call.result, ⟨call.left state.workflows, state.recovers + 1⟩)
  | .checkPending _ _ _ =>
      match world.direct with
      | none => ((.error "" : Except String Bool), state)
      | some direct => (direct.check state, state)
  | .findHealthyPeers _ => (world.findHealthyPeers, state)
  | .newRequestID => (choice.getD "", state)
  | .sendRecovery _ candidate _ _ =>
      ((world.sendRecovery candidate).reply,
        ⟨world.remaining state.workflows [candidate], state.recovers⟩)
  | .probe _ candidate _ _ =>
      (checkPendingWorkflows (world.probe candidate)
        (pendingAt state.workflows deadVersion), state)
  | .deleteExecutor _ => (choice, state)
  | .now => ((0 : Time), state)
  | .recordRecoveryDispatch _ => (choice, state)

/-- The call ends as its verdict says; a confirmed one may still fail to delete. -/
def Concludes (verdict : RecoveryVerdict × List PendingWorkflow)
    (result : Except RecoveryError Unit) (after : Recovering) : Prop :=
  after.workflows = verdict.2 ∧
    match verdict.1 with
    | .confirmed _ =>
        result = .ok () ∨ ∃ error, result = .error (.deletingRecord error)
    | .refused error => result = .error error

theorem record_ends {dispatcher : RecoveryDispatcher}
    {targetExecutorID : String} {success : Bool} {before after : Recovering}
    (ends : (dispatcher.record appID deadExecutorID targetExecutorID success).Ends
      (world.perform deadVersion) before () after) :
    after = before := by
  rw [RecoveryDispatcher.record] at ends
  split_ifs at ends
  · obtain ⟨_, ends⟩ := Program.ends_ask.mp ends
    obtain ⟨_, ends⟩ := Program.ends_ask.mp ends
    exact (Program.ends_done.mp ends).2
  · exact (Program.ends_done.mp ends).2

theorem confirm_concludes {dispatcher : RecoveryDispatcher}
    {targetExecutorID : String} {result : Except RecoveryError Unit}
    {before after : Recovering}
    (ends : (dispatcher.confirm appID deadExecutorID targetExecutorID).Ends
      (world.perform deadVersion) before result after) :
    Concludes (.confirmed targetExecutorID, before.workflows) result after := by
  have finish : ∀ failure : Option String,
      (match failure with
        | some error => pure (.error (.deletingRecord error))
        | none => do
            dispatcher.record appID deadExecutorID targetExecutorID true
            pure (.ok ()) : DispatchProgram (Except RecoveryError Unit)).Ends
          (world.perform deadVersion) before result after →
        Concludes (.confirmed targetExecutorID, before.workflows) result
          after := by
    intro failure ends
    cases failure with
    | some error =>
        obtain ⟨rfl, rfl⟩ := Program.ends_done.mp ends
        exact ⟨rfl, Or.inr ⟨error, rfl⟩⟩
    | none =>
        obtain ⟨_, _, recorded, ends⟩ := Program.ends_bind.mp ends
        obtain ⟨rfl, rfl⟩ := Program.ends_done.mp ends
        rw [record_ends recorded]
        exact ⟨rfl, Or.inl rfl⟩
  rw [RecoveryDispatcher.confirm] at ends
  split_ifs at ends
  · obtain ⟨failure, ends⟩ := Program.ends_ask.mp ends
    exact finish failure ends
  · exact finish none ends

theorem askCandidates_concludes {deleter recorder : Bool} {requestID : String}
    {candidates : List Peer} {lastError : Option String}
    {result : Except RecoveryError Unit} {before after : Recovering}
    (ends : ((world.dispatcher deleter recorder).askCandidates appID
      deadExecutorID deadVersion requestID candidates lastError).Ends
        (world.perform deadVersion) before result after) :
    Concludes
      (askCandidates world deadVersion candidates before.workflows lastError)
      result after := by
  induction candidates generalizing before lastError with
  | nil =>
      obtain ⟨rfl, rfl⟩ := Program.ends_done.mp ends
      exact ⟨rfl, rfl⟩
  | cons candidate candidates induction =>
      have goesOn : ∀ (middle : Recovering) (nextError : Option String),
          (do
            (world.dispatcher deleter recorder).record appID deadExecutorID
              candidate.executorID false
            (world.dispatcher deleter recorder).askCandidates appID
              deadExecutorID deadVersion requestID candidates nextError).Ends
            (world.perform deadVersion) middle result after →
          Concludes
            (askCandidates world deadVersion candidates middle.workflows
              nextError) result after := by
        intro middle nextError ends
        obtain ⟨_, recorded, stays, ends⟩ := Program.ends_bind.mp ends
        rw [record_ends stays] at ends
        exact induction ends
      rw [RecoveryDispatcher.askCandidates] at ends
      obtain ⟨_, ends⟩ := Program.ends_ask.mp ends
      have ends : (if (!(world.sendRecovery candidate).acknowledged) = true then _
        else _ : DispatchProgram (Except RecoveryError Unit)).Ends
          (world.perform deadVersion)
          ⟨world.remaining before.workflows [candidate], before.recovers⟩
          result after := ends
      have sameProbes : (world.dispatcher deleter recorder).transportProbes =
          world.transportProbes := rfl
      rw [sameProbes] at ends
      rw [askCandidates]
      split_ifs at ends ⊢ with refused probed
      · exact goesOn _ _ ends
      · obtain ⟨_, ends⟩ := Program.ends_ask.mp ends
        have ends : (match checkPendingWorkflows (world.probe candidate)
            (pendingAt (world.remaining before.workflows [candidate])
              deadVersion) with
          | .error error => _
          | .ok true => _
          | .ok false => _ : DispatchProgram (Except RecoveryError Unit)).Ends
            (world.perform deadVersion)
            ⟨world.remaining before.workflows [candidate], before.recovers⟩
            result after := ends
        revert ends
        rcases checkPendingWorkflows (world.probe candidate)
            (pendingAt (world.remaining before.workflows [candidate])
              deadVersion) with error | (_ | _) <;>
          intro ends
        · exact goesOn _ _ ends
        · exact confirm_concludes ends
        · exact goesOn _ _ ends
      · exact confirm_concludes ends

theorem recoverOverPeers_concludes {deleter recorder : Bool}
    {result : Except RecoveryError Unit} {before after : Recovering}
    (ends : ((world.dispatcher deleter recorder).recoverOverPeers appID
      deadExecutorID deadVersion).Ends
        (world.perform deadVersion) before result after) :
    Concludes
      (recoverOverPeers world appID deadExecutorID deadVersion before.workflows)
      result after := by
  rw [RecoveryDispatcher.recoverOverPeers] at ends
  obtain ⟨_, ends⟩ := Program.ends_ask.mp ends
  rw [recoverOverPeers]
  have answered : (world.perform deadVersion ‹_› (.findHealthyPeers appID)
      before).1 = world.findHealthyPeers := rfl
  rw [answered] at ends
  cases found : world.findHealthyPeers with
  | error error =>
      rw [found] at ends
      obtain ⟨rfl, rfl⟩ := Program.ends_done.mp ends
      exact ⟨rfl, rfl⟩
  | ok peers =>
      rw [found] at ends
      have sameOption : (world.dispatcher deleter recorder).allowVersionMismatch =
          world.allowVersionMismatch := rfl
      dsimp only at ends ⊢
      rw [sameOption] at ends
      cases selected : selectCandidates appID deadExecutorID deadVersion peers
          world.allowVersionMismatch with
      | error error =>
          rw [selected] at ends
          obtain ⟨rfl, rfl⟩ := Program.ends_done.mp ends
          exact ⟨rfl, rfl⟩
      | ok candidates =>
          rw [selected] at ends
          obtain ⟨_, ends⟩ := Program.ends_ask.mp ends
          exact askCandidates_concludes ends

theorem concludeDirect_concludes {dispatcher : RecoveryDispatcher}
    {pending : Bool} {result : Except RecoveryError Unit}
    {before after : Recovering}
    (ends : (dispatcher.concludeDirect appID deadExecutorID pending).Ends
      (world.perform deadVersion) before result after) :
    Concludes
      (if pending then .refused .pendingAfterDatabaseRecovery
        else .confirmed directRecoveryTarget, before.workflows)
      result after := by
  rw [RecoveryDispatcher.concludeDirect] at ends
  split_ifs at ends ⊢
  · obtain ⟨rfl, rfl⟩ := Program.ends_done.mp ends
    exact ⟨rfl, rfl⟩
  · exact confirm_concludes ends

/-- The database path ends by what is still pending. -/
theorem concludeDirect_pending_concludes {dispatcher : RecoveryDispatcher}
    {result : Except RecoveryError Unit} {workflows : List PendingWorkflow}
    {recovers : Nat} {after : Recovering}
    (ends : (dispatcher.concludeDirect appID deadExecutorID
      (decide (workflows ≠ []))).Ends (world.perform deadVersion)
        ⟨workflows, recovers⟩ result after) :
    Concludes
      (if workflows ≠ [] then (.refused .pendingAfterDatabaseRecovery, workflows)
        else (.confirmed directRecoveryTarget, workflows))
      result after := by
  have concluded := concludeDirect_concludes ends
  by_cases nothingLeft : workflows = []
  · simpa [nothingLeft] using concluded
  · simpa [nothingLeft] using concluded

/-- The check after the first call of `Recover`. -/
theorem check_first {direct : DirectRecovery}
    (workflows : List PendingWorkflow) :
    direct.check ⟨workflows, 1⟩ =
      match direct.checkError with
      | some error => .error error
      | none => .ok (decide (workflows ≠ [])) :=
  rfl

/-- The check after the second one. -/
theorem check_second {direct : DirectRecovery}
    (workflows : List PendingWorkflow) :
    direct.check ⟨workflows, 2⟩ =
      match direct.recheckError with
      | some error => .error error
      | none => .ok (decide (workflows ≠ [])) :=
  rfl

theorem verifyDirect_concludes {direct : DirectRecovery}
    {deleter recorder : Bool} {result : Except RecoveryError Unit}
    {workflows : List PendingWorkflow} {after : Recovering}
    (hasDirect : world.direct = some direct)
    (ends : ((world.dispatcher deleter recorder).verifyDirect appID
      deadExecutorID).Ends (world.perform deadVersion) ⟨workflows, 1⟩ result
        after) :
    Concludes (verifyDirect direct world.allowVersionMismatch workflows)
      result after := by
  have checked : ∀ choice state,
      world.perform deadVersion choice (.checkPending appID deadExecutorID "")
          state = (direct.check state, state) := by
    intro choice state
    rw [RecoveryWorld.perform, hasDirect]
    rfl
  have recovered : ∀ choice,
      world.perform deadVersion choice (.recover appID [deadExecutorID] "")
          ⟨workflows, 1⟩ =
        (direct.recoverEveryVersion.result,
          ⟨direct.recoverEveryVersion.left workflows, 2⟩) := by
    intro choice
    rw [RecoveryWorld.perform, hasDirect]
    rfl
  rw [RecoveryDispatcher.verifyDirect] at ends
  obtain ⟨choice, ends⟩ := Program.ends_ask.mp ends
  rw [checked choice, check_first] at ends
  rw [verifyDirect]
  cases checkError : direct.checkError with
  | some error =>
      rw [checkError] at ends
      obtain ⟨rfl, rfl⟩ := Program.ends_done.mp ends
      exact ⟨rfl, rfl⟩
  | none =>
      rw [checkError] at ends
      have sameOption : (world.dispatcher deleter recorder).allowVersionMismatch =
          world.allowVersionMismatch := rfl
      dsimp only at ends ⊢
      rw [sameOption] at ends
      by_cases again : workflows ≠ [] ∧ world.allowVersionMismatch = true
      · rw [if_pos again]
        rw [if_pos (by simpa using again)] at ends
        obtain ⟨choice, ends⟩ := Program.ends_ask.mp ends
        rw [recovered choice] at ends
        cases every : direct.recoverEveryVersion.result with
        | error error =>
            rw [every] at ends
            have concluded := concludeDirect_concludes ends
            rw [if_pos (by simpa using again.1)] at concluded
            exact concluded
        | ok ids =>
            rw [every] at ends
            obtain ⟨choice, ends⟩ := Program.ends_ask.mp ends
            rw [checked choice, check_second] at ends
            cases recheckError : direct.recheckError with
            | some error =>
                rw [recheckError] at ends
                obtain ⟨rfl, rfl⟩ := Program.ends_done.mp ends
                exact ⟨rfl, rfl⟩
            | none =>
                rw [recheckError] at ends
                exact concludeDirect_pending_concludes ends
      · rw [if_neg again]
        rw [if_neg (by simpa using again)] at ends
        exact concludeDirect_pending_concludes ends

/--
The call, as a sequence of requests to a world, ends as the verdict on that
world says: with its error, or in the deletion of the record.
-/
theorem recoverDeadExecutor_concludes (world : RecoveryWorld) (appID : UUID)
    (deadExecutorID deadVersion : String) (deleter recorder : Bool)
    (workflows : List PendingWorkflow) (result : Except RecoveryError Unit)
    (after : Recovering)
    (ends : ((world.dispatcher deleter recorder).recoverDeadExecutor appID
      deadExecutorID deadVersion).Ends (world.perform deadVersion)
        ⟨workflows, 0⟩ result after) :
    Concludes
      (recoverDeadExecutor world appID deadExecutorID deadVersion workflows)
      result after := by
  rw [RecoveryDispatcher.recoverDeadExecutor] at ends
  rw [recoverDeadExecutor]
  cases hasDirect : world.direct with
  | none =>
      have notDirect : (world.dispatcher deleter recorder).direct = false := by
        simp [RecoveryWorld.dispatcher, hasDirect]
      rw [notDirect] at ends
      exact recoverOverPeers_concludes ends
  | some direct =>
      have isDirect : (world.dispatcher deleter recorder).direct = true := by
        simp [RecoveryWorld.dispatcher, hasDirect]
      have recovered : ∀ choice,
          world.perform deadVersion choice
              (.recover appID [deadExecutorID] deadVersion) ⟨workflows, 0⟩ =
            (direct.recoverDeadVersion.result,
              ⟨direct.recoverDeadVersion.left workflows, 1⟩) := by
        intro choice
        rw [RecoveryWorld.perform, hasDirect]
        rfl
      rw [if_pos isDirect] at ends
      obtain ⟨choice, ends⟩ := Program.ends_ask.mp ends
      have offered : world.perform deadVersion choice
          (.hasDirectRecovery appID) ⟨workflows, 0⟩ =
            (true, ⟨workflows, 0⟩) := by
        rw [RecoveryWorld.perform, hasDirect]
        rfl
      rw [offered] at ends
      obtain ⟨choice, ends⟩ := Program.ends_ask.mp ends
      rw [recovered choice] at ends
      dsimp only
      cases dead : direct.recoverDeadVersion.result with
      | ok ids =>
          rw [dead] at ends
          exact verifyDirect_concludes hasDirect ends
      | error error =>
          rw [dead] at ends
          exact recoverOverPeers_concludes ends

end Verdicts

/-! ## What a trace shows -/

/-- How contacting a peer went. -/
inductive AttemptOutcome where
  | failed
  | rejected
  | acknowledged
  | unprobeable
  | leftPending
  | nothingPending
deriving DecidableEq, Repr

/-- A contacted peer. -/
structure Attempt where
  candidate : Peer
  outcome : AttemptOutcome
deriving DecidableEq, Repr

/-- The peer was accepted: it acknowledged and no probe found fault with it. -/
def Attempt.accepted (attempt : Attempt) : Bool :=
  attempt.outcome = .acknowledged || attempt.outcome = .nothingPending

/-- The outcome of the request alone. -/
def attemptOfReply : Except String (Option RecoveryResponse) → AttemptOutcome
  | .error _ => .failed
  | .ok none => .rejected
  | .ok (some response) =>
      if response.success then .acknowledged else .rejected

/-- The outcome of a request which was probed. -/
def attemptOfProbe : Except String Bool → AttemptOutcome
  | .error _ => .unprobeable
  | .ok true => .leftPending
  | .ok false => .nothingPending

/-- A request is an attempt, and a probe decides the latest one. -/
def noteAttempt (attempts : List Attempt) (event : DispatchEvent) :
    List Attempt :=
  match event with
  | ⟨.sendRecovery _ candidate _ _, reply, _⟩ =>
      attempts ++ [⟨candidate, attemptOfReply reply⟩]
  | ⟨.probe _ candidate _ _, answer, _⟩ =>
      attempts.dropLast ++ [⟨candidate, attemptOfProbe answer⟩]
  | _ => attempts

/-- The attempts of a trace, in order. -/
def attemptsOf (trace : List DispatchEvent) : List Attempt :=
  trace.foldl noteAttempt []

/-- The peer a request goes to. -/
def DispatchRequest.contacts? : DispatchRequest → Option Peer
  | .sendRecovery _ candidate _ _ => some candidate
  | _ => none

/-- The peers contacted over the WebSocket path. -/
def contactedOf (trace : List DispatchEvent) : List Peer :=
  trace.filterMap (·.request.contacts?)

/-- How a call of `DeleteExecutor` ended. -/
def deletion? (event : DispatchEvent) : Option (Option String) :=
  match event with
  | ⟨.deleteExecutor _, failure, _⟩ => some failure
  | _ => none

/-- How `DeleteExecutor` ended, for each call of it. -/
def deletionsOf (trace : List DispatchEvent) : List (Option String) :=
  trace.filterMap deletion?

/-- The target of a record with the given outcome. -/
def DispatchRequest.records? (success : Bool) :
    DispatchRequest → Option String
  | .recordRecoveryDispatch params =>
      if params.success = success then some params.targetExecutorID else none
  | _ => none

/-- The targets recorded with the given outcome. -/
def recordsOf (success : Bool) (trace : List DispatchEvent) : List String :=
  trace.filterMap (·.request.records? success)

section Traces

variable (dispatcher : RecoveryDispatcher) (appID : UUID)
variable (deadExecutorID deadVersion : String)

/-- The candidates `SelectCandidates` makes of an answer of the peer finder. -/
def candidatesOfEvent (event : DispatchEvent) : List Peer :=
  match event with
  | ⟨.findHealthyPeers _, .ok peers, _⟩ =>
      match selectCandidates appID deadExecutorID deadVersion peers
          dispatcher.allowVersionMismatch with
      | .ok candidates => candidates
      | .error _ => []
  | _ => []

/-- The candidates of a trace, in the order of `SelectCandidates`. -/
def candidatesOf (trace : List DispatchEvent) : List Peer :=
  trace.flatMap
    (candidatesOfEvent dispatcher appID deadExecutorID deadVersion)

/--
What stands directly before a call of `DeleteExecutor`: an all-version check of
the database path which found nothing pending, or an acknowledgement, followed
by a probe which found nothing pending where the peer runs another version and
the transport can probe.
-/
inductive MayDelete : List DispatchEvent → Prop where
  | direct {earlier : List DispatchEvent} {appVersion : String}
      {ids : List String}
      (recovered : ⟨.recover appID [deadExecutorID] appVersion, .ok ids, ()⟩ ∈
        earlier) :
      MayDelete
        (earlier ++ [⟨.checkPending appID deadExecutorID "", .ok false, ()⟩])
  | acknowledged {earlier : List DispatchEvent} {candidate : Peer}
      {requestID : String} {response : RecoveryResponse}
      (success : response.success = true)
      (final : candidate.applicationVersion = deadVersion ∨
        dispatcher.transportProbes = false) :
      MayDelete
        (earlier ++
          [⟨.sendRecovery appID candidate requestID [deadExecutorID],
            .ok (some response), ()⟩])
  | probed {earlier : List DispatchEvent} {candidate : Peer}
      {requestID : String} {response : RecoveryResponse}
      (success : response.success = true) :
      MayDelete
        (earlier ++
          [⟨.sendRecovery appID candidate requestID [deadExecutorID],
            .ok (some response), ()⟩] ++
          [⟨.probe appID candidate deadExecutorID deadVersion,
            .ok false, ()⟩])

/--
The peers of a trace: they are contacted in the order of the candidates up to
the first accepted one, and each other one is recorded once as a failure.
-/
structure PeersInOrder (trace : List DispatchEvent) : Prop where
  attempted : (attemptsOf trace).map (·.candidate) = contactedOf trace
  inOrder : contactedOf trace <+:
    candidatesOf dispatcher appID deadExecutorID deadVersion trace
  upToAccepted : ∀ attempt ∈ (attemptsOf trace).dropLast,
    attempt.accepted = false
  exhausted : (∀ attempt ∈ attemptsOf trace, attempt.accepted = false) →
    contactedOf trace =
      candidatesOf dispatcher appID deadExecutorID deadVersion trace
  failures : recordsOf false trace =
    ((attemptsOf trace).filter (!·.accepted)).map (·.candidate.executorID)

/-- The database path has recovered the dead version, or the peers were sought. -/
def PeersSought (trace : List DispatchEvent) : Prop :=
  (∃ ids, ⟨.recover appID [deadExecutorID] deadVersion, .ok ids, ()⟩ ∈ trace) ∨
    ∃ answer, ⟨.findHealthyPeers appID, answer, ()⟩ ∈ trace

/-- Everything about a complete trace and what the call returned. -/
structure RecoveryOutcome (trace : List DispatchEvent)
    (result : Except RecoveryError Unit) : Prop
    extends PeersInOrder dispatcher appID deadExecutorID deadVersion trace where
  peersSought : PeersSought appID deadExecutorID deadVersion trace
  deletedAtMostOnce : (deletionsOf trace).length ≤ 1
  deletedOnlyAfter : ∀ earlier key failure later,
    trace = earlier ++ ⟨.deleteExecutor key, failure, ()⟩ :: later →
      key = ⟨appID, deadExecutorID⟩ ∧
        MayDelete dispatcher appID deadExecutorID deadVersion earlier
  nilIffDeleted : result = .ok () ↔ none ∈ deletionsOf trace
  successes : (recordsOf true trace).length =
    match result with
    | .ok _ => 1
    | .error _ => 0

end Traces

section TraceLemmas

variable {trace : List DispatchEvent}

@[simp]
theorem attemptsOf_record (event : DispatchEvent) :
    attemptsOf (Program.record trace event) =
      noteAttempt (attemptsOf trace) event := by
  simp [attemptsOf, Program.record]

@[simp]
theorem contactedOf_record (event : DispatchEvent) :
    contactedOf (Program.record trace event) =
      contactedOf trace ++ event.request.contacts?.toList := by
  cases contacts : event.request.contacts? <;>
    simp [contactedOf, Program.record, contacts]

@[simp]
theorem recordsOf_record (success : Bool) (event : DispatchEvent) :
    recordsOf success (Program.record trace event) =
      recordsOf success trace ++ (event.request.records? success).toList := by
  cases records : event.request.records? success <;>
    simp [recordsOf, Program.record, records]

@[simp]
theorem deletionsOf_record (event : DispatchEvent) :
    deletionsOf (Program.record trace event) =
      deletionsOf trace ++ (deletion? event).toList := by
  cases deletion : deletion? event <;>
    simp [deletionsOf, Program.record, deletion]

@[simp]
theorem candidatesOf_record (dispatcher : RecoveryDispatcher) (appID : UUID)
    (deadExecutorID deadVersion : String) (event : DispatchEvent) :
    candidatesOf dispatcher appID deadExecutorID deadVersion
        (Program.record trace event) =
      candidatesOf dispatcher appID deadExecutorID deadVersion trace ++
        candidatesOfEvent dispatcher appID deadExecutorID deadVersion event := by
  simp [candidatesOf, Program.record]

end TraceLemmas

/-! ## Every run -/

section Runs

variable {dispatcher : RecoveryDispatcher} {appID : UUID}
variable {deadExecutorID deadVersion : String}
variable {trace : List DispatchEvent} {asked rest : List Peer}

/-- At the head of the loop every peer asked so far has been refused and recorded. -/
structure AllRefused (dispatcher : RecoveryDispatcher) (appID : UUID)
    (deadExecutorID deadVersion : String) (trace : List DispatchEvent)
    (asked rest : List Peer) : Prop where
  candidates : candidatesOf dispatcher appID deadExecutorID deadVersion trace =
    asked ++ rest
  contacted : contactedOf trace = asked
  attempted : (attemptsOf trace).map (·.candidate) = asked
  refused : ∀ attempt ∈ attemptsOf trace, attempt.accepted = false
  failures : recordsOf false trace = asked.map (·.executorID)
  successes : recordsOf true trace = []
  deletions : deletionsOf trace = []

/-- Requests which none of the properties is about. -/
def DispatchRequest.quiet : DispatchRequest → Bool
  | .hasDirectRecovery _ | .recover _ _ _ | .checkPending _ _ _
  | .newRequestID | .now => true
  | _ => false

theorem AllRefused.quiet
    (refused : AllRefused dispatcher appID deadExecutorID deadVersion trace
      asked rest)
    {event : DispatchEvent} (quiet : event.request.quiet = true) :
    AllRefused dispatcher appID deadExecutorID deadVersion
      (Program.record trace event) asked rest := by
  rcases event with ⟨request, reply, ⟨⟩⟩
  rcases refused with
    ⟨candidates, contacted, attempted, refused, failures, successes, deletions⟩
  cases request with
  | findHealthyPeers | sendRecovery | probe | deleteExecutor
  | recordRecoveryDispatch => simp [DispatchRequest.quiet] at quiet
  | hasDirectRecovery | recover | checkPending | newRequestID | now =>
      constructor <;>
        simpa [noteAttempt, candidatesOfEvent, deletion?,
          DispatchRequest.contacts?, DispatchRequest.records?]

/-- One more candidate has been asked, with this outcome. -/
structure Attempted (dispatcher : RecoveryDispatcher) (appID : UUID)
    (deadExecutorID deadVersion : String) (trace after : List DispatchEvent)
    (candidate : Peer) (outcome : AttemptOutcome) : Prop where
  candidates :
    candidatesOf dispatcher appID deadExecutorID deadVersion after =
      candidatesOf dispatcher appID deadExecutorID deadVersion trace
  contacted : contactedOf after = contactedOf trace ++ [candidate]
  attempted : attemptsOf after = attemptsOf trace ++ [⟨candidate, outcome⟩]
  records : ∀ success, recordsOf success after = recordsOf success trace
  deletions : deletionsOf after = deletionsOf trace

theorem attempted_sendRecovery {candidate : Peer} {requestID : String}
    (reply : Except String (Option RecoveryResponse)) :
    Attempted dispatcher appID deadExecutorID deadVersion trace
      (Program.record trace
        ⟨.sendRecovery appID candidate requestID [deadExecutorID], reply, ()⟩)
      candidate (attemptOfReply reply) := by
  constructor <;>
    simp [noteAttempt, candidatesOfEvent, deletion?,
      DispatchRequest.contacts?, DispatchRequest.records?]

theorem attempted_probe {candidate : Peer} {requestID : String}
    (reply : Except String (Option RecoveryResponse))
    (answer : Except String Bool) :
    Attempted dispatcher appID deadExecutorID deadVersion trace
      (Program.record
        (Program.record trace
          ⟨.sendRecovery appID candidate requestID [deadExecutorID], reply, ()⟩)
        ⟨.probe appID candidate deadExecutorID deadVersion, answer, ()⟩)
      candidate (attemptOfProbe answer) := by
  constructor <;>
    simp [noteAttempt, candidatesOfEvent, deletion?,
      DispatchRequest.contacts?, DispatchRequest.records?]

/-- The next candidate has been asked, refused and recorded. -/
theorem AllRefused.next {candidate : Peer} {outcome : AttemptOutcome}
    {after : List DispatchEvent} {dispatchedAt : Time}
    {recorded : Option String}
    (refused : AllRefused dispatcher appID deadExecutorID deadVersion trace
      asked (candidate :: rest))
    (attempted : Attempted dispatcher appID deadExecutorID deadVersion trace
      after candidate outcome)
    (notAccepted : (Attempt.mk candidate outcome).accepted = false) :
    AllRefused dispatcher appID deadExecutorID deadVersion
      (Program.record (Program.record after ⟨.now, dispatchedAt, ()⟩)
        ⟨.recordRecoveryDispatch ⟨appID, deadExecutorID, candidate.executorID,
          dispatchedAt, false⟩, recorded, ()⟩)
      (asked ++ [candidate]) rest := by
  constructor
  · simp [candidatesOfEvent, attempted.candidates, refused.candidates]
  · simp [DispatchRequest.contacts?, attempted.contacted, refused.contacted]
  · simp [noteAttempt, attempted.attempted, refused.attempted]
  · intro attempt member
    simp only [attemptsOf_record, noteAttempt, attempted.attempted,
      List.mem_append, List.mem_singleton] at member
    rcases member with earlier | rfl
    · exact refused.refused attempt earlier
    · exact notAccepted
  · simp [DispatchRequest.records?, attempted.records, refused.failures]
  · simp [DispatchRequest.records?, attempted.records, refused.successes]
  · simp [deletion?, attempted.deletions, refused.deletions]

theorem AllRefused.filter_eq_self
    (refused : AllRefused dispatcher appID deadExecutorID deadVersion trace
      asked rest) :
    (attemptsOf trace).filter (!·.accepted) = attemptsOf trace := by
  rw [List.filter_eq_self]
  intro attempt member
  simp [refused.refused attempt member]

/-- All candidates refused is an ordinary end of the loop. -/
theorem AllRefused.peersInOrder
    (refused : AllRefused dispatcher appID deadExecutorID deadVersion trace
      asked []) :
    PeersInOrder dispatcher appID deadExecutorID deadVersion trace := by
  have everyCandidate : contactedOf trace =
      candidatesOf dispatcher appID deadExecutorID deadVersion trace := by
    rw [refused.contacted, refused.candidates, List.append_nil]
  refine ⟨?_, everyCandidate ▸ List.prefix_rfl, ?_, fun _ => everyCandidate, ?_⟩
  · rw [refused.attempted, refused.contacted]
  · intro attempt member
    exact refused.refused attempt (List.dropLast_subset _ member)
  · rw [refused.filter_eq_self, refused.failures, ← refused.attempted, List.map_map]
    rfl

/-- The next candidate is accepted, which ends the loop. -/
theorem AllRefused.peersInOrder_of_accepted {candidate : Peer}
    {outcome : AttemptOutcome} {after : List DispatchEvent}
    (refused : AllRefused dispatcher appID deadExecutorID deadVersion trace
      asked (candidate :: rest))
    (attempted : Attempted dispatcher appID deadExecutorID deadVersion trace
      after candidate outcome)
    (accepted : (Attempt.mk candidate outcome).accepted = true) :
    PeersInOrder dispatcher appID deadExecutorID deadVersion after := by
  refine ⟨?_, ?_, ?_, ?_, ?_⟩
  · rw [attempted.attempted, attempted.contacted, List.map_append,
      refused.attempted, refused.contacted, List.map_singleton]
  · rw [attempted.contacted, attempted.candidates, refused.candidates,
      refused.contacted, List.prefix_append_right_inj]
    exact ⟨rest, rfl⟩
  · rw [attempted.attempted, List.dropLast_concat]
    exact refused.refused
  · intro noneAccepted
    have contrary := noneAccepted ⟨candidate, outcome⟩
      (by simp [attempted.attempted])
    rw [accepted] at contrary
    cases contrary
  · rw [attempted.attempted, List.filter_append, refused.filter_eq_self,
      attempted.records, refused.failures, ← refused.attempted]
    simp [accepted]

/-- What a call may ask after a trace. -/
def MayAsk (dispatcher : RecoveryDispatcher) (appID : UUID)
    (deadExecutorID deadVersion : String) (trace : List DispatchEvent)
    (request : DispatchRequest) : Prop :=
  ∀ key, request = .deleteExecutor key →
    key = ⟨appID, deadExecutorID⟩ ∧
      MayDelete dispatcher appID deadExecutorID deadVersion trace

/-- What a call may return after a trace. -/
structure MayReturn (dispatcher : RecoveryDispatcher) (appID : UUID)
    (deadExecutorID deadVersion : String) (trace : List DispatchEvent)
    (result : Except RecoveryError Unit) : Prop where
  peers : PeersInOrder dispatcher appID deadExecutorID deadVersion trace
  deletedAtMostOnce : (deletionsOf trace).length ≤ 1
  nilIffDeleted : result = .ok () ↔ none ∈ deletionsOf trace
  successes : (recordsOf true trace).length =
    match result with
    | .ok _ => 1
    | .error _ => 0

/-- The rest of a call, after a trace, asks and returns what it may. -/
abbrev Proceeds (dispatcher : RecoveryDispatcher) (appID : UUID)
    (deadExecutorID deadVersion : String) (trace : List DispatchEvent)
    (program : DispatchProgram (Except RecoveryError Unit)) : Prop :=
  program.Keeps (fun _ => True) Program.record
    (MayAsk dispatcher appID deadExecutorID deadVersion)
    (MayReturn dispatcher appID deadExecutorID deadVersion) trace

theorem AllRefused.mayReturn_error
    (refused : AllRefused dispatcher appID deadExecutorID deadVersion trace
      asked []) (error : RecoveryError) :
    MayReturn dispatcher appID deadExecutorID deadVersion trace
      (.error error) := by
  refine ⟨refused.peersInOrder, ?_, ?_, ?_⟩
  · simp [refused.deletions]
  · simp [refused.deletions]
  · simp [refused.successes]

/-- A request other than a deletion may be asked at any time. -/
theorem proceeds_ask {request : DispatchRequest}
    {next : request.Reply → DispatchProgram (Except RecoveryError Unit)}
    (notDeletion : ∀ key, request ≠ .deleteExecutor key)
    (proceeds : ∀ reply,
      Proceeds dispatcher appID deadExecutorID deadVersion
        (Program.record trace ⟨request, reply, ()⟩) (next reply)) :
    Proceeds dispatcher appID deadExecutorID deadVersion trace
      (Program.ask request >>= next) := by
  refine ⟨?_, ?_⟩
  · intro key deletion
    exact (notDeletion key deletion).elim
  · intro reply before _
    exact proceeds reply

/-- The peers are in order whatever is asked once the loop has ended. -/
theorem PeersInOrder.confirming {event : DispatchEvent}
    (peers : PeersInOrder dispatcher appID deadExecutorID deadVersion trace)
    (attempted : noteAttempt (attemptsOf trace) event = attemptsOf trace)
    (contacted : event.request.contacts? = none)
    (noFailure : event.request.records? false = none)
    (candidates :
      candidatesOfEvent dispatcher appID deadExecutorID deadVersion event = []) :
    PeersInOrder dispatcher appID deadExecutorID deadVersion
      (Program.record trace event) := by
  rcases peers with ⟨sameAttempts, inOrder, upToAccepted, exhausted, failures⟩
  constructor <;> simpa [attempted, contacted, noFailure, candidates]

theorem confirm_proceeds {targetExecutorID : String}
    (deleter : dispatcher.deleter = true)
    (recorder : dispatcher.recorder = true)
    (peers : PeersInOrder dispatcher appID deadExecutorID deadVersion trace)
    (deletions : deletionsOf trace = []) (successes : recordsOf true trace = [])
    (may : MayDelete dispatcher appID deadExecutorID deadVersion trace) :
    Proceeds dispatcher appID deadExecutorID deadVersion trace
      (dispatcher.confirm appID deadExecutorID targetExecutorID) := by
  rw [RecoveryDispatcher.confirm, if_pos deleter]
  refine ⟨?_, ?_⟩
  · rintro key ⟨⟩
    exact ⟨rfl, may⟩
  · intro failure before _
    have deleted : PeersInOrder dispatcher appID deadExecutorID deadVersion
        (Program.record trace
          ⟨.deleteExecutor ⟨appID, deadExecutorID⟩, failure, ()⟩) :=
      peers.confirming rfl rfl rfl rfl
    cases failure with
    | some error =>
        refine ⟨deleted, ?_, ?_, ?_⟩
        · simp [deletions, deletion?]
        · simp [deletions, deletion?]
        · simp [successes, DispatchRequest.records?]
    | none =>
        simp only [RecoveryDispatcher.record, recorder, if_true]
        refine proceeds_ask (by simp) fun dispatchedAt => ?_
        refine proceeds_ask (by simp) fun recorded => ?_
        refine ⟨?_, ?_, ?_, ?_⟩
        · exact (deleted.confirming rfl rfl rfl rfl).confirming rfl rfl rfl rfl
        · simp [deletions, deletion?]
        · simp [deletions, deletion?]
        · simp [successes, DispatchRequest.records?]

/-- The refusal of a candidate is recorded and the loop goes on. -/
theorem refusal_proceeds {candidate : Peer} {outcome : AttemptOutcome}
    {after : List DispatchEvent}
    {next : DispatchProgram (Except RecoveryError Unit)}
    (recorder : dispatcher.recorder = true)
    (refused : AllRefused dispatcher appID deadExecutorID deadVersion trace
      asked (candidate :: rest))
    (attempted : Attempted dispatcher appID deadExecutorID deadVersion trace
      after candidate outcome)
    (notAccepted : (Attempt.mk candidate outcome).accepted = false)
    (goesOn : ∀ later asked,
      AllRefused dispatcher appID deadExecutorID deadVersion later asked rest →
        Proceeds dispatcher appID deadExecutorID deadVersion later next) :
    Proceeds dispatcher appID deadExecutorID deadVersion after
      (dispatcher.record appID deadExecutorID candidate.executorID false >>=
        fun _ => next) := by
  simp only [RecoveryDispatcher.record, recorder, if_true]
  refine proceeds_ask (by simp) fun dispatchedAt => ?_
  refine proceeds_ask (by simp) fun recorded => ?_
  exact goesOn _ _ (refused.next attempted notAccepted)

/-- The acceptance of a candidate ends the call. -/
theorem acceptance_proceeds {candidate : Peer} {outcome : AttemptOutcome}
    {after : List DispatchEvent}
    (deleter : dispatcher.deleter = true)
    (recorder : dispatcher.recorder = true)
    (refused : AllRefused dispatcher appID deadExecutorID deadVersion trace
      asked (candidate :: rest))
    (attempted : Attempted dispatcher appID deadExecutorID deadVersion trace
      after candidate outcome)
    (accepted : (Attempt.mk candidate outcome).accepted = true)
    (may : MayDelete dispatcher appID deadExecutorID deadVersion after) :
    Proceeds dispatcher appID deadExecutorID deadVersion after
      (dispatcher.confirm appID deadExecutorID candidate.executorID) := by
  refine confirm_proceeds deleter recorder
    (refused.peersInOrder_of_accepted attempted accepted) ?_ ?_ may
  · rw [attempted.deletions, refused.deletions]
  · rw [attempted.records, refused.successes]

theorem not_accepted_of_not_acknowledged {candidate : Peer}
    {reply : Except String (Option RecoveryResponse)}
    (notAcknowledged : (SendOutcome.mk reply false).acknowledged = false) :
    (Attempt.mk candidate (attemptOfReply reply)).accepted = false := by
  rcases reply with error | (_ | response)
  · rfl
  · rfl
  · have failed : response.success = false := notAcknowledged
    simp [Attempt.accepted, attemptOfReply, failed]

theorem response_of_acknowledged
    {reply : Except String (Option RecoveryResponse)}
    (acknowledged : (SendOutcome.mk reply false).acknowledged = true) :
    ∃ response, reply = .ok (some response) ∧ response.success = true := by
  rcases reply with error | (_ | response)
  · cases acknowledged
  · cases acknowledged
  · exact ⟨response, rfl, acknowledged⟩

/-- The loop, by induction on the candidates which are left. -/
theorem askCandidates_proceeds {requestID : String} {lastError : Option String}
    (deleter : dispatcher.deleter = true)
    (recorder : dispatcher.recorder = true)
    (refused : AllRefused dispatcher appID deadExecutorID deadVersion trace
      asked rest) :
    Proceeds dispatcher appID deadExecutorID deadVersion trace
      (dispatcher.askCandidates appID deadExecutorID deadVersion requestID rest
        lastError) := by
  induction rest generalizing trace asked lastError with
  | nil => exact refused.mayReturn_error _
  | cons candidate candidates induction =>
      have goesOn : ∀ nextError later asked,
          AllRefused dispatcher appID deadExecutorID deadVersion later asked
              candidates →
            Proceeds dispatcher appID deadExecutorID deadVersion later
              (dispatcher.askCandidates appID deadExecutorID deadVersion
                requestID candidates nextError) :=
        fun _ _ _ stillRefused => induction stillRefused
      rw [RecoveryDispatcher.askCandidates]
      refine proceeds_ask (by simp) fun reply => ?_
      dsimp only
      cases acknowledged : (SendOutcome.mk reply false).acknowledged with
      | false =>
          exact refusal_proceeds recorder refused (attempted_sendRecovery reply)
            (not_accepted_of_not_acknowledged acknowledged) (goesOn _)
      | true =>
          rcases response_of_acknowledged acknowledged with
            ⟨response, rfl, success⟩
          simp only [Bool.not_true, Bool.false_eq_true, if_false]
          split_ifs with probed
          · refine proceeds_ask (by simp) fun answer => ?_
            rcases answer with error | (_ | _)
            · exact refusal_proceeds recorder refused (attempted_probe _ _) rfl
                (goesOn _)
            · exact acceptance_proceeds deleter recorder refused
                (attempted_probe _ _) rfl (.probed success)
            · exact refusal_proceeds recorder refused (attempted_probe _ _) rfl
                (goesOn _)
          · refine acceptance_proceeds deleter recorder refused
              (attempted_sendRecovery _) ?_ ?_
            · simp [Attempt.accepted, attemptOfReply, success]
            · refine .acknowledged success ?_
              rw [not_and_or, not_not, Bool.not_eq_true] at probed
              exact probed

theorem recoverOverPeers_proceeds
    (deleter : dispatcher.deleter = true)
    (recorder : dispatcher.recorder = true)
    (untouched : AllRefused dispatcher appID deadExecutorID deadVersion trace
      [] []) :
    Proceeds dispatcher appID deadExecutorID deadVersion trace
      (dispatcher.recoverOverPeers appID deadExecutorID deadVersion) := by
  rw [RecoveryDispatcher.recoverOverPeers]
  refine proceeds_ask (by simp) fun answer => ?_
  have found : AllRefused dispatcher appID deadExecutorID deadVersion
      (Program.record trace ⟨.findHealthyPeers appID, answer, ()⟩) []
      (candidatesOfEvent dispatcher appID deadExecutorID deadVersion
        ⟨.findHealthyPeers appID, answer, ()⟩) := by
    have unasked : attemptsOf trace = [] :=
      List.map_eq_nil_iff.mp untouched.attempted
    constructor
    · simp [untouched.candidates]
    · simp [DispatchRequest.contacts?, untouched.contacted]
    · simp [noteAttempt, unasked]
    · simp [noteAttempt, unasked]
    · simp [DispatchRequest.records?, untouched.failures]
    · simp [DispatchRequest.records?, untouched.successes]
    · simp [deletion?, untouched.deletions]
  cases answer with
  | error error => exact found.mayReturn_error _
  | ok peers =>
      dsimp only
      rw [candidatesOfEvent] at found
      cases selected : selectCandidates appID deadExecutorID deadVersion peers
          dispatcher.allowVersionMismatch with
      | error error =>
          rw [selected] at found
          exact found.mayReturn_error _
      | ok candidates =>
          rw [selected] at found
          refine proceeds_ask (by simp) fun requestID => ?_
          exact askCandidates_proceeds deleter recorder (found.quiet rfl)

/-- The database path deletes the record only when its last check found nothing. -/
theorem concludeDirect_proceeds {appVersion : String} {ids : List String}
    {pending : Bool}
    (deleter : dispatcher.deleter = true)
    (recorder : dispatcher.recorder = true)
    (untouched : AllRefused dispatcher appID deadExecutorID deadVersion trace
      [] [])
    (recovered : ⟨.recover appID [deadExecutorID] appVersion, .ok ids, ()⟩ ∈
      trace)
    (checked : pending = false → ∃ earlier, trace = earlier ++
      [⟨.checkPending appID deadExecutorID "", .ok false, ()⟩]) :
    Proceeds dispatcher appID deadExecutorID deadVersion trace
      (dispatcher.concludeDirect appID deadExecutorID pending) := by
  cases pending with
  | true => exact untouched.mayReturn_error _
  | false =>
      rcases checked rfl with ⟨earlier, rfl⟩
      have before : ⟨.recover appID [deadExecutorID] appVersion, .ok ids, ()⟩ ∈
          earlier := by
        rcases List.mem_append.mp recovered with before | last
        · exact before
        · cases congrArg Library.Programs.Event.request (List.mem_singleton.mp last)
      exact confirm_proceeds deleter recorder untouched.peersInOrder
        untouched.deletions untouched.successes (.direct before)

theorem verifyDirect_proceeds {appVersion : String} {ids : List String}
    (deleter : dispatcher.deleter = true)
    (recorder : dispatcher.recorder = true)
    (untouched : AllRefused dispatcher appID deadExecutorID deadVersion trace
      [] [])
    (recovered : ⟨.recover appID [deadExecutorID] appVersion, .ok ids, ()⟩ ∈
      trace) :
    Proceeds dispatcher appID deadExecutorID deadVersion trace
      (dispatcher.verifyDirect appID deadExecutorID) := by
  have stays : ∀ (event : DispatchEvent) (earlier : List DispatchEvent),
      ⟨.recover appID [deadExecutorID] appVersion, .ok ids, ()⟩ ∈ earlier →
        ⟨.recover appID [deadExecutorID] appVersion, .ok ids, ()⟩ ∈
          Program.record earlier event :=
    fun _ _ member => List.mem_append_left _ member
  rw [RecoveryDispatcher.verifyDirect]
  refine proceeds_ask (by simp) fun check => ?_
  have unchecked : AllRefused dispatcher appID deadExecutorID deadVersion
      (Program.record trace
        ⟨.checkPending appID deadExecutorID "", check, ()⟩) [] [] :=
    untouched.quiet rfl
  cases check with
  | error error => exact unchecked.mayReturn_error _
  | ok pending =>
      dsimp only
      split_ifs with again
      · refine proceeds_ask (by simp) fun more => ?_
        cases more with
        | error error =>
            refine concludeDirect_proceeds deleter recorder (unchecked.quiet rfl)
              (stays _ _ (stays _ _ recovered)) ?_
            intro nonePending
            simp [nonePending] at again
        | ok ids =>
            refine proceeds_ask (by simp) fun recheck => ?_
            cases recheck with
            | error error =>
                exact ((unchecked.quiet rfl).quiet rfl).mayReturn_error _
            | ok stillPending =>
                refine concludeDirect_proceeds deleter recorder
                  ((unchecked.quiet rfl).quiet rfl)
                  (stays _ _ (stays _ _ (stays _ _ recovered))) ?_
                rintro rfl
                exact ⟨_, rfl⟩
      · refine concludeDirect_proceeds deleter recorder unchecked
          (stays _ _ recovered) ?_
        rintro rfl
        exact ⟨_, rfl⟩

theorem allRefused_nil :
    AllRefused dispatcher appID deadExecutorID deadVersion [] [] [] := by
  constructor <;>
    simp [candidatesOf, contactedOf, attemptsOf, recordsOf, deletionsOf]

theorem recoverDeadExecutor_proceeds
    (deleter : dispatcher.deleter = true)
    (recorder : dispatcher.recorder = true) :
    Proceeds dispatcher appID deadExecutorID deadVersion []
      (dispatcher.recoverDeadExecutor appID deadExecutorID deadVersion) := by
  have overPeers : ∀ trace : List DispatchEvent,
      AllRefused dispatcher appID deadExecutorID deadVersion trace [] [] →
        Proceeds dispatcher appID deadExecutorID deadVersion trace
          (dispatcher.recoverOverPeers appID deadExecutorID deadVersion) :=
    fun _ untouched => recoverOverPeers_proceeds deleter recorder untouched
  rw [RecoveryDispatcher.recoverDeadExecutor]
  split_ifs with configured
  · refine proceeds_ask (by simp) fun direct => ?_
    cases direct with
    | false => exact overPeers _ (allRefused_nil.quiet rfl)
    | true =>
        refine proceeds_ask (by simp) fun ids => ?_
        cases ids with
        | error error =>
            exact overPeers _ ((allRefused_nil.quiet rfl).quiet rfl)
        | ok ids =>
            exact verifyDirect_proceeds deleter recorder
              ((allRefused_nil.quiet rfl).quiet rfl)
              (List.mem_append_right _ (List.mem_singleton_self _))
  · exact overPeers _ allRefused_nil

theorem PeersSought.record {event : DispatchEvent}
    (sought : PeersSought appID deadExecutorID deadVersion trace) :
    PeersSought appID deadExecutorID deadVersion (Program.record trace event) := by
  rcases sought with ⟨ids, recovered⟩ | ⟨answer, found⟩
  · exact Or.inl ⟨ids, List.mem_append_left _ recovered⟩
  · exact Or.inr ⟨answer, List.mem_append_left _ found⟩

/-- The rest of a call, after a trace, returns when the peers have been sought. -/
abbrev Seeks (appID : UUID) (deadExecutorID deadVersion : String)
    (trace : List DispatchEvent)
    (program : DispatchProgram (Except RecoveryError Unit)) : Prop :=
  program.Keeps (fun _ => True) Program.record (fun _ _ => True)
    (fun trace _ => PeersSought appID deadExecutorID deadVersion trace) trace

theorem PeersSought.seeks
    (sought : PeersSought appID deadExecutorID deadVersion trace)
    (program : DispatchProgram (Except RecoveryError Unit)) :
    Seeks appID deadExecutorID deadVersion trace program := by
  induction program generalizing trace with
  | done value => exact sought
  | call request next induction =>
      exact ⟨trivial, fun reply before _ => induction reply sought.record⟩

theorem seeks_ask {request : DispatchRequest}
    {next : request.Reply → DispatchProgram (Except RecoveryError Unit)}
    (seeks : ∀ reply, Seeks appID deadExecutorID deadVersion
      (Program.record trace ⟨request, reply, ()⟩) (next reply)) :
    Seeks appID deadExecutorID deadVersion trace (Program.ask request >>= next) :=
  ⟨trivial, fun reply _ _ => seeks reply⟩

theorem recoverOverPeers_seeks :
    Seeks appID deadExecutorID deadVersion trace
      (dispatcher.recoverOverPeers appID deadExecutorID deadVersion) := by
  rw [RecoveryDispatcher.recoverOverPeers]
  refine seeks_ask fun answer => PeersSought.seeks ?_ _
  exact Or.inr ⟨answer, List.mem_append_right _ (List.mem_singleton_self _)⟩

/-- Only the database path can end the call before the peers are sought. -/
theorem recoverDeadExecutor_seeks :
    Seeks appID deadExecutorID deadVersion []
      (dispatcher.recoverDeadExecutor appID deadExecutorID deadVersion) := by
  rw [RecoveryDispatcher.recoverDeadExecutor]
  split_ifs with configured
  · refine seeks_ask fun direct => ?_
    cases direct with
    | false => exact recoverOverPeers_seeks
    | true =>
        refine seeks_ask fun ids => ?_
        cases ids with
        | error error => exact recoverOverPeers_seeks
        | ok ids =>
            refine PeersSought.seeks (Or.inl ⟨ids, ?_⟩) _
            exact List.mem_append_right _ (List.mem_singleton_self _)
  · exact recoverOverPeers_seeks

/--
The outcome of `RecoverDeadExecutor` with a deleter and a recorder, whatever
the data plane, the peers, the transport, the prober, the deleter and the
recorder answer.
-/
theorem recoverDeadExecutor_outcome (dispatcher : RecoveryDispatcher)
    (appID : UUID) (deadExecutorID deadVersion : String)
    (deleter : dispatcher.deleter = true)
    (recorder : dispatcher.recorder = true)
    (trace : List DispatchEvent) (result : Except RecoveryError Unit)
    (complete :
      (dispatcher.recoverDeadExecutor appID deadExecutorID deadVersion).Follows
        trace (.done result)) :
    RecoveryOutcome dispatcher appID deadExecutorID deadVersion trace
      result := by
  have proceeds : Proceeds dispatcher appID deadExecutorID deadVersion []
      (dispatcher.recoverDeadExecutor appID deadExecutorID deadVersion) :=
    recoverDeadExecutor_proceeds deleter recorder
  have returned := proceeds.rest complete fun _ _ => trivial
  have seeks : Seeks appID deadExecutorID deadVersion []
      (dispatcher.recoverDeadExecutor appID deadExecutorID deadVersion) :=
    recoverDeadExecutor_seeks
  have sought := seeks.rest complete fun _ _ => trivial
  rw [Program.foldl_record, List.nil_append] at returned sought
  refine ⟨returned.peers, sought, returned.deletedAtMostOnce, ?_,
    returned.nilIffDeleted, returned.successes⟩
  intro earlier key failure later split
  have mayAsk := proceeds.event complete (fun _ _ => trivial) split
  rw [Program.foldl_record, List.nil_append] at mayAsk
  exact mayAsk key rfl

/-- Every collaborator is configured but the data plane. -/
def crossVersionDispatcher : RecoveryDispatcher where
  direct := false
  deleter := true
  recorder := true
  transportProbes := true
  allowVersionMismatch := true

/-- The peer at the dead version rejects, the next one is probed and accepted. -/
def secondPeerAccepts : List DispatchEvent :=
  [⟨.findHealthyPeers ⟨1⟩,
      .ok [⟨⟨1⟩, "peer-v2", "v2"⟩, ⟨⟨1⟩, "peer-v1", "v1"⟩], ()⟩,
    ⟨.newRequestID, "request-1", ()⟩,
    ⟨.sendRecovery ⟨1⟩ ⟨⟨1⟩, "peer-v1", "v1"⟩ "request-1" ["exec-dead"],
      .ok (some ⟨false, none⟩), ()⟩,
    ⟨.now, (0 : Time), ()⟩,
    ⟨.recordRecoveryDispatch ⟨⟨1⟩, "exec-dead", "peer-v1", 0, false⟩,
      some "recorder down", ()⟩,
    ⟨.sendRecovery ⟨1⟩ ⟨⟨1⟩, "peer-v2", "v2"⟩ "request-1" ["exec-dead"],
      .ok (some ⟨true, none⟩), ()⟩,
    ⟨.probe ⟨1⟩ ⟨⟨1⟩, "peer-v2", "v2"⟩ "exec-dead" "v1", .ok false, ()⟩,
    ⟨.deleteExecutor ⟨⟨1⟩, "exec-dead"⟩, none, ()⟩,
    ⟨.now, (1 : Time), ()⟩,
    ⟨.recordRecoveryDispatch ⟨⟨1⟩, "exec-dead", "peer-v2", 1, true⟩, none, ()⟩]

theorem secondPeerAccepts_complete :
    (crossVersionDispatcher.recoverDeadExecutor ⟨1⟩ "exec-dead" "v1").Follows
      secondPeerAccepts (.done (.ok ())) := by
  iterate 10 refine Program.Follows.call ?_
  exact .start

theorem secondPeerAccepts_outcome :
    RecoveryOutcome crossVersionDispatcher ⟨1⟩ "exec-dead" "v1"
        secondPeerAccepts (.ok ()) ∧
      (contactedOf secondPeerAccepts).map (·.executorID) =
        ["peer-v1", "peer-v2"] ∧
      recordsOf false secondPeerAccepts = ["peer-v1"] :=
  ⟨recoverDeadExecutor_outcome crossVersionDispatcher ⟨1⟩ "exec-dead" "v1" rfl
      rfl secondPeerAccepts (.ok ()) secondPeerAccepts_complete,
    by decide, by decide⟩

end Runs

end DbosRelay.Liveness
