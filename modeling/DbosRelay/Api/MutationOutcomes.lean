import DbosRelay.Api.WorkflowsWrite

/-!
# What a mutation is reported as

A handler records in the audit log what it answers.  It answers success when the
router returns the response expected, without an error message; a response which
then reports no success is reported as one, except by `RewindWorkflow`.
-/

namespace DbosRelay.Api

open DbosRelay.Protocol
open DbosRelay.Router

variable {types : StandardTypes}

/-! ## Outcomes -/

/-- The handler answers success. -/
def MutationAnswer.Succeeds (answer : MutationAnswer types) : Prop :=
  ∃ status, answer.response = .ok status

/--
The router has returned the response expected, without an error message and with
the value of `Success`.
-/
def WorkflowMutation.Answered (mutation : WorkflowMutation)
    (routed : Except RouterError (WireMessage types)) (success : Bool) : Prop :=
  ∃ res response, routed = .ok res ∧ mutation.response res = some response ∧
    response.error = none ∧ response.success = success

/-- The guard of a resume blocks the request. -/
def VersionBlocked (store : Option GuardStore) (orgName appName : String) :
    Prop :=
  (resumeVersionBlocked store (Identity.normalizeOrg orgName) appName).isSome

/-- The request is refused before anything is sent. -/
def MutationRequest.Refused (store : Option GuardStore) :
    MutationRequest → Prop
  | .cancelWorkflow _ | .deleteWorkflow _ | .rewindWorkflow _ => False
  | .bulkCancelWorkflows request => request.body = none
  | .resumeWorkflow request =>
      VersionBlocked store request.orgName request.appName
  | .bulkResumeWorkflows request =>
      request.body = none ∨
        VersionBlocked store request.orgName request.appName
  | .bulkDeleteWorkflows request => request.body = none
  | .importWorkflow request => request.body = none

/-- Success is answered or recorded only if the response reports it. -/
def MutationRequest.ReportedHonestly (request : MutationRequest)
    (server : WorkflowServer types) : Prop :=
  (request.serve server).Succeeds ∨
      (request.serve server).audit.status = .success →
    request.mutation.Answered server.routed true

/-! ## Responses -/

section Responses

variable {mutation : WorkflowMutation} {res : WireMessage types}
variable {success : Bool}

theorem not_answered_error (err : RouterError) :
    ¬mutation.Answered (.error err : Except RouterError (WireMessage types))
      success := by
  rintro ⟨res, response, routed, -⟩
  cases routed

theorem not_answered_unexpected (unexpected : mutation.response res = none) :
    ¬mutation.Answered (.ok res) success := by
  rintro ⟨_, response, routed, expected, -⟩
  cases routed
  cases unexpected.symm.trans expected

theorem answered_ok_iff {response : MutationResponse}
    (expected : mutation.response res = some response) :
    mutation.Answered (.ok res) success ↔
      response.error = none ∧ response.success = success := by
  constructor
  · rintro ⟨_, other, routed, isOther, silent, reported⟩
    cases routed
    cases expected.symm.trans isOther
    exact ⟨silent, reported⟩
  · rintro ⟨silent, reported⟩
    exact ⟨res, response, rfl, expected, silent, reported⟩

end Responses

/-! ## The handlers -/

/-- What an answer amounts to. -/
structure Concludes (answer : MutationAnswer types) (sent accepted : Prop) :
    Prop where
  dispatched : answer.dispatched.isSome ↔ sent
  succeeds : answer.Succeeds ↔ sent ∧ accepted
  audits : answer.audit.status = .success ↔ answer.Succeeds

section Handlers

variable {server : WorkflowServer types} {audit : AuditStatus → AuditOperation}
variable {sent accepted : Prop}

/-- A problem which is recorded as a failure. -/
theorem concludes_of_error (recorded : ∀ status, (audit status).status = status)
    {dispatched : Option (RouterCall types)} {problem : ErrorModel}
    (sends : dispatched.isSome ↔ sent) (rejected : sent → ¬accepted) :
    Concludes ⟨dispatched, .error problem, audit .failure⟩ sent accepted := by
  have unsuccessful : ¬MutationAnswer.Succeeds
      ⟨dispatched, .error problem, audit .failure⟩ := by
    rintro ⟨status, succeeds⟩
    cases succeeds
  refine ⟨sends, iff_of_false unsuccessful fun both => rejected both.1 both.2,
    iff_of_false ?_ unsuccessful⟩
  rw [recorded]
  exact nofun

/-- An answer after a call which is recorded as a success. -/
theorem concludes_of_ok (recorded : ∀ status, (audit status).status = status)
    (call : RouterCall types) (status : Nat) (accepts : accepted) :
    Concludes ⟨some call, .ok status, audit .success⟩ True accepted where
  dispatched := iff_of_true rfl trivial
  succeeds := iff_of_true ⟨status, rfl⟩ ⟨trivial, accepts⟩
  audits := iff_of_true (recorded .success) ⟨status, rfl⟩

theorem refuseMutation_concludes
    (recorded : ∀ status, (audit status).status = status) (problem : ErrorModel)
    (refused : ¬sent) :
    Concludes (refuseMutation audit problem : MutationAnswer types) sent
      accepted :=
  concludes_of_error recorded (iff_of_false nofun refused)
    fun sends => absurd sends refused

theorem answerMutation_concludes
    (recorded : ∀ status, (audit status).status = status)
    (mutation : WorkflowMutation) (call : RouterCall types) (status : Nat) :
    Concludes (answerMutation server mutation call audit status) True
      (∃ success, mutation.Answered server.routed success) := by
  have sends : (some call).isSome ↔ True := iff_of_true rfl trivial
  unfold answerMutation
  cases server.routed with
  | error err =>
      refine concludes_of_error recorded sends fun _ => ?_
      exact not_exists.mpr fun success => not_answered_error err
  | ok res =>
      dsimp only
      cases expected : mutation.response res with
      | none =>
          refine concludes_of_error recorded sends fun _ => ?_
          exact not_exists.mpr fun success => not_answered_unexpected expected
      | some response =>
          simp only [answered_ok_iff expected]
          cases said : response.error with
          | some message =>
              refine concludes_of_error recorded sends fun _ => ?_
              rintro ⟨success, silent, -⟩
              cases silent
          | none =>
              exact concludes_of_ok recorded call status
                ⟨response.success, rfl, rfl⟩

/-- `RewindWorkflow` accepts only a response which reports success. -/
theorem rewindWorkflow_concludes
    (request : WorkflowRequest RewindWorkflowInputBody) :
    Concludes (rewindWorkflow server request) True
      (WorkflowMutation.rewindWorkflow.Answered server.routed true) := by
  have recorded : ∀ status, (auditWorkflow request.orgName request.appName
      request.workflowID "workflow.rewind" status).status = status :=
    fun status => rfl
  have sends (call : RouterCall types) : (some call).isSome ↔ True :=
    iff_of_true rfl trivial
  unfold rewindWorkflow
  cases server.routed with
  | error err =>
      exact concludes_of_error recorded (sends _) fun _ =>
        not_answered_error err
  | ok res =>
      dsimp only
      cases expected : WorkflowMutation.rewindWorkflow.response res with
      | none =>
          exact concludes_of_error recorded (sends _) fun _ =>
            not_answered_unexpected expected
      | some response =>
          simp only [answered_ok_iff expected]
          cases said : response.error with
          | some message =>
              refine concludes_of_error recorded (sends _) ?_
              rintro - ⟨silent, -⟩
              cases silent
          | none =>
              by_cases reported : response.success = true
              · rw [if_pos reported]
                exact concludes_of_ok recorded _ 204 ⟨rfl, reported⟩
              · rw [if_neg reported]
                refine concludes_of_error recorded (sends _) ?_
                rintro - ⟨-, success⟩
                exact reported success

/-- The same for conditions which amount to the same. -/
theorem Concludes.congr {answer : MutationAnswer types}
    {otherSent otherAccepted : Prop} (concludes : Concludes answer sent accepted)
    (sends : sent ↔ otherSent) (accepts : accepted ↔ otherAccepted) :
    Concludes answer otherSent otherAccepted := by
  rwa [← propext sends, ← propext accepts]

/-- What the answer to a request amounts to. -/
theorem serve_concludes (server : WorkflowServer types)
    (request : MutationRequest) :
    Concludes (request.serve server) (¬request.Refused server.store)
      (∃ success, request.mutation.Answered server.routed success ∧
        (request.mutation = .rewindWorkflow → success = true)) := by
  -- The handlers which accept a response whatever it reports.
  have lenient {mutation : WorkflowMutation} (other : mutation ≠ .rewindWorkflow) :
      (∃ success, mutation.Answered server.routed success) ↔
        ∃ success, mutation.Answered server.routed success ∧
          (mutation = .rewindWorkflow → success = true) :=
    exists_congr fun success =>
      (and_iff_left fun isRewind => absurd isRewind other).symm
  cases request with
  | cancelWorkflow request =>
      exact (answerMutation_concludes (fun _ => rfl) _ _ _).congr
        (by simp [MutationRequest.Refused]) (lenient nofun)
  | bulkCancelWorkflows request =>
      simp only [MutationRequest.serve, bulkCancelWorkflows,
        MutationRequest.Refused]
      cases request.body with
      | none => exact refuseMutation_concludes (fun _ => rfl) _ (by simp)
      | some body =>
          exact (answerMutation_concludes (fun _ => rfl) _ _ _).congr
            (by simp) (lenient nofun)
  | resumeWorkflow request =>
      simp only [MutationRequest.serve, resumeWorkflow, MutationRequest.Refused,
        VersionBlocked]
      cases resumeVersionBlocked server.store
          (Identity.normalizeOrg request.orgName) request.appName with
      | some latest => exact refuseMutation_concludes (fun _ => rfl) _ (by simp)
      | none =>
          exact (answerMutation_concludes (fun _ => rfl) _ _ _).congr
            (by simp) (lenient nofun)
  | bulkResumeWorkflows request =>
      simp only [MutationRequest.serve, bulkResumeWorkflows,
        MutationRequest.Refused, VersionBlocked]
      cases request.body with
      | none => exact refuseMutation_concludes (fun _ => rfl) _ (by simp)
      | some body =>
          cases resumeVersionBlocked server.store
              (Identity.normalizeOrg request.orgName) request.appName with
          | some latest =>
              exact refuseMutation_concludes (fun _ => rfl) _ (by simp)
          | none =>
              exact (answerMutation_concludes (fun _ => rfl) _ _ _).congr
                (by simp) (lenient nofun)
  | deleteWorkflow request =>
      exact (answerMutation_concludes (fun _ => rfl) _ _ _).congr
        (by simp [MutationRequest.Refused]) (lenient nofun)
  | bulkDeleteWorkflows request =>
      simp only [MutationRequest.serve, bulkDeleteWorkflows,
        MutationRequest.Refused]
      cases request.body with
      | none => exact refuseMutation_concludes (fun _ => rfl) _ (by simp)
      | some body =>
          exact (answerMutation_concludes (fun _ => rfl) _ _ _).congr
            (by simp) (lenient nofun)
  | importWorkflow request =>
      simp only [MutationRequest.serve, importWorkflow, MutationRequest.Refused]
      cases request.body with
      | none => exact refuseMutation_concludes (fun _ => rfl) _ (by simp)
      | some body =>
          exact (answerMutation_concludes (fun _ => rfl) _ _ _).congr
            (by simp) (lenient nofun)
  | rewindWorkflow request =>
      refine (rewindWorkflow_concludes request).congr
        (by simp [MutationRequest.Refused]) ?_
      simp [MutationRequest.mutation]

end Handlers

/-! ## Honest reports -/

/--
A request is reported honestly exactly if it is a rewind, is refused before
anything is sent, or does not meet with a response which carries no error message
and reports no success.
-/
theorem reportedHonestly_iff (server : WorkflowServer types)
    (request : MutationRequest) :
    request.ReportedHonestly server ↔
      request.mutation = .rewindWorkflow ∨ request.Refused server.store ∨
        ¬request.mutation.Answered server.routed false := by
  have concludes := serve_concludes server request
  rw [MutationRequest.ReportedHonestly, concludes.audits, or_self,
    concludes.succeeds]
  constructor
  · intro honest
    by_contra! dishonest
    obtain ⟨lenient, sent, unconfirmed⟩ := dishonest
    -- The response is accepted and would have to report success as well.
    obtain ⟨_, response, routed, expected, -, reported⟩ := honest
      ⟨sent, false, unconfirmed, fun isRewind => absurd isRewind lenient⟩
    obtain ⟨_, other, same, isOther, -, unreported⟩ := unconfirmed
    cases routed.symm.trans same
    cases expected.symm.trans isOther
    cases reported.symm.trans unreported
  · rintro condition ⟨sent, success, answered, ofRewind⟩
    cases success with
    | true => exact answered
    | false =>
        obtain isRewind | refused | confirmed := condition
        · cases ofRewind isRewind
        · exact absurd refused sent
        · exact absurd answered confirmed

/-- A cancellation an executor has refused without an error message. -/
def refusedCancellation : WireMessage literalTypes :=
  ⟨true, .cancel, ("cancel", "req-1", none, false, ())⟩

/-- It is answered and recorded as a success. -/
theorem cancelWorkflow_refused :
    ∃ (server : WorkflowServer literalTypes) (request : MutationRequest),
      server.routed = .ok refusedCancellation ∧
        request.mutation.response refusedCancellation = some ⟨none, false⟩ ∧
        (request.serve server).response = .ok 204 ∧
        (request.serve server).audit.status = .success ∧
        ¬request.ReportedHonestly server := by
  refine ⟨⟨none, "req-1", .ok refusedCancellation⟩,
    .cancelWorkflow ⟨"local", "orders", "wf-1", none⟩, rfl, rfl, rfl, rfl, ?_⟩
  intro honest
  obtain ⟨_, response, routed, expected, -, reported⟩ := honest (Or.inr rfl)
  cases routed
  cases expected
  cases reported

end DbosRelay.Api
