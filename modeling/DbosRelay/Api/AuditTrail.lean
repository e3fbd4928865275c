import DbosRelay.Api.Audit
import DbosRelay.Library.GoJsonText
import DbosRelay.Library.Results

/-!
# The audit trail

What the audit log holds after any run of operations and sweeps, and what a
listing of it says: every operation of the organisation which was recorded and has
not expired at a sweep since, and nothing else.
-/

namespace DbosRelay.Api

open DbosRelay.Basic
open DbosRelay.Library.GoJson
open DbosRelay.Library.Results
open DbosRelay.Library.Runs

/-! ## Runs -/

/-- What happens to the audit log. -/
inductive AuditEvent where
  /--
  An operation, with the organisation of its name, and with the identifier and the
  instant of its row unless the insertion fails.
  -/
  | operates (request : AuditRequest) (organisation : Option UUID)
      (inserted : Option (UUID × Time))
  | sweeps (turn : SweepTurn)

/-- The row an event inserts. -/
def AuditEvent.recorded : AuditEvent → Option AuditLog
  | .operates request organisation inserted =>
      (auditOperationAs (fun _ => organisation) request).bind fun params =>
        inserted.map fun row => params.row row.1 row.2
  | .sweeps _ => none

/-- The event deletes the rows of an organisation and an instant. -/
def AuditEvent.expires (event : AuditEvent) (organisationID : UUID)
    (createdAt : Time) : Bool :=
  match event with
  | .operates _ _ _ => false
  | .sweeps turn =>
      turn.succeeds && turn.org.expires turn.now organisationID createdAt

/-- One event. -/
def auditStep (logs : List AuditLog) (event : AuditEvent) :
    Option (List AuditLog) :=
  match event with
  | .operates _ _ _ => some (logs ++ event.recorded.toList)
  | .sweeps turn => some (turn.sweep logs)

/-- A row is there after an event if it was inserted, or has been there and stays. -/
theorem mem_auditStep {before after : List AuditLog} {event : AuditEvent}
    (taken : auditStep before event = some after) (log : AuditLog) :
    log ∈ after ↔ event.recorded = some log ∨
      (event.expires log.organisationID log.createdAt = false ∧
        log ∈ before) := by
  cases event with
  | operates request organisation inserted =>
      cases taken
      rw [List.mem_append, Option.mem_toList]
      simp [AuditEvent.expires, or_comm]
  | sweeps turn =>
      cases taken
      simp only [AuditEvent.recorded, AuditEvent.expires, SweepTurn.sweep]
      cases turn.succeeds with
      | false => simp
      | true => simp [List.mem_filter, and_comm]

/-- What no event deletes has never been older than the window at a sweep. -/
theorem forall_expires_eq_false_iff {events : List AuditEvent}
    {organisationID : UUID} {createdAt : Time} :
    (∀ event ∈ events, event.expires organisationID createdAt = false) ↔
      ∀ turn, .sweeps turn ∈ events → turn.succeeds = true →
        turn.org.id = organisationID →
          turn.now - retention turn.org.auditLogRetentionDays ≤ createdAt := by
  constructor
  · intro stays turn member succeeds own
    have kept := stays _ member
    simp only [AuditEvent.expires, SweptOrganisation.expires, succeeds, own,
      decide_true, Bool.true_and, decide_eq_false_iff_not] at kept
    rw [← turn.org.window_eq]
    exact not_lt.mp kept
  · intro stays event member
    cases event with
    | operates request organisation inserted => rfl
    | sweeps turn =>
        have kept := stays turn member
        rw [← turn.org.window_eq] at kept
        simp only [AuditEvent.expires, SweptOrganisation.expires,
          Bool.and_eq_false_iff, decide_eq_false_iff_not]
        by_cases succeeds : turn.succeeds = true
        · by_cases own : turn.org.id = organisationID
          · exact Or.inr (Or.inr (not_lt.mpr (kept succeeds own)))
          · exact Or.inr (Or.inl (Ne.symm own))
        · exact Or.inl (eq_false_of_ne_true succeeds)

/--
The audit log holds exactly the rows which were inserted and have not been older
than the window of their organisation at a sweep since.
-/
theorem mem_trail_iff {events : List AuditEvent} {logs : List AuditLog}
    (taken : run auditStep [] events = some logs) (log : AuditLog) :
    log ∈ logs ↔
      ∃ earlier event later, events = earlier ++ event :: later ∧
        event.recorded = some log ∧
          ∀ turn, .sweeps turn ∈ later → turn.succeeds = true →
            turn.org.id = log.organisationID →
              turn.now - retention turn.org.auditLogRetentionDays ≤
                log.createdAt := by
  simp only [← forall_expires_eq_false_iff]
  refine run_history (fun events logs => log ∈ logs ↔
    ∃ earlier event later, events = earlier ++ event :: later ∧
      event.recorded = some log ∧
        ∀ next ∈ later,
          next.expires log.organisationID log.createdAt = false)
    ?_ taken (by simp)
  intro earlier before after event reaches stepTaken held
  rw [mem_auditStep stepTaken, held, exists_since_append_singleton]

/-- A sweep takes its turns one after the other, and counts what it removes. -/
theorem sweepOnce_spec (turns : List SweepTurn) (logs : List AuditLog) :
    run auditStep logs (turns.map .sweeps) = some (sweepOnce turns logs).2 ∧
      (sweepOnce turns logs).1 + (sweepOnce turns logs).2.length =
        logs.length := by
  induction turns generalizing logs with
  | nil => simp [sweepOnce]
  | cons turn turns induction =>
      rcases induction (turn.sweep logs) with ⟨runs, counts⟩
      have shorter : (turn.sweep logs).length ≤ logs.length := by
        unfold SweepTurn.sweep
        split_ifs
        · exact List.length_filter_le _ _
        · exact le_rfl
      constructor
      · exact run_cons_eq_some.mpr ⟨_, rfl, runs⟩
      · simp only [sweepOnce]
        omega

/-! ## Listings -/

/-- All operations of a run leave the target and the address to the audit log. -/
def PlainOperations (events : List AuditEvent) : Prop :=
  ∀ request organisation inserted,
    .operates request organisation inserted ∈ events → request.Plain

/-- A row which was inserted is the one of an operation. -/
theorem recorded_eq_some {event : AuditEvent} {log : AuditLog}
    (recorded : event.recorded = some log) :
    ∃ request organisationID params id now,
      event = .operates request (some organisationID) (some (id, now)) ∧
        auditOperationAs (fun _ => some organisationID) request =
          some params ∧
        log = params.row id now ∧ params.organisationID = organisationID := by
  cases event with
  | sweeps turn => cases recorded
  | operates request organisation inserted =>
      rcases Option.bind_eq_some_iff.mp recorded with
        ⟨params, isParams, inserts⟩
      rcases Option.map_eq_some_iff.mp inserts with ⟨⟨id, now⟩, rfl, rfl⟩
      cases organisation with
      | none => cases isParams
      | some organisationID =>
          refine ⟨request, organisationID, params, id, now, rfl, isParams, rfl,
            ?_⟩
          cases isParams
          rfl

/-- A listing of all that matches has the entries that match. -/
theorem mem_listed_iff {render : Json → String} {params : ListAuditLogsParams}
    {logs listed : List AuditLog}
    (query : ListedLogs render params logs listed) (whole : params.offset = 0)
    (fits : (logs.filter (params.selects render)).length ≤ params.limit)
    (log : AuditLog) :
    log ∈ listed ↔ log ∈ logs ∧ params.selects render log = true := by
  rcases query with ⟨ordered, perm, -, rfl⟩
  rw [whole, List.drop_zero, List.take_of_length_le (perm.length_eq ▸ fits),
    perm.mem_iff, List.mem_filter]

/-- The entries of a whole listing, and their order. -/
theorem entries_exact {render : Json → String} {events : List AuditEvent}
    {logs listed : List AuditLog} {params : ListAuditLogsParams}
    (taken : run auditStep [] events = some logs)
    (plain : PlainOperations events)
    (query : ListedLogs render params logs listed) (whole : params.offset = 0)
    (fits : (logs.filter (params.selects render)).length ≤ params.limit) :
    (∀ entry, entry ∈ listed.map AuditLog.entry ↔
      ∃ earlier operation id now later,
        events = earlier ++ .operates operation (some params.organisationID)
          (some (id, now)) :: later ∧
        operation.Matches params now ∧ entry = operation.entry id now ∧
        ∀ turn, .sweeps turn ∈ later → turn.succeeds = true →
          turn.org.id = params.organisationID →
            turn.now - retention turn.org.auditLogRetentionDays ≤ now) ∧
    (listed.map AuditLog.entry).Pairwise fun newer older =>
      older.emitTime ≤ newer.emitTime := by
  constructor
  · intro entry
    rw [List.mem_map]
    constructor
    · rintro ⟨log, isListed, rfl⟩
      rcases (mem_listed_iff query whole fits log).mp isListed with
        ⟨isThere, selected⟩
      rcases (mem_trail_iff taken log).mp isThere with
        ⟨earlier, event, later, rfl, recorded, stays⟩
      rcases recorded_eq_some recorded with
        ⟨operation, organisationID, row, id, now, rfl, isRow, rfl, own⟩
      have isPlain : operation.Plain :=
        plain operation (some organisationID) (some (id, now))
          (List.mem_append_right _ List.mem_cons_self)
      rcases (selects_row_iff isPlain isRow render params).mp selected with
        ⟨sameOrganisation, isMatch⟩
      have same : organisationID = params.organisationID :=
        own.symm.trans sameOrganisation
      subst same
      refine ⟨earlier, operation, id, now, later, rfl, isMatch,
        entry_eq isPlain isRow, ?_⟩
      intro turn member succeeds own
      exact stays turn member succeeds (own.trans sameOrganisation.symm)
    · rintro ⟨earlier, operation, id, now, later, rfl, isMatch, rfl, stays⟩
      have isPlain : operation.Plain :=
        plain operation (some params.organisationID) (some (id, now))
          (List.mem_append_right _ List.mem_cons_self)
      have isRow : auditOperationAs (fun _ => some params.organisationID)
          operation = some _ := rfl
      refine ⟨_, (mem_listed_iff query whole fits _).mpr ⟨?_, ?_⟩,
        entry_eq isPlain isRow⟩
      · exact (mem_trail_iff taken _).mpr
          ⟨earlier, _, later, rfl, rfl, stays⟩
      · exact (selects_row_iff isPlain isRow render params).mpr ⟨rfl, isMatch⟩
  · rcases query with ⟨ordered, -, newest, rfl⟩
    rw [List.pairwise_map]
    exact (newest.sublist (List.drop_sublist _ _)).sublist
      (List.take_sublist _ _)

/--
A listing of a whole audit log says what was recorded.  After any run of operations
and sweeps, its entries are those of the operations of the organisation which were
recorded, match the filters and have not expired at a sweep since; each says what
its operation was, its numbers as `float64`s, and the newest come first.
-/
theorem handleListAuditLogs_exact (organisation : String → Option UUID)
    (render : Json → String) (events : List AuditEvent) (logs : List AuditLog)
    (taken : run auditStep [] events = some logs)
    (plain : PlainOperations events)
    (query : ListAuditLogsParams → Except String (List AuditLog))
    (statement : ∀ params listed, query params = .ok listed →
      ListedLogs render params logs listed)
    (request : ListAuditLogsRequest) (organisationID : UUID) (limit : Nat)
    (named : organisation request.orgName = some organisationID)
    (page : request.page = .ok (limit, 0))
    (fits : (logs.filter (ListAuditLogsParams.selects render
      (request.params organisationID (limit, 0)))).length ≤ limit)
    (entries : List AuditLogEntry)
    (answers : handleListAuditLogs organisation query request = .ok entries) :
    (∀ entry, entry ∈ entries ↔
      ∃ earlier operation id now later,
        events = earlier ++
          .operates operation (some organisationID) (some (id, now)) :: later ∧
        operation.Matches (request.params organisationID (limit, 0)) now ∧
        entry = operation.entry id now ∧
        ∀ turn, .sweeps turn ∈ later → turn.succeeds = true →
          turn.org.id = organisationID →
            turn.now - retention turn.org.auditLogRetentionDays ≤ now) ∧
    entries.Pairwise fun newer older => older.emitTime ≤ newer.emitTime := by
  simp only [handleListAuditLogs, named] at answers
  rcases bind_ok_iff.mp answers with ⟨_, isPage, answered⟩
  rw [page] at isPage
  cases isPage
  split at answered
  · cases answered
  · rename_i listed found
    cases answered
    exact entries_exact taken plain (statement _ listed found) rfl fits

/-! ## Two operations and a sweep -/

/-- An operation of the system. -/
def sampleOperation : AuditRequest where
  sourceIP := ""
  ident := none
  orgName := "local"
  appName := "shop"
  operation := "application.update"
  status := .success
  targetType := "application"
  targetID := "shop"
  fields := ∅

/-- The row of the operation on the given day. -/
def sampleRow (id : UUID) (day : Int) : AuditLog :=
  (CreateAuditLogParams.mk ⟨1⟩ none "system" "application.update"
    sampleOperation.details).row id (day * (24 * 3600 * second))

/-- The operation on the first day and on day 99, and a sweep on day 100. -/
def sampleAuditEvents : List AuditEvent :=
  [.operates sampleOperation (some ⟨1⟩) (some (⟨2⟩, 0 * (24 * 3600 * second))),
    .operates sampleOperation (some ⟨1⟩)
      (some (⟨3⟩, 99 * (24 * 3600 * second))),
    .sweeps ⟨⟨⟨1⟩, 0⟩, 100 * (24 * 3600 * second), true⟩]

theorem run_sampleAuditEvents :
    run auditStep [] sampleAuditEvents = some [sampleRow ⟨3⟩ 99] := by
  rfl

theorem plain_sampleAuditEvents : PlainOperations sampleAuditEvents := by
  have plain : sampleOperation.Plain := ⟨rfl, rfl, rfl, rfl⟩
  intro request organisation inserted member
  simp only [sampleAuditEvents, List.mem_cons, AuditEvent.operates.injEq,
    reduceCtorEq, List.not_mem_nil, or_false] at member
  rcases member with ⟨rfl, -, -⟩ | ⟨rfl, -, -⟩
  · exact plain
  · exact plain

/-- The older operation has left the log, which has a window of ninety days. -/
theorem mem_trail_iff_swept :
    run auditStep [] sampleAuditEvents = some [sampleRow ⟨3⟩ 99] ∧
      ∃ earlier event later, sampleAuditEvents = earlier ++ event :: later ∧
        event.recorded = some (sampleRow ⟨3⟩ 99) ∧
          ∀ turn, .sweeps turn ∈ later → turn.succeeds = true →
            turn.org.id = ⟨1⟩ →
              turn.now - retention turn.org.auditLogRetentionDays ≤
                99 * (24 * 3600 * second) :=
  ⟨run_sampleAuditEvents,
    (mem_trail_iff run_sampleAuditEvents (sampleRow ⟨3⟩ 99)).mp
      (List.mem_singleton_self _)⟩

/-- `ListAuditLogs` over the rows which are left. -/
def sampleQuery (params : ListAuditLogsParams) :
    Except String (List AuditLog) :=
  .ok ((([sampleRow ⟨3⟩ 99].filter
    (params.selects fun json => String.ofList json.text)).drop
      params.offset).take params.limit)

theorem listedLogs_sampleQuery (params : ListAuditLogsParams)
    (listed : List AuditLog) (answers : sampleQuery params = .ok listed) :
    ListedLogs (fun json => String.ofList json.text) params
      [sampleRow ⟨3⟩ 99] listed := by
  cases answers
  exact ⟨_, .refl _, (List.pairwise_singleton _ _).filter _, rfl⟩

theorem handleListAuditLogs_exact_swept :
    handleListAuditLogs (fun _ => some ⟨1⟩) sampleQuery
        ⟨"local", none, none, none, none, none, none, none⟩ =
      .ok [(sampleRow ⟨3⟩ 99).entry] ∧
    sampleOperation.entry ⟨3⟩ (99 * (24 * 3600 * second)) ∈
      [(sampleRow ⟨3⟩ 99).entry] := by
  refine ⟨rfl, ((handleListAuditLogs_exact (fun _ => some ⟨1⟩)
    (fun json => String.ofList json.text) sampleAuditEvents
    [sampleRow ⟨3⟩ 99] run_sampleAuditEvents plain_sampleAuditEvents
    sampleQuery listedLogs_sampleQuery
    ⟨"local", none, none, none, none, none, none, none⟩ ⟨1⟩ 100 rfl rfl
    (by decide) _ rfl).1 _).mpr ?_⟩
  exact ⟨[.operates sampleOperation (some ⟨1⟩)
    (some (⟨2⟩, 0 * (24 * 3600 * second)))], sampleOperation, ⟨3⟩,
    99 * (24 * 3600 * second), [.sweeps
      ⟨⟨⟨1⟩, 0⟩, 100 * (24 * 3600 * second), true⟩], rfl,
    by simp [AuditRequest.Matches, ListAuditLogsRequest.params], rfl,
    by simp; decide⟩

end DbosRelay.Api
