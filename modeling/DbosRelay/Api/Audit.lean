import DbosRelay.Api.WorkflowsWrite
import DbosRelay.Library.GoAny
import DbosRelay.Library.Runs

/-!
# The audit log

`auditOperationAs`, `SweepOnce` and `handleListAuditLogs` of `internal/api/audit.go`
and `internal/api/identity.go`, over the table `audit_logs` with its statements in
`internal/store/queries/identity.sql`, which are PostgreSQL's.  The details of an
entry are a map which is marshalled when it is written, and unmarshalled when it is
read, which makes `float64`s of its numbers; the rows keep the map.

The statements are atomic and may come in any order.  The order of entries of one
instant is left to the database.
-/

namespace DbosRelay.Api

open DbosRelay.Basic
open DbosRelay.Identity
open DbosRelay.Library.GoJson
open DbosRelay.Library.Runs
open DbosRelay.Library.Tables
open DbosRelay.Router

/-! ## Rows -/

/-- A map with the values of any type. -/
abbrev AuditDetails := Table String Json

/-- A row of `audit_logs`. -/
structure AuditLog where
  id : UUID
  organisationID : UUID
  userID : Option UUID
  username : String
  action : String
  details : AuditDetails
  createdAt : Time

/-- `CreateAuditLogParams`; the user is left out by every caller. -/
structure CreateAuditLogParams where
  organisationID : UUID
  userID : Option UUID
  username : String
  action : String
  details : AuditDetails

/-- The row `CreateAuditLog` inserts. -/
def CreateAuditLogParams.row (params : CreateAuditLogParams) (id : UUID)
    (now : Time) : AuditLog where
  id := id
  organisationID := params.organisationID
  userID := params.userID
  username := params.username
  action := params.action
  details := params.details
  createdAt := now

/-! ## Recording -/

/-- The texts of the status. -/
def AuditStatus.text : AuditStatus → String
  | .success => "success"
  | .failure => "failure"

/-- `AuditSubjectType`. -/
inductive AuditSubjectType where
  | user
  | apiKey
deriving DecidableEq, Repr

/-- The texts of the type. -/
def AuditSubjectType.text : AuditSubjectType → String
  | .user => "user"
  | .apiKey => "api_key"

/-- `AuditSubject`. -/
structure AuditSubject where
  id : String
  display : String
  type : AuditSubjectType
deriving DecidableEq, Repr

/-- `AuditTarget`. -/
structure AuditTarget where
  id : String
  type : String
deriving DecidableEq, Repr

/-- The subject of an identity; it has a name in any case. -/
def auditSubject : Option UserIdentity → AuditSubject
  | none => ⟨"", "system", .user⟩
  | some ident =>
      let display :=
        if ident.isAPIKey then ident.username
        else if ident.email = "" then ident.username
        else ident.email
      ⟨ident.subject, if display = "" then "system" else display,
        if ident.isAPIKey then .apiKey else .user⟩

/-- The arguments of `auditOperationAs`, with the address in its context. -/
structure AuditRequest where
  sourceIP : String
  ident : Option UserIdentity
  orgName : String
  appName : String
  operation : String
  status : AuditStatus
  targetType : String
  targetID : String
  fields : AuditDetails

/-- The details of an operation; they take precedence over its fields. -/
def AuditRequest.details (request : AuditRequest) : AuditDetails :=
  let subject := auditSubject request.ident
  let details :=
    (((request.fields.insert "status" (.string request.status.text)).insert
      "subject_type" (.string subject.type.text)).insert
      "subject_id" (.string subject.id)).insert
      "subject_display" (.string subject.display)
  let details :=
    if request.targetType = "" then details
    else
      (details.insert "target_type" (.string request.targetType)).insert
        "target_id" (.string request.targetID)
  let details :=
    if request.sourceIP = "" then details
    else details.insert "source_ip" (.string request.sourceIP)
  if request.appName = "" then details
  else details.insert "application_name" (.string request.appName)

/-- `auditOperationAs` with the organisation of its name, if it is found. -/
def auditOperationAs (organisation : String → Option UUID)
    (request : AuditRequest) : Option CreateAuditLogParams :=
  (organisation (normalizeOrg request.orgName)).map fun organisationID =>
    { organisationID := organisationID
      userID := none
      username := (auditSubject request.ident).display
      action := request.operation
      details := request.details }

/-! ## Reading -/

/-- `AuditLogEntry`. -/
@[ext]
structure AuditLogEntry where
  id : String
  operation : String
  emitTime : Time
  status : AuditStatus
  sourceIP : String
  details : AuditDetails
  subject : AuditSubject
  target : Option AuditTarget

/-- `formatUUID`. -/
def formatUUID : Option UUID → String
  | none => ""
  | some id => uuidText id

/-- The detail of a name, if it is a text. -/
def stringOf (details : AuditDetails) (name : String) : Option String :=
  match details.lookup name with
  | some (.string value) => some value
  | _ => none

/-- The detail of a name, or else another text. -/
def stringOr (details : AuditDetails) (name other : String) : String :=
  let value := (stringOf details name).getD ""
  if value = "" then other else value

/-- The target in the details. -/
def auditTarget (details : AuditDetails) : Option AuditTarget :=
  match stringOf details "target_type" with
  | none => none
  | some type =>
      if type = "" then none
      else some ⟨(stringOf details "target_id").getD "", type⟩

/-- The details as they are unmarshalled, each into an `any`. -/
def unmarshalDetails (details : AuditDetails) : AuditDetails :=
  mapValues (fun _ => throughAny) details

/-- The entry of a row. -/
def AuditLog.entry (log : AuditLog) : AuditLogEntry :=
  let details := unmarshalDetails log.details
  { id := uuidText log.id
    operation := log.action
    emitTime := log.createdAt
    status :=
      if stringOf details "status" = some "failure" then .failure
      else .success
    sourceIP :=
      stringOr details "source_ip" ((stringOf details "ip_address").getD "")
    details := details
    subject :=
      { id := stringOr details "subject_id" (formatUUID log.userID)
        display := stringOr details "subject_display" log.username
        type :=
          if stringOf details "subject_type" = some "api_key" then .apiKey
          else .user }
    target := auditTarget details }

/-- A text is unmarshalled as it is, and nothing else as a text. -/
@[simp]
theorem stringOf_unmarshalDetails (details : AuditDetails) (name : String) :
    stringOf (unmarshalDetails details) name = stringOf details name := by
  rw [stringOf, stringOf, unmarshalDetails, lookup_mapValues]
  cases details.lookup name with
  | none => rfl
  | some json =>
      cases json with
      | number literal =>
          rw [Option.map_some, throughAny]
          cases roundFloat64 literal.value <;> rfl
      | _ => rfl

@[simp]
theorem stringOr_unmarshalDetails (details : AuditDetails) (name other : String) :
    stringOr (unmarshalDetails details) name other =
      stringOr details name other := by
  rw [stringOr, stringOr, stringOf_unmarshalDetails]

@[simp]
theorem auditTarget_unmarshalDetails (details : AuditDetails) :
    auditTarget (unmarshalDetails details) = auditTarget details := by
  rw [auditTarget, auditTarget, stringOf_unmarshalDetails,
    stringOf_unmarshalDetails]

/-- `ListAuditLogsParams`. -/
structure ListAuditLogsParams where
  organisationID : UUID
  startTime : Option Time
  endTime : Option Time
  operation : Option String
  subject : Option String
  target : Option String
  limit : Nat
  offset : Nat

/-- `details->>name`, with the database's text of what is neither text nor `null`. -/
def fieldText (render : Json → String) (details : AuditDetails)
    (name : String) : Option String :=
  match details.lookup name with
  | none => none
  | some .null => none
  | some (.string value) => some value
  | some json => some (render json)

/-- The condition of `ListAuditLogs`. -/
def ListAuditLogsParams.selects (render : Json → String)
    (params : ListAuditLogsParams) (log : AuditLog) : Bool :=
  log.organisationID = params.organisationID &&
    params.startTime.all (fun start => start ≤ log.createdAt) &&
    params.endTime.all (fun ends => log.createdAt ≤ ends) &&
    params.operation.all (fun operation => log.action = operation) &&
    params.subject.all (fun subject => log.username = subject ||
      fieldText render log.details "subject_display" = some subject ||
      fieldText render log.details "subject_id" = some subject) &&
    params.target.all fun target =>
      fieldText render log.details "target_id" = some target

/-- `ListAuditLogs`: the newest rows first. -/
def ListedLogs (render : Json → String) (params : ListAuditLogsParams)
    (logs listed : List AuditLog) : Prop :=
  ∃ ordered : List AuditLog,
    ordered.Perm (logs.filter (params.selects render)) ∧
      ordered.Pairwise (fun newer older =>
        older.createdAt ≤ newer.createdAt) ∧
      listed = (ordered.drop params.offset).take params.limit

/-- The parameters of a listing request. -/
structure ListAuditLogsRequest where
  orgName : String
  limit : Option Int
  offset : Option Int
  startTime : Option Time
  endTime : Option Time
  operation : Option String
  subject : Option String
  target : Option String

/-- The limit and the offset of a listing request. -/
def ListAuditLogsRequest.page (request : ListAuditLogsRequest) :
    Except ErrorModel (Nat × Nat) :=
  if request.limit.any (· < 0) then
    .error (makeErrorModel 400 "Bad Request" "limit must be non-negative")
  else if request.offset.any (· < 0) then
    .error (makeErrorModel 400 "Bad Request" "offset must be non-negative")
  else if request.limit.any (1000 < ·) then
    .error (makeErrorModel 400 "Bad Request" "limit must not exceed 1000")
  else
    let limit := request.limit.getD 0
    .ok (if 0 < limit then limit.toNat else 100,
      (request.offset.getD 0).toNat)

/-- The parameters of the statement. -/
def ListAuditLogsRequest.params (request : ListAuditLogsRequest)
    (organisationID : UUID) (page : Nat × Nat) : ListAuditLogsParams where
  organisationID := organisationID
  startTime := request.startTime
  endTime := request.endTime
  operation := request.operation
  subject := request.subject
  target := request.target
  limit := page.1
  offset := page.2

/-- `handleListAuditLogs`, with the answer of the query. -/
def handleListAuditLogs (organisation : String → Option UUID)
    (listAuditLogs : ListAuditLogsParams → Except String (List AuditLog))
    (request : ListAuditLogsRequest) :
    Except ErrorModel (List AuditLogEntry) :=
  match organisation request.orgName with
  | none =>
      .error (makeErrorModel 404 "Not Found"
        ("organisation " ++ request.orgName.quote ++ " not found"))
  | some organisationID => do
      let page ← request.page
      match listAuditLogs (request.params organisationID page) with
      | .error text =>
          .error (makeErrorModel 500 "Internal Server Error" text)
      | .ok logs => return logs.map AuditLog.entry

/-! ## Retention -/

/-- `DefaultAuditLogRetentionDays`. -/
def defaultAuditLogRetentionDays : Int := 90

/-- `MinAuditLogRetentionDays`. -/
def minAuditLogRetentionDays : Int := 7

/-- `MaxAuditLogRetentionDays`. -/
def maxAuditLogRetentionDays : Int := 3650

/-- The columns of an organisation which the sweeper reads. -/
structure SweptOrganisation where
  id : UUID
  auditLogRetentionDays : Int
deriving DecidableEq, Repr

/-- The window of an organisation, which has the default if it is out of range. -/
def SweptOrganisation.window (org : SweptOrganisation) : Duration :=
  let days := org.auditLogRetentionDays
  (if days < minAuditLogRetentionDays ∨ maxAuditLogRetentionDays < days then
    defaultAuditLogRetentionDays
  else days) * (24 * 3600 * second)

/-- `DeleteExpiredAuditLogs` deletes the rows of an organisation and an instant. -/
def SweptOrganisation.expires (org : SweptOrganisation) (now : Time)
    (organisationID : UUID) (createdAt : Time) : Bool :=
  organisationID = org.id && createdAt < now - org.window

/-- One organisation of a sweep; a failure of its statement is passed over. -/
structure SweepTurn where
  org : SweptOrganisation
  now : Time
  succeeds : Bool

/-- The rows a turn leaves. -/
def SweepTurn.sweep (turn : SweepTurn) (logs : List AuditLog) :
    List AuditLog :=
  if turn.succeeds then
    logs.filter fun log =>
      !turn.org.expires turn.now log.organisationID log.createdAt
  else logs

/-- `SweepOnce` after the listing: how many rows are removed, and what is left. -/
def sweepOnce : List SweepTurn → List AuditLog → Nat × List AuditLog
  | [], logs => (0, logs)
  | turn :: turns, logs =>
      let left := turn.sweep logs
      ((logs.length - left.length) + (sweepOnce turns left).1,
        (sweepOnce turns left).2)

/-- How long the entries of an organisation are kept. -/
def retention (days : Int) : Duration :=
  (if 7 ≤ days ∧ days ≤ 3650 then days else 90) * (24 * 3600 * second)

theorem SweptOrganisation.window_eq (org : SweptOrganisation) :
    org.window = retention org.auditLogRetentionDays := by
  unfold window retention minAuditLogRetentionDays maxAuditLogRetentionDays
    defaultAuditLogRetentionDays
  dsimp only
  by_cases inRange : 7 ≤ org.auditLogRetentionDays ∧
      org.auditLogRetentionDays ≤ 3650
  · rw [if_pos inRange, if_neg (by omega)]
  · rw [if_neg inRange, if_pos (by omega)]

/-! ## What an entry says -/

/-- The fields leave the target and the address to `auditOperationAs`. -/
structure AuditRequest.Plain (request : AuditRequest) : Prop where
  target_type : request.fields.lookup "target_type" = none
  target_id : request.fields.lookup "target_id" = none
  source_ip : request.fields.lookup "source_ip" = none
  ip_address : request.fields.lookup "ip_address" = none

/-- The detail of a name, as the operation and its fields determine it. -/
def AuditRequest.detail (request : AuditRequest) (name : String) :
    Option Json :=
  let subject := auditSubject request.ident
  if name = "application_name" ∧ request.appName ≠ "" then
    some (.string request.appName)
  else if name = "source_ip" ∧ request.sourceIP ≠ "" then
    some (.string request.sourceIP)
  else if name = "target_id" ∧ request.targetType ≠ "" then
    some (.string request.targetID)
  else if name = "target_type" ∧ request.targetType ≠ "" then
    some (.string request.targetType)
  else if name = "subject_display" then some (.string subject.display)
  else if name = "subject_id" then some (.string subject.id)
  else if name = "subject_type" then some (.string subject.type.text)
  else if name = "status" then some (.string request.status.text)
  else request.fields.lookup name

theorem AuditRequest.lookup_details (request : AuditRequest) (name : String) :
    request.details.lookup name = request.detail name := by
  unfold AuditRequest.details AuditRequest.detail
  by_cases app : request.appName = "" <;>
    by_cases ip : request.sourceIP = "" <;>
      by_cases target : request.targetType = "" <;>
        simp [app, ip, target, lookup_insert_eq]

/-- The entry of an operation: what was recorded, with its numbers as `float64`s. -/
def AuditRequest.entry (request : AuditRequest) (id : UUID) (now : Time) :
    AuditLogEntry where
  id := uuidText id
  operation := request.operation
  emitTime := now
  status := request.status
  sourceIP := request.sourceIP
  details := unmarshalDetails request.details
  subject := auditSubject request.ident
  target :=
    if request.targetType = "" then none
    else some ⟨request.targetID, request.targetType⟩

section Entry

variable {organisation : String → Option UUID} {request : AuditRequest}
variable {params : CreateAuditLogParams} {id : UUID} {now : Time}

/-- What is written as a detail is read. -/
theorem stringOf_details (request : AuditRequest) (name : String) :
    stringOf request.details name =
      match request.detail name with
      | some (.string value) => some value
      | _ => none := by
  rw [stringOf, request.lookup_details]

/-- The status and the subject are those of the operation, whatever its fields. -/
theorem entry_row (recorded : auditOperationAs organisation request =
      some params) (id : UUID) (now : Time) :
    (params.row id now).entry.status = request.status ∧
      (params.row id now).entry.subject = auditSubject request.ident := by
  rcases Option.map_eq_some_iff.mp recorded with ⟨organisationID, -, rfl⟩
  constructor
  · cases status : request.status <;>
      simp [AuditLog.entry, CreateAuditLogParams.row, stringOf_details,
        AuditRequest.detail, AuditStatus.text, status]
  · generalize same : auditSubject request.ident = subject
    rcases subject with ⟨subjectID, display, type⟩
    cases type <;>
      simp [AuditLog.entry, CreateAuditLogParams.row, stringOr,
        stringOf_details, AuditRequest.detail, AuditSubjectType.text,
        formatUUID, same]

theorem sourceIP_details (plain : request.Plain) :
    stringOr request.details "source_ip"
        ((stringOf request.details "ip_address").getD "") =
      request.sourceIP := by
  by_cases known : request.sourceIP = ""
  · simp [stringOr, stringOf_details, AuditRequest.detail, known,
      plain.source_ip, plain.ip_address]
  · simp [stringOr, stringOf_details, AuditRequest.detail, known]

theorem auditTarget_details (plain : request.Plain) :
    auditTarget request.details =
      if request.targetType = "" then none
      else some ⟨request.targetID, request.targetType⟩ := by
  by_cases targeted : request.targetType = ""
  · simp [auditTarget, stringOf_details, AuditRequest.detail, targeted,
      plain.target_type]
  · simp [auditTarget, stringOf_details, AuditRequest.detail, targeted]

/-- The entry of a plain operation says what was recorded, and no more. -/
theorem entry_eq (plain : request.Plain)
    (recorded : auditOperationAs organisation request = some params) :
    (params.row id now).entry = request.entry id now := by
  rcases entry_row recorded id now with ⟨status, subject⟩
  rcases Option.map_eq_some_iff.mp recorded with ⟨organisationID, -, rfl⟩
  apply AuditLogEntry.ext
  · rfl
  · rfl
  · rfl
  · exact status
  · rw [AuditRequest.entry, ← sourceIP_details plain]
    simp [AuditLog.entry, CreateAuditLogParams.row]
  · rfl
  · exact subject
  · rw [AuditRequest.entry, ← auditTarget_details plain]
    simp [AuditLog.entry, CreateAuditLogParams.row]

/-- The operation meets the filters of a listing. -/
def AuditRequest.Matches (request : AuditRequest)
    (params : ListAuditLogsParams) (now : Time) : Prop :=
  (∀ start ∈ params.startTime, start ≤ now) ∧
    (∀ ends ∈ params.endTime, now ≤ ends) ∧
    (∀ operation ∈ params.operation, request.operation = operation) ∧
    (∀ subject ∈ params.subject,
      (auditSubject request.ident).display = subject ∨
        (auditSubject request.ident).id = subject) ∧
    ∀ target ∈ params.target,
      request.targetType ≠ "" ∧ request.targetID = target

/-- A listing selects a plain operation of its organisation by what it says. -/
theorem selects_row_iff (plain : request.Plain)
    (recorded : auditOperationAs organisation request = some params)
    (render : Json → String) (listing : ListAuditLogsParams) :
    listing.selects render (params.row id now) = true ↔
      params.organisationID = listing.organisationID ∧
        request.Matches listing now := by
  rcases Option.map_eq_some_iff.mp recorded with ⟨organisationID, -, rfl⟩
  have display : fieldText render request.details "subject_display" =
      some (auditSubject request.ident).display := by
    simp [fieldText, request.lookup_details, AuditRequest.detail]
  have subjectID : fieldText render request.details "subject_id" =
      some (auditSubject request.ident).id := by
    simp [fieldText, request.lookup_details, AuditRequest.detail]
  have target : fieldText render request.details "target_id" =
      if request.targetType = "" then none else some request.targetID := by
    by_cases targeted : request.targetType = ""
    · simp [fieldText, request.lookup_details, AuditRequest.detail, targeted,
        plain.target_id]
    · simp [fieldText, request.lookup_details, AuditRequest.detail, targeted]
  simp only [ListAuditLogsParams.selects, Bool.and_eq_true,
    Option.all_eq_true, decide_eq_true_eq, Bool.or_eq_true]
  simp only [CreateAuditLogParams.row, AuditRequest.Matches, display,
    subjectID, target, Option.some.injEq, Option.mem_def]
  constructor
  · rintro ⟨⟨⟨⟨⟨own, starts⟩, ends⟩, operations⟩, subjects⟩, targets⟩
    refine ⟨own, starts, ends, operations, ?_, ?_⟩
    · intro subject isSubject
      rcases subjects subject isSubject with (named | named) | named
      · exact .inl named
      · exact .inl named
      · exact .inr named
    · intro name isName
      have found := targets name isName
      split_ifs at found with untargeted
      exact ⟨untargeted, Option.some.inj found⟩
  · rintro ⟨own, starts, ends, operations, subjects, targets⟩
    refine ⟨⟨⟨⟨⟨own, starts⟩, ends⟩, operations⟩, ?_⟩, ?_⟩
    · intro subject isSubject
      rcases subjects subject isSubject with named | named
      · exact .inl (.inl named)
      · exact .inr named
    · intro name isName
      rcases targets name isName with ⟨targeted, same⟩
      rw [if_neg targeted, same]

end Entry

end DbosRelay.Api
