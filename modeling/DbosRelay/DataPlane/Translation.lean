import DbosRelay.DataPlane.Client
import DbosRelay.Library.GoJson
import Mathlib.Data.Finmap

/-!
# What a request becomes

When no executor answers, the router hands a request to the data-plane client,
whose `Dispatch` (`internal/dataplane/client.go`) translates it into one call of
the SDK, field by field.  Here the requests have all the fields of
`internal/protocol/messages.go`, and a call has all the options it is made with.

`DataRequest.canonical` is what a request asks of an executor which honours the
whole message.  Two requests with the same target should give the same call
exactly when they ask for the same.  They do, but for the fields which are
dropped on the way: the offset of a listing of steps, the two load flags of a
single workflow, the partition key of a fork, and differences among numbers
which are not positive.
-/

namespace DbosRelay.DataPlane

open DbosRelay.Basic
open DbosRelay.Library.GoJson

/-! ## Requests -/

/-- `map[string]any`. -/
abbrev AnyMap := Finmap fun _ : String => Json

/-- `GetWorkflowRequest`. -/
@[ext]
structure GetWorkflowRequest where
  workflowID : String
  loadInput : Bool
  loadOutput : Bool

/-- `ListWorkflowsRequestBody`; a `nil` slice is an empty one. -/
@[ext]
structure ListWorkflowsRequestBody where
  workflowUUIDs : List String
  workflowName : List String
  authenticatedUser : List String
  startTime : Option Time
  endTime : Option Time
  completedAfter : Option Time
  completedBefore : Option Time
  dequeuedAfter : Option Time
  dequeuedBefore : Option Time
  status : List String
  applicationVersion : List String
  forkedFrom : List String
  parentWorkflowID : List String
  wasForkedFrom : Option Bool
  isFork : Option Bool
  hasParent : Option Bool
  queueName : List String
  limit : Option Int
  offset : Option Int
  sortDesc : Bool
  workflowIDPrefix : List String
  loadInput : Bool
  loadOutput : Bool
  executorID : List String
  queuesOnly : Bool
  attributes : Option AnyMap
  scheduleName : List String
  applicationName : List String

/-- `ListStepsRequest`. -/
@[ext]
structure ListStepsRequest where
  workflowID : String
  loadOutput : Bool
  limit : Option Int
  offset : Option Int

/-- `CancelWorkflowRequest`. -/
@[ext]
structure CancelWorkflowRequest where
  cancelChildren : Bool
  workflowID : String
  workflowIDs : List String

/-- `ResumeWorkflowRequest`. -/
@[ext]
structure ResumeWorkflowRequest where
  workflowID : String
  workflowIDs : List String
  queueName : Option String

/-- `ForkWorkflowRequestBody`. -/
@[ext]
structure ForkWorkflowRequestBody where
  workflowID : String
  startStep : Int
  applicationVersion : Option String
  newWorkflowID : Option String
  queueName : Option String
  queuePartitionKey : Option String

/-- `RewindWorkflowRequestBody`. -/
@[ext]
structure RewindWorkflowRequestBody where
  workflowID : String
  startStep : Option Int
  applicationVersion : Option String
  queueName : Option String
  queuePartitionKey : Option String

/-- `DeleteWorkflowRequest`. -/
@[ext]
structure DeleteWorkflowRequest where
  workflowID : String
  workflowIDs : List String
  deleteChildren : Bool

/-- `ListSchedulesRequestBody`. -/
@[ext]
structure ListSchedulesRequestBody where
  status : List String
  workflowName : List String
  scheduleNamePrefix : List String
  applicationName : List String
  loadContext : Option Bool

/-- `GetScheduleRequest`. -/
@[ext]
structure GetScheduleRequest where
  scheduleName : String
  loadContext : Option Bool

/-- The requests whose filters and options `Dispatch` translates. -/
inductive DataRequest where
  | getWorkflow (req : GetWorkflowRequest)
  /-- Listings of workflows and of queued workflows have the same Go type. -/
  | listWorkflows (queued : Bool) (body : ListWorkflowsRequestBody)
  | listSteps (req : ListStepsRequest)
  | cancelWorkflow (req : CancelWorkflowRequest)
  | resumeWorkflow (req : ResumeWorkflowRequest)
  | forkWorkflow (body : ForkWorkflowRequestBody)
  | rewindWorkflow (body : RewindWorkflowRequestBody)
  | deleteWorkflow (req : DeleteWorkflowRequest)
  | listSchedules (body : ListSchedulesRequestBody)
  | getSchedule (req : GetScheduleRequest)
  | listQueues (applicationName : List String)
  | getQueue (name : String)

/-! ## Calls of the SDK -/

/-- The options of `ListWorkflows`; `none` is an option which is not given. -/
structure ListWorkflowsOptions where
  workflowIDs : Option (List String)
  name : Option (List String)
  user : Option (List String)
  createdAfter : Option Time
  createdBefore : Option Time
  completedAfter : Option Time
  completedBefore : Option Time
  dequeuedAfter : Option Time
  dequeuedBefore : Option Time
  status : Option (List String)
  appVersion : Option (List String)
  forkedFrom : Option (List String)
  parentWorkflowID : Option (List String)
  wasForkedFrom : Option Bool
  isFork : Option Bool
  hasParent : Option Bool
  queueName : Option (List String)
  limit : Option Int
  offset : Option Int
  sortDesc : Bool
  workflowIDPrefix : Option (List String)
  loadInput : Option Bool
  loadOutput : Option Bool
  executorIDs : Option (List String)
  queuesOnly : Bool
  attributes : Option AnyMap
  scheduleName : Option (List String)
  applicationName : Option (List String)

/-- No option of `ListWorkflows`. -/
def ListWorkflowsOptions.none : ListWorkflowsOptions where
  workflowIDs := Option.none
  name := Option.none
  user := Option.none
  createdAfter := Option.none
  createdBefore := Option.none
  completedAfter := Option.none
  completedBefore := Option.none
  dequeuedAfter := Option.none
  dequeuedBefore := Option.none
  status := Option.none
  appVersion := Option.none
  forkedFrom := Option.none
  parentWorkflowID := Option.none
  wasForkedFrom := Option.none
  isFork := Option.none
  hasParent := Option.none
  queueName := Option.none
  limit := Option.none
  offset := Option.none
  sortDesc := false
  workflowIDPrefix := Option.none
  loadInput := Option.none
  loadOutput := Option.none
  executorIDs := Option.none
  queuesOnly := false
  attributes := Option.none
  scheduleName := Option.none
  applicationName := Option.none

/-- `dbos.ForkWorkflowInput`, with the fields `Dispatch` sets. -/
structure ForkWorkflowInput where
  originalWorkflowID : String
  forkedWorkflowID : String
  startStep : Nat
  applicationVersion : String
  queueName : String

/-- The options of `RewindWorkflow`. -/
structure RewindWorkflowOptions where
  startStep : Option Nat
  applicationVersion : Option String
  queue : Option String
  queuePartitionKey : Option String

/-- The options of `ListSchedules`. -/
structure ListSchedulesOptions where
  statuses : Option (List String)
  workflowNames : Option (List String)
  namePrefixes : Option (List String)
  applicationNames : Option (List String)

/-- A call of the SDK; a schedule is then shown with its context or without. -/
inductive SDKCall where
  | listWorkflows (options : ListWorkflowsOptions)
  | getWorkflowSteps (workflowID : String) (loadOutput : Bool)
      (limit : Option Int)
  | cancelWorkflows (workflowIDs : List String) (cancelChildren : Bool)
  | cancelWorkflow (workflowID : String) (cancelChildren : Bool)
  | resumeWorkflows (workflowIDs : List String) (queue : Option String)
  | resumeWorkflow (workflowID : String) (queue : Option String)
  | forkWorkflow (input : ForkWorkflowInput)
  | rewindWorkflow (workflowID : String) (options : RewindWorkflowOptions)
  | deleteWorkflows (workflowIDs : List String) (deleteChildren : Bool)
  | listSchedules (options : ListSchedulesOptions) (loadContext : Bool)
  | getSchedule (scheduleName : String) (loadContext : Bool)
  | listQueues (applicationNames : Option (List String))
  | retrieveQueue (name : String)

/-! ## `Dispatch` -/

/-- A list is given as an option when it has elements. -/
def listOption (values : List String) : Option (List String) :=
  if values = [] then none else some values

/-- A flag is given as an option when it is set. -/
def flagOption (flag : Bool) : Option Bool :=
  if flag then some true else none

/-- A number is given as an option when it is positive. -/
def positiveOption (value : Option Int) : Option Int :=
  value.filter fun number => 0 < number

/-- The options of a `ListWorkflowsRequest`. -/
def listWorkflowsOptions (body : ListWorkflowsRequestBody) :
    ListWorkflowsOptions where
  workflowIDs := listOption body.workflowUUIDs
  name := listOption body.workflowName
  user := listOption body.authenticatedUser
  createdAfter := body.startTime
  createdBefore := body.endTime
  completedAfter := body.completedAfter
  completedBefore := body.completedBefore
  dequeuedAfter := body.dequeuedAfter
  dequeuedBefore := body.dequeuedBefore
  status := listOption body.status
  appVersion := listOption body.applicationVersion
  forkedFrom := listOption body.forkedFrom
  parentWorkflowID := listOption body.parentWorkflowID
  wasForkedFrom := body.wasForkedFrom
  isFork := body.isFork
  hasParent := body.hasParent
  queueName := listOption body.queueName
  limit := body.limit
  offset := body.offset
  sortDesc := body.sortDesc
  workflowIDPrefix := listOption body.workflowIDPrefix
  loadInput := flagOption body.loadInput
  loadOutput := flagOption body.loadOutput
  executorIDs := listOption body.executorID
  queuesOnly := body.queuesOnly
  attributes := body.attributes
  scheduleName := listOption body.scheduleName
  applicationName := listOption body.applicationName

/-- The input of a `ForkWorkflowRequest`: there is none for its partition key. -/
def forkWorkflowInput (body : ForkWorkflowRequestBody) :
    ForkWorkflowInput where
  originalWorkflowID := body.workflowID
  forkedWorkflowID := body.newWorkflowID.getD ""
  startStep := if 0 < body.startStep then body.startStep.toNat else 0
  applicationVersion := body.applicationVersion.getD ""
  queueName := body.queueName.getD ""

/-- The options of a `RewindWorkflowRequest`. -/
def rewindWorkflowOptions (body : RewindWorkflowRequestBody) :
    RewindWorkflowOptions where
  startStep := (positiveOption body.startStep).map Int.toNat
  applicationVersion := body.applicationVersion
  queue := body.queueName
  queuePartitionKey := body.queuePartitionKey

/-- The options of a `ListSchedulesRequest`. -/
def listSchedulesOptions (body : ListSchedulesRequestBody) :
    ListSchedulesOptions where
  statuses := listOption body.status
  workflowNames := listOption body.workflowName
  namePrefixes := listOption body.scheduleNamePrefix
  applicationNames := listOption body.applicationName

/-- The call `Dispatch` makes for a request, or the text it refuses it with. -/
def DataRequest.translate : DataRequest → Except String SDKCall
  | .getWorkflow req =>
      .ok (.listWorkflows
        { ListWorkflowsOptions.none with
          workflowIDs := some [req.workflowID]
          loadInput := some true
          loadOutput := some true })
  | .listWorkflows _ body => .ok (.listWorkflows (listWorkflowsOptions body))
  | .listSteps req =>
      .ok (.getWorkflowSteps req.workflowID req.loadOutput
        (positiveOption req.limit))
  | .cancelWorkflow req =>
      if req.workflowIDs ≠ [] then
        .ok (.cancelWorkflows req.workflowIDs req.cancelChildren)
      else if req.workflowID ≠ "" then
        .ok (.cancelWorkflow req.workflowID req.cancelChildren)
      else .error "missing workflow ID(s) in cancel request"
  | .resumeWorkflow req =>
      if req.workflowIDs ≠ [] then
        .ok (.resumeWorkflows req.workflowIDs req.queueName)
      else if req.workflowID ≠ "" then
        .ok (.resumeWorkflow req.workflowID req.queueName)
      else .error "missing workflow ID(s) in resume request"
  | .forkWorkflow body => .ok (.forkWorkflow (forkWorkflowInput body))
  | .rewindWorkflow body =>
      .ok (.rewindWorkflow body.workflowID (rewindWorkflowOptions body))
  | .deleteWorkflow req =>
      let ids :=
        if req.workflowIDs = [] ∧ req.workflowID ≠ "" then [req.workflowID]
        else req.workflowIDs
      if ids = [] then .error "missing workflow ID(s) in delete request"
      else .ok (.deleteWorkflows ids req.deleteChildren)
  | .listSchedules body =>
      .ok (.listSchedules (listSchedulesOptions body)
        (body.loadContext.getD true))
  | .getSchedule req =>
      .ok (.getSchedule req.scheduleName (req.loadContext.getD true))
  | .listQueues applicationName =>
      .ok (.listQueues (listOption applicationName))
  | .getQueue name => .ok (.retrieveQueue name)

/-! ## What a request asks for -/

/-- In a fork the empty string is an option which is not given. -/
def givenText (text : Option String) : Option String :=
  text.filter fun value => value ≠ ""

/-- An empty map of attributes is not sent. -/
def givenAttributes (attributes : Option AnyMap) : Option AnyMap :=
  attributes.filter fun value => value.keys ≠ ∅

/-- The request names a workflow. -/
def namesWorkflow (workflowID : String) (workflowIDs : List String) : Bool :=
  workflowIDs ≠ [] || workflowID ≠ ""

/--
The request with its defaults filled in, as an executor which honours the whole
message reads it, or `none` for one which names no workflow to act on.  A
schedule is loaded with its context and a workflow rewound to its first step
unless the request says otherwise.
-/
def DataRequest.canonical : DataRequest → Option DataRequest
  | .getWorkflow req => some (.getWorkflow req)
  | .listWorkflows queued body =>
      some (.listWorkflows queued
        { body with attributes := givenAttributes body.attributes })
  | .listSteps req => some (.listSteps req)
  | .cancelWorkflow req =>
      if namesWorkflow req.workflowID req.workflowIDs then
        some (.cancelWorkflow req)
      else none
  | .resumeWorkflow req =>
      if namesWorkflow req.workflowID req.workflowIDs then
        some (.resumeWorkflow req)
      else none
  | .forkWorkflow body =>
      some (.forkWorkflow
        { body with
          applicationVersion := givenText body.applicationVersion
          newWorkflowID := givenText body.newWorkflowID
          queueName := givenText body.queueName
          queuePartitionKey := givenText body.queuePartitionKey })
  | .rewindWorkflow body =>
      some (.rewindWorkflow
        { body with startStep := some (body.startStep.getD 0) })
  | .deleteWorkflow req =>
      if namesWorkflow req.workflowID req.workflowIDs then
        some (.deleteWorkflow req)
      else none
  | .listSchedules body =>
      some (.listSchedules
        { body with loadContext := some (body.loadContext.getD true) })
  | .getSchedule req =>
      some (.getSchedule
        { req with loadContext := some (req.loadContext.getD true) })
  | .listQueues applicationName => some (.listQueues applicationName)
  | .getQueue name => some (.getQueue name)

/-- The requests are of one type and name the same workflows, schedule or queue. -/
def SameTarget : DataRequest → DataRequest → Prop
  | .getWorkflow first, .getWorkflow second =>
      first.workflowID = second.workflowID
  | .listWorkflows first _, .listWorkflows second _ => first = second
  | .listSteps first, .listSteps second =>
      first.workflowID = second.workflowID
  | .cancelWorkflow first, .cancelWorkflow second =>
      first.workflowID = second.workflowID ∧
        first.workflowIDs = second.workflowIDs
  | .resumeWorkflow first, .resumeWorkflow second =>
      first.workflowID = second.workflowID ∧
        first.workflowIDs = second.workflowIDs
  | .forkWorkflow first, .forkWorkflow second =>
      first.workflowID = second.workflowID
  | .rewindWorkflow first, .rewindWorkflow second =>
      first.workflowID = second.workflowID
  | .deleteWorkflow first, .deleteWorkflow second =>
      first.workflowID = second.workflowID ∧
        first.workflowIDs = second.workflowIDs
  | .listSchedules _, .listSchedules _ => True
  | .getSchedule first, .getSchedule second =>
      first.scheduleName = second.scheduleName
  | .listQueues _, .listQueues _ => True
  | .getQueue first, .getQueue second => first = second
  | _, _ => False

/-- The calls differ exactly when the requests ask for different things. -/
def DistinguishedExactly (first second : DataRequest) : Prop :=
  first.translate = second.translate ↔ first.canonical = second.canonical

/-! ## The condition -/

/--
The requests differ in what is lost on the way.

* A single workflow: the load flags.
* A listing of steps: the offset, and limits which are not positive.
* A fork: the partition key, and negative start steps.
* A rewind: negative start steps.
* A listing of workflows distinguishes more than the message does: an empty map
  of attributes from none.
-/
def Lost : DataRequest → DataRequest → Prop
  | .getWorkflow first, .getWorkflow second =>
      first.loadInput ≠ second.loadInput ∨
        first.loadOutput ≠ second.loadOutput
  | .listWorkflows _ first, .listWorkflows _ second =>
      givenAttributes first.attributes = none ∧
        givenAttributes second.attributes = none ∧
          first.attributes ≠ second.attributes ∧
            { first with attributes := none } =
              { second with attributes := none }
  | .listSteps first, .listSteps second =>
      first.loadOutput = second.loadOutput ∧
        positiveOption first.limit = positiveOption second.limit ∧
          (first.limit ≠ second.limit ∨ first.offset ≠ second.offset)
  | .forkWorkflow first, .forkWorkflow second =>
      givenText first.applicationVersion =
          givenText second.applicationVersion ∧
        givenText first.newWorkflowID = givenText second.newWorkflowID ∧
          givenText first.queueName = givenText second.queueName ∧
            max first.startStep 0 = max second.startStep 0 ∧
              (first.startStep ≠ second.startStep ∨
                givenText first.queuePartitionKey ≠
                  givenText second.queuePartitionKey)
  | .rewindWorkflow first, .rewindWorkflow second =>
      first.applicationVersion = second.applicationVersion ∧
        first.queueName = second.queueName ∧
          first.queuePartitionKey = second.queuePartitionKey ∧
            first.startStep.getD 0 ≠ second.startStep.getD 0 ∧
              first.startStep.getD 0 ≤ 0 ∧ second.startStep.getD 0 ≤ 0
  | _, _ => False

/-! ## What the options keep -/

@[simp]
theorem listOption_inj {first second : List String} :
    listOption first = listOption second ↔ first = second := by
  cases first <;> cases second <;> simp [listOption]

@[simp]
theorem flagOption_inj {first second : Bool} :
    flagOption first = flagOption second ↔ first = second := by
  cases first <;> cases second <;> simp [flagOption]

/-- A string field of the SDK keeps a given text. -/
theorem getD_eq_iff {first second : Option String} :
    first.getD "" = second.getD "" ↔ givenText first = givenText second := by
  have reads : ∀ text : Option String,
      givenText text = if text.getD "" = "" then none else some (text.getD "") := by
    intro text
    cases text with
    | none => rfl
    | some value =>
        by_cases isEmpty : value = "" <;>
          simp [givenText, Option.filter, isEmpty]
  rw [reads, reads]
  constructor
  · intro same
    rw [same]
  · intro same
    split_ifs at same with firstEmpty secondEmpty secondEmpty
    · rw [firstEmpty, secondEmpty]
    · exact Option.some.inj same

theorem map_toNat_positiveOption_inj {first second : Option Int} :
    (positiveOption first).map Int.toNat =
        (positiveOption second).map Int.toNat ↔
      positiveOption first = positiveOption second := by
  constructor
  · intro same
    cases isFirst : positiveOption first with
    | none =>
        rw [isFirst] at same
        cases isSecond : positiveOption second with
        | none => rfl
        | some step =>
            rw [isSecond] at same
            cases same
    | some step =>
        rw [isFirst] at same
        cases isSecond : positiveOption second with
        | none =>
            rw [isSecond] at same
            cases same
        | some other =>
            rw [isSecond] at same
            have positive := (Option.filter_eq_some_iff.mp isFirst).2
            have otherPositive := (Option.filter_eq_some_iff.mp isSecond).2
            simp only [decide_eq_true_eq] at positive otherPositive
            have sameNat : step.toNat = other.toNat := Option.some.inj same
            congr 1
            omega
  · intro same
    rw [same]

/-- What is lost of the start step of a rewind. -/
theorem positiveOption_eq_iff {first second : Option Int} :
    positiveOption first = positiveOption second ↔
      first.getD 0 = second.getD 0 ∨
        first.getD 0 ≤ 0 ∧ second.getD 0 ≤ 0 := by
  have reads : ∀ step : Option Int, positiveOption step =
      if 0 < step.getD 0 then some (step.getD 0) else none := by
    intro step
    cases step with
    | none => rfl
    | some value =>
        by_cases positive : 0 < value <;>
          simp [positiveOption, Option.filter, positive]
  rw [reads, reads]
  split_ifs with firstPositive secondPositive secondPositive
  · simp only [Option.some.injEq]
    omega
  · simp only [false_iff]
    omega
  · simp only [false_iff]
    omega
  · simp only [true_iff]
    omega

theorem startStep_eq_iff {first second : Int} :
    (if 0 < first then first.toNat else 0) =
        (if 0 < second then second.toNat else 0) ↔
      max first 0 = max second 0 := by
  split_ifs <;> omega

/-- Every field of a listing becomes an option of its own. -/
theorem listWorkflowsOptions_inj {first second : ListWorkflowsRequestBody} :
    listWorkflowsOptions first = listWorkflowsOptions second ↔
      first = second := by
  simp only [listWorkflowsOptions, ListWorkflowsOptions.mk.injEq,
    listOption_inj, flagOption_inj, ListWorkflowsRequestBody.ext_iff]

theorem listSchedulesOptions_inj {first second : ListSchedulesRequestBody} :
    listSchedulesOptions first = listSchedulesOptions second ↔
      first.status = second.status ∧
        first.workflowName = second.workflowName ∧
          first.scheduleNamePrefix = second.scheduleNamePrefix ∧
            first.applicationName = second.applicationName := by
  simp only [listSchedulesOptions, ListSchedulesOptions.mk.injEq,
    listOption_inj]

theorem forkWorkflowInput_eq_iff {first second : ForkWorkflowRequestBody} :
    forkWorkflowInput first = forkWorkflowInput second ↔
      first.workflowID = second.workflowID ∧
        givenText first.newWorkflowID = givenText second.newWorkflowID ∧
          max first.startStep 0 = max second.startStep 0 ∧
            givenText first.applicationVersion =
                givenText second.applicationVersion ∧
              givenText first.queueName = givenText second.queueName := by
  simp only [forkWorkflowInput, ForkWorkflowInput.mk.injEq, getD_eq_iff,
    startStep_eq_iff]

theorem rewindWorkflowOptions_eq_iff
    {first second : RewindWorkflowRequestBody} :
    rewindWorkflowOptions first = rewindWorkflowOptions second ↔
      positiveOption first.startStep = positiveOption second.startStep ∧
        first.applicationVersion = second.applicationVersion ∧
          first.queueName = second.queueName ∧
            first.queuePartitionKey = second.queuePartitionKey := by
  simp only [rewindWorkflowOptions, RewindWorkflowOptions.mk.injEq,
    map_toNat_positiveOption_inj]

/-! ## Which requests are told apart -/

/-- A request of which nothing is lost. -/
theorem distinguishedExactly_of_iff {first second : DataRequest}
    (notLost : ¬Lost first second)
    (same : first.translate = second.translate ↔
      first.canonical = second.canonical) :
    DistinguishedExactly first second ↔ ¬Lost first second :=
  ⟨fun _ => notLost, fun _ => same⟩

theorem distinguishedExactly_getWorkflow
    {first second : GetWorkflowRequest}
    (target : first.workflowID = second.workflowID) :
    DistinguishedExactly (.getWorkflow first) (.getWorkflow second) ↔
      ¬Lost (.getWorkflow first) (.getWorkflow second) := by
  simp only [DistinguishedExactly, DataRequest.translate, target,
    DataRequest.canonical, Lost, Option.some.injEq,
    DataRequest.getWorkflow.injEq, GetWorkflowRequest.ext_iff, true_and,
    true_iff, not_or, not_not]

/-- A listing is its attributes and the rest. -/
theorem ListWorkflowsRequestBody.with_attributes_eq_iff
    {first second : ListWorkflowsRequestBody}
    {attributes other : Option AnyMap} :
    { first with attributes := attributes } =
        { second with attributes := other } ↔
      { first with attributes := none } =
          { second with attributes := none } ∧
        attributes = other := by
  constructor
  · intro same
    have rest := congrArg
      (fun body => ({ body with attributes := none } :
        ListWorkflowsRequestBody)) same
    exact ⟨rest, congrArg ListWorkflowsRequestBody.attributes same⟩
  · rintro ⟨rest, rfl⟩
    exact congrArg
      (fun body => ({ body with attributes := attributes } :
        ListWorkflowsRequestBody)) rest

/-- Given attributes are the attributes. -/
theorem eq_of_givenAttributes {first second : Option AnyMap}
    (same : givenAttributes first = givenAttributes second)
    (given : givenAttributes first ≠ none) : first = second := by
  obtain ⟨attributes, isGiven⟩ := Option.ne_none_iff_exists'.mp given
  rw [isGiven] at same
  rw [(Option.filter_eq_some_iff.mp isGiven).1,
    (Option.filter_eq_some_iff.mp same.symm).1]

theorem distinguishedExactly_listWorkflows {queued : Bool}
    {first second : ListWorkflowsRequestBody} :
    DistinguishedExactly (.listWorkflows queued first)
        (.listWorkflows queued second) ↔
      ¬Lost (.listWorkflows queued first) (.listWorkflows queued second) := by
  have whole : first = second ↔
      { first with attributes := none } =
          { second with attributes := none } ∧
        first.attributes = second.attributes :=
    ListWorkflowsRequestBody.with_attributes_eq_iff
  have canonical :
      { first with attributes := givenAttributes first.attributes } =
          { second with attributes := givenAttributes second.attributes } ↔
        { first with attributes := none } =
            { second with attributes := none } ∧
          givenAttributes first.attributes =
            givenAttributes second.attributes :=
    ListWorkflowsRequestBody.with_attributes_eq_iff
  have keeps : first.attributes = second.attributes →
      givenAttributes first.attributes = givenAttributes second.attributes :=
    fun same => congrArg givenAttributes same
  simp only [DistinguishedExactly, DataRequest.translate,
    DataRequest.canonical, Lost, Option.some.injEq, Except.ok.injEq,
    SDKCall.listWorkflows.injEq, listWorkflowsOptions_inj,
    DataRequest.listWorkflows.injEq, true_and]
  rw [whole, canonical]
  by_cases given : givenAttributes first.attributes = none
  · rw [given] at keeps ⊢
    grind
  · have recovers : givenAttributes first.attributes =
        givenAttributes second.attributes →
          first.attributes = second.attributes :=
      fun same => eq_of_givenAttributes same given
    grind

theorem distinguishedExactly_listSteps {first second : ListStepsRequest}
    (target : first.workflowID = second.workflowID) :
    DistinguishedExactly (.listSteps first) (.listSteps second) ↔
      ¬Lost (.listSteps first) (.listSteps second) := by
  have keeps : first.limit = second.limit →
      positiveOption first.limit = positiveOption second.limit :=
    fun same => congrArg positiveOption same
  simp only [DistinguishedExactly, DataRequest.translate, target,
    DataRequest.canonical, Lost, Option.some.injEq, Except.ok.injEq,
    SDKCall.getWorkflowSteps.injEq, DataRequest.listSteps.injEq,
    ListStepsRequest.ext_iff, true_and]
  grind

theorem distinguishedExactly_forkWorkflow
    {first second : ForkWorkflowRequestBody}
    (target : first.workflowID = second.workflowID) :
    DistinguishedExactly (.forkWorkflow first) (.forkWorkflow second) ↔
      ¬Lost (.forkWorkflow first) (.forkWorkflow second) := by
  have keeps : first.startStep = second.startStep →
      max first.startStep 0 = max second.startStep 0 :=
    fun same => congrArg (max · 0) same
  simp only [DistinguishedExactly, DataRequest.translate,
    DataRequest.canonical, Lost, Option.some.injEq, Except.ok.injEq,
    SDKCall.forkWorkflow.injEq, forkWorkflowInput_eq_iff, target,
    DataRequest.forkWorkflow.injEq, ForkWorkflowRequestBody.ext_iff, true_and]
  grind

theorem distinguishedExactly_rewindWorkflow
    {first second : RewindWorkflowRequestBody}
    (target : first.workflowID = second.workflowID) :
    DistinguishedExactly (.rewindWorkflow first) (.rewindWorkflow second) ↔
      ¬Lost (.rewindWorkflow first) (.rewindWorkflow second) := by
  simp only [DistinguishedExactly, DataRequest.translate,
    DataRequest.canonical, Lost, Option.some.injEq, Except.ok.injEq,
    SDKCall.rewindWorkflow.injEq, rewindWorkflowOptions_eq_iff, target,
    positiveOption_eq_iff, DataRequest.rewindWorkflow.injEq,
    RewindWorkflowRequestBody.ext_iff, true_and]
  grind

/-- Nothing is lost of a cancellation. -/
theorem translate_cancelWorkflow_eq_iff {first second : CancelWorkflowRequest}
    (sameID : first.workflowID = second.workflowID)
    (sameIDs : first.workflowIDs = second.workflowIDs) :
    (DataRequest.cancelWorkflow first).translate =
        (DataRequest.cancelWorkflow second).translate ↔
      (DataRequest.cancelWorkflow first).canonical =
        (DataRequest.cancelWorkflow second).canonical := by
  simp only [DataRequest.translate, DataRequest.canonical, namesWorkflow,
    sameID, sameIDs]
  by_cases many : second.workflowIDs = [] <;>
    by_cases one : second.workflowID = "" <;>
      simp [many, one, CancelWorkflowRequest.ext_iff, sameID, sameIDs]

/-- Nothing is lost of a resumption. -/
theorem translate_resumeWorkflow_eq_iff {first second : ResumeWorkflowRequest}
    (sameID : first.workflowID = second.workflowID)
    (sameIDs : first.workflowIDs = second.workflowIDs) :
    (DataRequest.resumeWorkflow first).translate =
        (DataRequest.resumeWorkflow second).translate ↔
      (DataRequest.resumeWorkflow first).canonical =
        (DataRequest.resumeWorkflow second).canonical := by
  simp only [DataRequest.translate, DataRequest.canonical, namesWorkflow,
    sameID, sameIDs]
  by_cases many : second.workflowIDs = [] <;>
    by_cases one : second.workflowID = "" <;>
      simp [many, one, ResumeWorkflowRequest.ext_iff, sameID, sameIDs]

/-- Nothing is lost of a deletion. -/
theorem translate_deleteWorkflow_eq_iff {first second : DeleteWorkflowRequest}
    (sameID : first.workflowID = second.workflowID)
    (sameIDs : first.workflowIDs = second.workflowIDs) :
    (DataRequest.deleteWorkflow first).translate =
        (DataRequest.deleteWorkflow second).translate ↔
      (DataRequest.deleteWorkflow first).canonical =
        (DataRequest.deleteWorkflow second).canonical := by
  simp only [DataRequest.translate, DataRequest.canonical, namesWorkflow,
    sameID, sameIDs]
  by_cases many : second.workflowIDs = [] <;>
    by_cases one : second.workflowID = "" <;>
      simp [many, one, DeleteWorkflowRequest.ext_iff, sameID, sameIDs]

/--
Two requests of one type and target become the same call of the SDK exactly
when they ask an executor for the same, unless they differ in what is lost on
the way.
-/
theorem distinguishedExactly_iff (first second : DataRequest)
    (target : SameTarget first second) :
    DistinguishedExactly first second ↔ ¬Lost first second := by
  cases first with
  | getWorkflow first =>
      cases second with
      | getWorkflow second => exact distinguishedExactly_getWorkflow target
      | _ => cases target
  | listWorkflows queued first =>
      cases second with
      | listWorkflows other second =>
          cases target
          exact distinguishedExactly_listWorkflows
      | _ => cases target
  | listSteps first =>
      cases second with
      | listSteps second => exact distinguishedExactly_listSteps target
      | _ => cases target
  | cancelWorkflow first =>
      cases second with
      | cancelWorkflow second =>
          exact distinguishedExactly_of_iff nofun
            (translate_cancelWorkflow_eq_iff target.1 target.2)
      | _ => cases target
  | resumeWorkflow first =>
      cases second with
      | resumeWorkflow second =>
          exact distinguishedExactly_of_iff nofun
            (translate_resumeWorkflow_eq_iff target.1 target.2)
      | _ => cases target
  | forkWorkflow first =>
      cases second with
      | forkWorkflow second => exact distinguishedExactly_forkWorkflow target
      | _ => cases target
  | rewindWorkflow first =>
      cases second with
      | rewindWorkflow second =>
          exact distinguishedExactly_rewindWorkflow target
      | _ => cases target
  | deleteWorkflow first =>
      cases second with
      | deleteWorkflow second =>
          exact distinguishedExactly_of_iff nofun
            (translate_deleteWorkflow_eq_iff target.1 target.2)
      | _ => cases target
  | listSchedules first =>
      cases second with
      | listSchedules second =>
          refine distinguishedExactly_of_iff nofun ?_
          simp only [DataRequest.translate, DataRequest.canonical,
            Option.some.injEq, Except.ok.injEq, SDKCall.listSchedules.injEq,
            listSchedulesOptions_inj, DataRequest.listSchedules.injEq,
            ListSchedulesRequestBody.ext_iff, and_assoc]
      | _ => cases target
  | getSchedule first =>
      cases second with
      | getSchedule second =>
          refine distinguishedExactly_of_iff nofun ?_
          simp only [DataRequest.translate, DataRequest.canonical,
            Option.some.injEq, Except.ok.injEq, SDKCall.getSchedule.injEq,
            DataRequest.getSchedule.injEq, GetScheduleRequest.ext_iff]
      | _ => cases target
  | listQueues first =>
      cases second with
      | listQueues second =>
          refine distinguishedExactly_of_iff nofun ?_
          simp only [DataRequest.translate, DataRequest.canonical,
            Option.some.injEq, Except.ok.injEq, SDKCall.listQueues.injEq,
            listOption_inj, DataRequest.listQueues.injEq]
      | _ => cases target
  | getQueue first =>
      cases second with
      | getQueue second =>
          refine distinguishedExactly_of_iff nofun ?_
          simp only [DataRequest.translate, DataRequest.canonical,
            Option.some.injEq, Except.ok.injEq, SDKCall.retrieveQueue.injEq,
            DataRequest.getQueue.injEq]
      | _ => cases target

/-- A page of the steps of one workflow. -/
def stepsPage (limit offset : Option Int) : DataRequest :=
  .listSteps
    { workflowID := "order-17"
      loadOutput := true
      limit := limit
      offset := offset }

theorem stepsPage_limits_distinguished :
    SameTarget (stepsPage (some 5) none) (stepsPage (some 10) none) ∧
      DistinguishedExactly (stepsPage (some 5) none)
        (stepsPage (some 10) none) := by
  have target : SameTarget (stepsPage (some 5) none)
      (stepsPage (some 10) none) := rfl
  refine ⟨target, (distinguishedExactly_iff _ _ target).mpr ?_⟩
  rintro ⟨-, sameLimit, -⟩
  exact absurd sameLimit (by decide)

/-- The first page of the steps and the third are the same call. -/
theorem stepsPage_offsets_confused :
    ¬∀ first second, SameTarget first second →
      DistinguishedExactly first second := by
  intro always
  have told := always (stepsPage (some 50) none)
    (stepsPage (some 50) (some 100)) rfl
  have same := told.mp rfl
  rw [stepsPage, stepsPage] at same
  cases same

/-! ## The client makes these calls -/

/-- The request as the client's switch sees it. -/
def DataRequest.body : DataRequest → RequestBody
  | .getWorkflow req => .getWorkflow req.workflowID
  | .listWorkflows queued _ => .listWorkflows queued
  | .listSteps req => .listSteps req.workflowID
  | .cancelWorkflow req =>
      .cancel req.workflowID req.workflowIDs req.cancelChildren
  | .resumeWorkflow req =>
      .resume req.workflowID req.workflowIDs req.queueName
  | .forkWorkflow body =>
      .forkWorkflow body.workflowID body.startStep body.newWorkflowID
  | .rewindWorkflow body => .rewindWorkflow body.workflowID body.startStep
  | .deleteWorkflow req =>
      .delete req.workflowID req.workflowIDs req.deleteChildren
  | .listSchedules _ => .listSchedules
  | .getSchedule req => .getSchedule req.scheduleName
  | .listQueues _ => .listQueues
  | .getQueue name => .getQueue name

/-- The call without the options the switch does not decide on. -/
def SDKCall.Refines : SDKCall → DatabaseCall → Prop
  | .listWorkflows _, call => call = .listWorkflows
  | .getWorkflowSteps workflowID _ _, call =>
      call = .getWorkflowSteps workflowID
  | .cancelWorkflows workflowIDs cancelChildren, call =>
      call = .cancelWorkflows workflowIDs cancelChildren
  | .cancelWorkflow workflowID cancelChildren, call =>
      call = .cancelWorkflow workflowID cancelChildren
  | .resumeWorkflows workflowIDs queue, call =>
      call = .resumeWorkflows workflowIDs queue
  | .resumeWorkflow workflowID queue, call =>
      call = .resumeWorkflow workflowID queue
  | .forkWorkflow input, call =>
      ∃ newWorkflowID : Option String,
        newWorkflowID.getD "" = input.forkedWorkflowID ∧
          call = .forkWorkflow input.originalWorkflowID input.startStep
            newWorkflowID
  | .rewindWorkflow workflowID options, call =>
      call = .rewindWorkflow workflowID options.startStep
  | .deleteWorkflows workflowIDs deleteChildren, call =>
      call = .deleteWorkflows workflowIDs deleteChildren
  | .listSchedules _ _, call => call = .listSchedules
  | .getSchedule scheduleName _, call => call = .getSchedule scheduleName
  | .listQueues _, call => call = .listQueues
  | .retrieveQueue name, call => call = .retrieveQueue name

/-- The case of the switch makes the translated call, or refuses as it does. -/
def Performs (parse : ParseTime) (session : Session) (req : DataRequest) :
    Prop :=
  match req.translate with
  | .error text => req.body.execute parse session = some (session.fail text)
  | .ok sdkCall =>
      ∃ databaseCall failure next, sdkCall.Refines databaseCall ∧
        req.body.execute parse session =
          some (session.try databaseCall failure next)

theorem performs (parse : ParseTime) (session : Session)
    (req : DataRequest) : Performs parse session req := by
  cases req with
  | getWorkflow req => exact ⟨_, _, _, rfl, rfl⟩
  | listWorkflows queued body => exact ⟨_, _, _, rfl, rfl⟩
  | listSteps req => exact ⟨_, _, _, rfl, rfl⟩
  | cancelWorkflow req | resumeWorkflow req =>
      by_cases many : req.workflowIDs = []
      · by_cases one : req.workflowID = ""
        · simp [Performs, DataRequest.translate, DataRequest.body,
            RequestBody.execute, many, one]
        · simp only [Performs, DataRequest.translate, DataRequest.body,
            RequestBody.execute, many, ne_eq, not_true_eq_false, if_false,
            one, not_false_eq_true, if_true]
          exact ⟨_, _, _, rfl, rfl⟩
      · simp only [Performs, DataRequest.translate, DataRequest.body,
          RequestBody.execute, many, ne_eq, not_false_eq_true, if_true]
        exact ⟨_, _, _, rfl, rfl⟩
  | forkWorkflow body =>
      have clamped : (forkWorkflowInput body).startStep =
          body.startStep.toNat := by
        show (if 0 < body.startStep then body.startStep.toNat else 0) = _
        split_ifs
        · rfl
        · omega
      refine ⟨_, _, _, ⟨body.newWorkflowID, rfl, ?_⟩, rfl⟩
      rw [clamped]
      rfl
  | rewindWorkflow body => exact ⟨_, _, _, rfl, rfl⟩
  | deleteWorkflow req =>
      simp only [Performs, DataRequest.translate, DataRequest.body,
        RequestBody.execute]
      generalize (if req.workflowIDs = [] ∧ req.workflowID ≠ "" then _
        else _) = ids
      by_cases none : ids = []
      · simp [none]
      · simp only [none, if_false]
        exact ⟨_, _, _, rfl, rfl⟩
  | listSchedules body => exact ⟨_, _, _, rfl, rfl⟩
  | getSchedule req => exact ⟨_, _, _, rfl, rfl⟩
  | listQueues applicationName => exact ⟨_, _, _, rfl, rfl⟩
  | getQueue name => exact ⟨_, _, _, rfl, rfl⟩

end DbosRelay.DataPlane
