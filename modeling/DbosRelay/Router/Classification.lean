import DbosRelay.Library.Searching
import DbosRelay.Router.DirectMode
import Mathlib.Data.Option.Defs

/-!
# Classifying the failures of the data plane

`isDataPlaneNotFound` and `dataPlaneFailure` of `internal/router/router.go` tell
a missing record and a timeout by words in the text of an error.  The client has
put the identifiers of the request into that text, so an identifier with these
words in it decides how the request is answered.  Two requests which differ in
their identifiers only are answered alike, whatever happens to both, exactly if
their identifiers agree on the words which matter.
-/

namespace DbosRelay.Router

open DbosRelay.Basic
open DbosRelay.DataPlane
open DbosRelay.Hub
open DbosRelay.Library.Searching
open DbosRelay.Protocol

/-! ## Words in a text -/

/-- The search of a text for words, whatever their case. -/
def mentions (part text : String) : Bool := occursIn (toLower text) part

/-- The text neither has the words nor ends as they begin. -/
def Plain (part text : String) : Prop :=
  Guarded part.toList (toLower text) ∧ ¬part.toList <:+: toLower text

instance (part text : String) : Decidable (Plain part text) :=
  inferInstanceAs (Decidable (_ ∧ _))

/-- The words the router searches for. -/
def searchedWords : List String := ["not found", "timed out"]

theorem mentions_iff {part text : String} :
    mentions part text = true ↔ part.toList <:+: toLower text := by
  unfold mentions occursIn
  simp only [List.any_eq_true, List.mem_tails, List.isPrefixOf_iff_prefix,
    List.infix_iff_prefix_suffix]
  exact ⟨fun ⟨rest, suffix, starts⟩ => ⟨rest, starts, suffix⟩,
    fun ⟨rest, starts, suffix⟩ => ⟨rest, suffix, starts⟩⟩

theorem toLower_append (first second : String) :
    toLower (first ++ second) = toLower first ++ toLower second := by
  simp [toLower]

/-- In a wrapped error the words are the identifier's or the cause's. -/
theorem mentions_wrap {part before id : String} {cause : GoError}
    (searched : part ∈ searchedWords) (plain : Plain part before) :
    mentions part (cause.wrap (before ++ id)).text =
      (mentions part id || mentions part cause.text) := by
  have separators : ':' ∉ part.toList ∧ part.toList ≠ [] ∧
      ∀ rest, ¬part.toList <+: ' ' :: rest := by
    simp only [searchedWords, List.mem_cons, List.not_mem_nil, or_false]
      at searched
    rcases searched with rfl | rfl
    · exact ⟨by decide, by decide, fun rest starts => by
        cases (List.cons_prefix_cons.mp starts).1⟩
    · exact ⟨by decide, by decide, fun rest starts => by
        cases (List.cons_prefix_cons.mp starts).1⟩
  obtain ⟨noColon, nonempty, noSpace⟩ := separators
  have text : toLower (cause.wrap (before ++ id)).text =
      toLower before ++ (toLower id ++ ':' :: ' ' :: toLower cause.text) := by
    show toLower (before ++ id ++ ": " ++ cause.text) = _
    rw [toLower_append, toLower_append, toLower_append, List.append_assoc,
      List.append_assoc]
    rfl
  rw [Bool.eq_iff_iff, Bool.or_eq_true, mentions_iff, mentions_iff,
    mentions_iff, text,
    infix_append_iff_of_guarded plain.1,
    infix_append_cons_iff noColon nonempty, List.infix_cons_iff,
    or_iff_right plain.2, or_iff_right (noSpace _)]

/-- The text of a missing workflow has the words, whatever the identifier. -/
theorem mentions_missing (id : String) :
    mentions "not found" ("workflow " ++ id ++ " not found") = true := by
  rw [mentions_iff, toLower_append]
  exact List.IsSuffix.isInfix
    ((by decide : "not found".toList <:+ toLower " not found").trans
      (List.suffix_append _ _))

/-! ## Quoted identifiers -/

/-- The identifier a failed call is reported with, after words of the client. -/
def quotation : RequestBody → Option (String × String)
  | .getWorkflow workflowID => some ("failed to retrieve workflow ", workflowID)
  | .listSteps workflowID =>
      some ("failed to get workflow steps for ", workflowID)
  | .cancel workflowID workflowIDs _ =>
      if workflowIDs = [] ∧ workflowID ≠ "" then
        some ("failed to cancel workflow ", workflowID)
      else none
  | .resume workflowID workflowIDs _ =>
      if workflowIDs = [] ∧ workflowID ≠ "" then
        some ("failed to resume workflow ", workflowID)
      else none
  | .forkWorkflow workflowID _ _ =>
      some ("failed to fork workflow ", workflowID)
  | .rewindWorkflow workflowID _ =>
      some ("failed to rewind workflow ", workflowID)
  | .existPendingWorkflows executorID =>
      some ("failed to check pending workflows for executor ", executorID)
  | .getSchedule scheduleName => some ("failed to get schedule ", scheduleName)
  | .pauseSchedule scheduleName =>
      some ("failed to pause schedule ", scheduleName)
  | .resumeSchedule scheduleName =>
      some ("failed to resume schedule ", scheduleName)
  | .backfillSchedule scheduleName _ _ =>
      some ("failed to backfill schedule ", scheduleName)
  | .triggerSchedule scheduleName =>
      some ("failed to trigger schedule ", scheduleName)
  | .setLatestApplicationVersion versionName =>
      some ("failed to set latest application version ", versionName)
  | .getQueue name => some ("failed to get queue ", name)
  | _ => none

/-- The identifier alone; nothing, if none is quoted. -/
def quoted (body : RequestBody) : String :=
  ((quotation body).map Prod.snd).getD ""

/-- The texts before a quoted identifier. -/
def quotingTexts : List String :=
  ["failed to retrieve workflow ", "failed to get workflow steps for ",
    "failed to cancel workflow ", "failed to resume workflow ",
    "failed to fork workflow ", "failed to rewind workflow ",
    "failed to check pending workflows for executor ",
    "failed to get schedule ", "failed to pause schedule ",
    "failed to resume schedule ", "failed to backfill schedule ",
    "failed to trigger schedule ",
    "failed to set latest application version ", "failed to get queue "]

/-- The words are not the client's. -/
theorem plain_quotingTexts : ∀ text ∈ quotingTexts, ∀ part ∈ searchedWords,
    Plain part text := by
  decide +kernel

/-- Several workflows are not named in the error; one is. -/
theorem eq_of_quotation_single {workflowID words before id : String}
    {workflowIDs : List String}
    (quotes : (if workflowIDs = [] ∧ workflowID ≠ "" then
      some (words, workflowID) else none) = some (before, id)) :
    workflowIDs = [] ∧ workflowID ≠ "" ∧ before = words ∧ id = workflowID := by
  split_ifs at quotes with single
  cases quotes
  exact ⟨single.1, single.2, rfl, rfl⟩

theorem plain_quotation {body : RequestBody} {before id part : String}
    (quotes : quotation body = some (before, id))
    (searched : part ∈ searchedWords) : Plain part before := by
  have listed : before ∈ quotingTexts := by
    cases body with
    | cancel workflowID workflowIDs cancelChildren =>
        obtain ⟨-, -, rfl, -⟩ := eq_of_quotation_single quotes
        decide
    | resume workflowID workflowIDs queueName =>
        obtain ⟨-, -, rfl, -⟩ := eq_of_quotation_single quotes
        decide
    | _ => first | (cases quotes; decide) | cases quotes
  exact plain_quotingTexts before listed part searched

/--
Two requests of one kind: they differ in identifiers, and lack or have the same
ones.
-/
inductive SameKind : RequestBody → RequestBody → Prop where
  | same (body : RequestBody) : SameKind body body
  | recovery (executorIDs executorIDs' : List String) :
      SameKind (.recovery executorIDs) (.recovery executorIDs')
  | cancel {workflowID workflowID' : String}
      {workflowIDs workflowIDs' : List String} (cancelChildren : Bool)
      (named : workflowID = "" ↔ workflowID' = "")
      (listed : workflowIDs = [] ↔ workflowIDs' = []) :
      SameKind (.cancel workflowID workflowIDs cancelChildren)
        (.cancel workflowID' workflowIDs' cancelChildren)
  | resume {workflowID workflowID' : String}
      {workflowIDs workflowIDs' : List String}
      (queueName queueName' : Option String)
      (named : workflowID = "" ↔ workflowID' = "")
      (listed : workflowIDs = [] ↔ workflowIDs' = []) :
      SameKind (.resume workflowID workflowIDs queueName)
        (.resume workflowID' workflowIDs' queueName')
  | listSteps (workflowID workflowID' : String) :
      SameKind (.listSteps workflowID) (.listSteps workflowID')
  | getWorkflow (workflowID workflowID' : String) :
      SameKind (.getWorkflow workflowID) (.getWorkflow workflowID')
  | forkWorkflow (workflowID workflowID' : String) (startStep : Int)
      (newWorkflowID newWorkflowID' : Option String) :
      SameKind (.forkWorkflow workflowID startStep newWorkflowID)
        (.forkWorkflow workflowID' startStep newWorkflowID')
  | rewindWorkflow (workflowID workflowID' : String)
      (startStep : Option Int) :
      SameKind (.rewindWorkflow workflowID startStep)
        (.rewindWorkflow workflowID' startStep)
  | existPendingWorkflows (executorID executorID' : String) :
      SameKind (.existPendingWorkflows executorID)
        (.existPendingWorkflows executorID')
  | delete {workflowID workflowID' : String}
      {workflowIDs workflowIDs' : List String} (deleteChildren : Bool)
      (named : workflowID = "" ↔ workflowID' = "")
      (listed : workflowIDs = [] ↔ workflowIDs' = []) :
      SameKind (.delete workflowID workflowIDs deleteChildren)
        (.delete workflowID' workflowIDs' deleteChildren)
  | getSchedule (scheduleName scheduleName' : String) :
      SameKind (.getSchedule scheduleName) (.getSchedule scheduleName')
  | pauseSchedule (scheduleName scheduleName' : String) :
      SameKind (.pauseSchedule scheduleName) (.pauseSchedule scheduleName')
  | resumeSchedule (scheduleName scheduleName' : String) :
      SameKind (.resumeSchedule scheduleName) (.resumeSchedule scheduleName')
  | backfillSchedule (scheduleName scheduleName' start finish : String) :
      SameKind (.backfillSchedule scheduleName start finish)
        (.backfillSchedule scheduleName' start finish)
  | triggerSchedule (scheduleName scheduleName' : String) :
      SameKind (.triggerSchedule scheduleName)
        (.triggerSchedule scheduleName')
  | setLatestApplicationVersion (versionName versionName' : String) :
      SameKind (.setLatestApplicationVersion versionName)
        (.setLatestApplicationVersion versionName')
  | getQueue (name name' : String) :
      SameKind (.getQueue name) (.getQueue name')

theorem SameKind.messageType {body body' : RequestBody}
    (kind : SameKind body body') : body.messageType = body'.messageType := by
  cases kind <;> rfl

/-! ## The client -/

/-- What becomes of two such requests: the same, but for a quoted identifier. -/
inductive QuotesAlike (messageType : MessageType) (id id' : String) :
    Except GoError Unit → Except GoError Unit → Prop where
  | same (result : Except GoError Unit) :
      QuotesAlike messageType id id' result result
  | failed {before : String} (cause : GoError)
      (plain : ∀ part ∈ searchedWords, Plain part before) :
      QuotesAlike messageType id id' (.error (cause.wrap (before ++ id)))
        (.error (cause.wrap (before ++ id')))
  | missing (lookup : messageType = .getWorkflow) :
      QuotesAlike messageType id id'
        (.error (.new ("workflow " ++ id ++ " not found")))
        (.error (.new ("workflow " ++ id' ++ " not found")))

section Client

variable {answers : List (Except GoError Answer)}
variable {calls calls' : List DatabaseCall}
variable {messageType : MessageType}

/-- One call, and a failure which quotes an identifier. -/
theorem quotesAlike_try {before id id' : String}
    (plain : ∀ part ∈ searchedWords, Plain part before)
    (databaseCall databaseCall' : DatabaseCall) :
    QuotesAlike messageType id id'
      (Session.try ⟨answers, calls⟩ databaseCall (before ++ id) succeed).1
      (Session.try ⟨answers, calls'⟩ databaseCall' (before ++ id')
        succeed).1 := by
  cases answers with
  | nil => exact .failed (contextError true) plain
  | cons answer answers =>
      cases answer with
      | error cause => exact .failed cause plain
      | ok answer => exact .same _

/-- One call, and a failure which quotes none. -/
theorem quotesAlike_try_same (id id' failure : String)
    (databaseCall databaseCall' : DatabaseCall) :
    QuotesAlike messageType id id'
      (Session.try ⟨answers, calls⟩ databaseCall failure succeed).1
      (Session.try ⟨answers, calls'⟩ databaseCall' failure succeed).1 := by
  cases answers with
  | nil => exact .same _
  | cons answer answers =>
      cases answer with
      | error cause => exact .same _
      | ok answer => exact .same _

/-- Several identifiers go before a single one, and are not quoted. -/
theorem quotesAlike_oneOrSeveral {before failure missing id id' : String}
    {ids ids' : List String}
    (plain : ∀ part ∈ searchedWords, Plain part before)
    (named : id = "" ↔ id' = "") (listed : ids = [] ↔ ids' = [])
    (several several' one one' : DatabaseCall) :
    QuotesAlike messageType
      (((if ids = [] ∧ id ≠ "" then some (before, id) else none).map
        Prod.snd).getD "")
      (((if ids' = [] ∧ id' ≠ "" then some (before, id') else none).map
        Prod.snd).getD "")
      (if ids ≠ [] then Session.try ⟨answers, []⟩ several failure succeed
        else if id ≠ "" then
          Session.try ⟨answers, []⟩ one (before ++ id) succeed
        else Session.fail ⟨answers, []⟩ missing).1
      (if ids' ≠ [] then Session.try ⟨answers, []⟩ several' failure succeed
        else if id' ≠ "" then
          Session.try ⟨answers, []⟩ one' (before ++ id') succeed
        else Session.fail ⟨answers, []⟩ missing).1 := by
  by_cases none : ids = []
  · have none' : ids' = [] := listed.mp none
    by_cases unnamed : id = ""
    · have unnamed' : id' = "" := named.mp unnamed
      subst none none' unnamed unnamed'
      exact .same _
    · have named' : id' ≠ "" := fun unnamed' => unnamed (named.mpr unnamed')
      subst none none'
      simp only [ne_eq, not_true_eq_false, if_false, unnamed, named',
        not_false_eq_true, if_true, and_self, Option.map_some,
        Option.getD_some]
      exact quotesAlike_try plain _ _
  · have some' : ids' ≠ [] := fun none' => none (listed.mpr none')
    simp only [if_pos some', if_pos (show ids ≠ [] from none)]
    exact quotesAlike_try_same _ _ _ _ _

/-- The identifier of a lookup is quoted when its row is missing, too. -/
theorem quotesAlike_getWorkflow (parse : ParseTime)
    (workflowID workflowID' : String) :
    Option.Rel (fun outcome outcome' : Outcome =>
        QuotesAlike .getWorkflow workflowID workflowID' outcome.1 outcome'.1)
      (RequestBody.execute parse ⟨answers, []⟩ (.getWorkflow workflowID))
      (RequestBody.execute parse ⟨answers, []⟩ (.getWorkflow workflowID')) := by
  have plain : ∀ part ∈ searchedWords,
      Plain part "failed to retrieve workflow " :=
    plain_quotingTexts _ (by decide)
  apply Option.Rel.some
  cases answers with
  | nil => exact .failed (contextError true) plain
  | cons answer answers =>
      cases answer with
      | error cause => exact .failed cause plain
      | ok answer =>
          simp only [Session.try, Session.call]
          split
          · exact .missing rfl
          · exact .same _

/-- A backfill parses its times before it names the schedule. -/
theorem quotesAlike_backfillSchedule (parse : ParseTime)
    (scheduleName scheduleName' start finish : String) :
    Option.Rel (fun outcome outcome' : Outcome =>
        QuotesAlike .backfillSchedule scheduleName scheduleName' outcome.1
          outcome'.1)
      (RequestBody.execute parse ⟨answers, []⟩
        (.backfillSchedule scheduleName start finish))
      (RequestBody.execute parse ⟨answers, []⟩
        (.backfillSchedule scheduleName' start finish)) := by
  apply Option.Rel.some
  unfold Session.withTime
  cases parse start with
  | error cause => exact .same _
  | ok startTime =>
      cases parse finish with
      | error cause => exact .same _
      | ok finishTime =>
          exact quotesAlike_try (plain_quotingTexts _ (by decide)) _ _

/-- The client's switch. -/
theorem quotesAlike_execute {body body' : RequestBody}
    (kind : SameKind body body') (parse : ParseTime) :
    Option.Rel (fun outcome outcome' : Outcome =>
        QuotesAlike body.messageType (quoted body) (quoted body') outcome.1
          outcome'.1)
      (body.execute parse ⟨answers, []⟩)
      (body'.execute parse ⟨answers, []⟩) := by
  cases kind with
  | same body =>
      cases body.execute parse ⟨answers, []⟩ with
      | none => exact .none
      | some outcome => exact .some (.same _)
  | recovery executorIDs executorIDs' => exact .none
  | cancel cancelChildren named listed =>
      exact .some (quotesAlike_oneOrSeveral (plain_quotingTexts _ (by decide))
        named listed _ _ _ _)
  | resume queueName queueName' named listed =>
      exact .some (quotesAlike_oneOrSeveral (plain_quotingTexts _ (by decide))
        named listed _ _ _ _)
  | @delete id id' ids ids' deleteChildren named listed =>
      apply Option.Rel.some
      have missing : (if ids = [] ∧ id ≠ "" then [id] else ids) = [] ↔
          (if ids' = [] ∧ id' ≠ "" then [id'] else ids') = [] := by
        by_cases several : ids = []
        · have several' := listed.mp several
          by_cases one : id = "" <;> simp_all
        · have several' := several ∘ listed.mpr
          simp_all
      by_cases none : (if ids = [] ∧ id ≠ "" then [id] else ids) = []
      · simp only [if_pos none, if_pos (missing.mp none)]
        exact .same _
      · simp only [if_neg none, if_neg (none ∘ missing.mpr)]
        exact quotesAlike_try_same _ _ _ _ _
  | getWorkflow id id' => exact quotesAlike_getWorkflow parse id id'
  | backfillSchedule id id' start finish =>
      exact quotesAlike_backfillSchedule parse id id' start finish
  | _ =>
      exact .some (quotesAlike_try (plain_quotingTexts _ (by decide)) _ _)

end Client

/-! ## The router -/

/--
`DefaultRouter.Dispatch` of a decoded request.  The data plane is asked before
the executors or after them, and its surroundings need not be the same.
-/
def dispatchWith (world : RouterWorld) (first fallback : DataPlaneWorld)
    (orgName appName : String) (req : Request) : RouterDispatched :=
  match resolveApplication world.store orgName appName with
  | .error error => ⟨.error error, none, []⟩
  | .ok appID =>
      let world :=
        { world with
          dataPlane := first.configured appID
          databaseFirst := (first.dispatch appID req).1
          databaseFallback := (fallback.dispatch appID req).1 }
      world.dispatchTo appID req.message

/-- What the router answers with, apart from its texts and contents. -/
inductive Classification where
  | served (servedFrom : ServedFrom)
  | missing
  | failed (sentinel : Sentinel)
  | passed
deriving DecidableEq, Repr

/-- The classification of an answer; nobody has served an empty response. -/
def RouterDispatched.classification (dispatched : RouterDispatched) :
    Classification :=
  match dispatched.result, dispatched.servedFrom with
  | .ok _, some servedFrom => .served servedFrom
  | .ok _, none => .missing
  | .error (.wrapped sentinel _), _ => .failed sentinel
  | .error (.passed _), _ => .passed

/-- The types whose missing records are answered with an empty response. -/
def isLookup (messageType : MessageType) : Bool :=
  messageType = .getWorkflow || messageType = .getSchedule ||
    messageType = .getQueue

/-- How a failure of the data plane is classified. -/
def failureClass (msg : Message) (error : DataPlaneError) : Classification :=
  RouterDispatched.classification ⟨dataPlaneFailure msg error, none, []⟩

theorem failureClass_failed (msg : Message) (error : GoError)
    (mayHaveApplied : Bool) :
    failureClass msg (.failed error mayHaveApplied) =
      if mentions "not found" error.text ∧ isLookup msg.messageType then
        .missing
      else if error.deadlineExceeded ∨ mentions "timed out" error.text then
        .failed .executorTimeout
      else .failed .dataPlaneUnavailable := by
  have lookup : isLookup msg.messageType ↔
      msg.messageType = .getWorkflow ∨ msg.messageType = .getSchedule ∨
        msg.messageType = .getQueue := by
    simp only [isLookup, Bool.or_eq_true, decide_eq_true_eq, or_assoc]
  have notFound : isDataPlaneNotFound (.failed error mayHaveApplied) =
      mentions "not found" error.text := rfl
  have timedOut : occursIn (toLower error.text) "timed out" =
      mentions "timed out" error.text := rfl
  simp only [failureClass, dataPlaneFailure, notFound, timedOut, lookup]
  split_ifs <;> rfl

/-- Two answers of the data plane which are classified alike. -/
inductive TreatedAlike (msg : Message) :
    DataPlaneOutcome → DataPlaneOutcome → Prop where
  | served (response response' : Message) :
      TreatedAlike msg (.ok response) (.ok response')
  | readOnlyMode (text : String) :
      TreatedAlike msg (.error (.readOnlyMode text))
        (.error (.readOnlyMode text))
  | unsupportedOperation (text : String) :
      TreatedAlike msg (.error (.unsupportedOperation text))
        (.error (.unsupportedOperation text))
  | failed {error error' : GoError} {mayHaveApplied mayHaveApplied' : Bool}
      (final : isMutating msg.messageType = true ∨
        mentions "not found" error.text = mentions "not found" error'.text)
      (classes : failureClass msg (.failed error mayHaveApplied) =
        failureClass msg (.failed error' mayHaveApplied')) :
      TreatedAlike msg (.error (.failed error mayHaveApplied))
        (.error (.failed error' mayHaveApplied'))

section Router

variable {world : RouterWorld} {msg : Message} {appID : UUID}
variable {first first' fallback fallback' : DataPlaneOutcome}

/-- The world with other answers of the data plane. -/
def RouterWorld.answered (world : RouterWorld)
    (first fallback : DataPlaneOutcome) : RouterWorld :=
  { world with databaseFirst := first, databaseFallback := fallback }

theorem RouterWorld.integration_answered :
    (world.answered first fallback).integration = world.integration :=
  rfl

theorem RouterWorld.dataPlane_answered :
    (world.answered first fallback).dataPlane = world.dataPlane :=
  rfl

theorem RouterWorld.databaseFirst_answered :
    (world.answered first fallback).databaseFirst = first :=
  rfl

/-- An error kept from Direct mode is classified when nobody else answers. -/
theorem classification_withoutExecutor
    (alike : TreatedAlike msg fallback fallback') (err : GoError)
    {directErr directErr' : Option DataPlaneError}
    (kept : Option.Rel
      (fun error error' => Router.failureClass msg error =
        Router.failureClass msg error') directErr directErr') :
    ((world.answered first fallback).withoutExecutor msg err
        directErr).classification =
      ((world.answered first' fallback').withoutExecutor msg err
        directErr').classification := by
  cases kept with
  | some classes => exact classes
  | none =>
      rw [RouterWorld.withoutExecutor, RouterWorld.withoutExecutor,
        RouterWorld.integration_answered, RouterWorld.integration_answered,
        RouterWorld.dataPlane_answered, RouterWorld.dataPlane_answered]
      by_cases falls : world.integration = .hybrid ∧ world.dataPlane.isSome
      · rw [if_pos falls, if_pos falls]
        cases alike with
        | failed final classes => exact classes
        | _ => rfl
      · rw [if_neg falls, if_neg falls]

theorem classification_dispatchToExecutors
    (alike : TreatedAlike msg fallback fallback')
    {directErr directErr' : Option DataPlaneError}
    (kept : Option.Rel
      (fun error error' => Router.failureClass msg error =
        Router.failureClass msg error') directErr directErr') :
    ((world.answered first fallback).dispatchToExecutors appID msg
        directErr).classification =
      ((world.answered first' fallback').dispatchToExecutors appID msg
        directErr').classification := by
  have forwarded : ∀ first fallback,
      (world.answered first fallback).forwarded appID = world.forwarded appID :=
    fun _ _ => rfl
  have hub : ∀ first fallback, (world.answered first fallback).hub = world.hub :=
    fun _ _ => rfl
  simp only [RouterWorld.dispatchToExecutors, hub, forwarded]
  cases (hubDispatch world.hub appID msg).result with
  | ok response => rfl
  | error err =>
      have last :
          ((world.answered first fallback).withoutExecutor msg err
              directErr).classification =
            ((world.answered first' fallback').withoutExecutor msg err
              directErr').classification :=
        classification_withoutExecutor alike err kept
      by_cases nobody : isNoExecutor err.text
      · simp only [if_pos nobody]
        cases (world.forwarded appID).1 with
        | some response => rfl
        | none => exact last
      · simp only [if_neg nobody]

/-- Answers which are treated alike are classified alike. -/
theorem classification_dispatchTo (alikeFirst : TreatedAlike msg first first')
    (alikeFallback : TreatedAlike msg fallback fallback') :
    ((world.answered first fallback).dispatchTo appID msg).classification =
      ((world.answered first' fallback').dispatchTo appID
        msg).classification := by
  have onward : ∀ {directErr directErr' : Option DataPlaneError},
      Option.Rel
        (fun error error' => Router.failureClass msg error =
          Router.failureClass msg error') directErr directErr' →
      ((world.answered first fallback).dispatchToExecutors appID msg
          directErr).classification =
        ((world.answered first' fallback').dispatchToExecutors appID msg
          directErr').classification :=
    fun kept => classification_dispatchToExecutors alikeFallback kept
  rw [RouterWorld.dispatchTo, RouterWorld.dispatchTo,
    RouterWorld.integration_answered, RouterWorld.integration_answered,
    RouterWorld.dataPlane_answered, RouterWorld.dataPlane_answered,
    RouterWorld.databaseFirst_answered, RouterWorld.databaseFirst_answered]
  by_cases direct : world.integration = .direct ∧ world.dataPlane.isSome
  · simp only [direct, and_self, if_true]
    cases alikeFirst with
    | served response response' => rfl
    | readOnlyMode text => rfl
    | unsupportedOperation text => exact onward .none
    | @failed error error' mayHaveApplied mayHaveApplied' final classes =>
        have stops : (isMutating msg.messageType ||
              isDataPlaneNotFound (.failed error mayHaveApplied)) =
            (isMutating msg.messageType ||
              isDataPlaneNotFound (.failed error' mayHaveApplied')) := by
          rcases final with mutating | mention
          · simp only [mutating, Bool.true_or]
          · exact congrArg (isMutating msg.messageType || ·) mention
        simp only [stops]
        split_ifs
        · exact classes
        · exact onward (.some classes)
  · simp only [direct, if_false]
    by_cases aggregate : world.integration = .hybrid ∧
        isFleetAggregate msg.messageType ∧ world.dataPlane.isSome
    · simp only [aggregate, and_self, if_true]
      cases alikeFirst with
      | served response response' => rfl
      | _ => exact onward .none
    · simp only [aggregate, if_false]
      exact onward .none

end Router

/-! ## Two requests -/

/-- Whatever happens, the two requests are classified alike. -/
def ClassifiedByKind (req req' : Request) : Prop :=
  ∀ world first fallback orgName appName,
    (dispatchWith world first fallback orgName appName req).classification =
      (dispatchWith world first fallback orgName appName req').classification

/--
The identifiers agree on the words which matter: a mutation which fails is not
searched for "not found" before it is refused, and a lookup which mentions "not
found" is not searched for "timed out".
-/
structure MentionAlike (messageType : MessageType) (id id' : String) :
    Prop where
  notFound : isMutating messageType = true ∨
    mentions "not found" id = mentions "not found" id'
  timedOut :
    (isLookup messageType = true ∧ mentions "not found" id = true ∧
        mentions "not found" id' = true) ∨
      mentions "timed out" id = mentions "timed out" id'

theorem not_isMutating_of_isLookup {messageType : MessageType}
    (lookup : isLookup messageType = true) :
    isMutating messageType = false := by
  cases messageType <;> first | rfl | cases lookup

section Pair

variable {req req' : Request}

/-- What the router is given of a result of the client's switch. -/
def clientAnswer (response : Message) (mayHaveApplied : Bool) :
    Except GoError Unit → DataPlaneOutcome
  | .ok () => .ok response
  | .error error => .error (.failed error mayHaveApplied)

/-- Identifiers which agree on the words make failures treated alike. -/
theorem treatedAlike_clientAnswer {result result' : Except GoError Unit}
    {id id' : String} {msg : Message}
    (alike : MentionAlike msg.messageType id id')
    (quotes : QuotesAlike msg.messageType id id' result result')
    (response response' : Message) (mayHaveApplied mayHaveApplied' : Bool) :
    TreatedAlike msg (clientAnswer response mayHaveApplied result)
      (clientAnswer response' mayHaveApplied' result') := by
  cases quotes with
  | same result =>
      cases result with
      | ok done => exact .served _ _
      | error error =>
          have classes : failureClass msg (.failed error mayHaveApplied) =
              failureClass msg (.failed error mayHaveApplied') := by
            rw [failureClass_failed, failureClass_failed]
          exact .failed (.inr rfl) classes
  | @failed before cause plain =>
      have notFound : ∀ id,
          mentions "not found" (cause.wrap (before ++ id)).text =
            (mentions "not found" id || mentions "not found" cause.text) :=
        fun id => mentions_wrap (by decide) (plain _ (by decide))
      have timedOut : ∀ id,
          mentions "timed out" (cause.wrap (before ++ id)).text =
            (mentions "timed out" id || mentions "timed out" cause.text) :=
        fun id => mentions_wrap (by decide) (plain _ (by decide))
      apply TreatedAlike.failed
      · rcases alike.notFound with mutating | agree
        · exact .inl mutating
        · exact .inr (by rw [notFound, notFound, agree])
      · rw [failureClass_failed, failureClass_failed, notFound, notFound,
          timedOut, timedOut]
        rcases alike.timedOut with ⟨lookup, mention, mention'⟩ | agree
        · simp only [mention, mention', lookup, Bool.true_or, and_self,
            if_true]
        · rw [agree]
          by_cases lookup : isLookup msg.messageType = true
          · have found := alike.notFound
            simp only [not_isMutating_of_isLookup lookup, Bool.false_eq_true,
              false_or] at found
            rw [found]
            rfl
          · simp only [lookup, Bool.false_eq_true, and_false, if_false]
            rfl
  | missing lookup =>
      have isMissing : ∀ applied id, failureClass msg
          (.failed (.new ("workflow " ++ id ++ " not found")) applied) =
            .missing := by
        intro applied id
        rw [failureClass_failed, if_pos]
        exact ⟨mentions_missing id, by rw [lookup]; rfl⟩
      apply TreatedAlike.failed
      · have mention : ∀ id, mentions "not found"
            (GoError.new ("workflow " ++ id ++ " not found")).text = true :=
          mentions_missing
        exact .inr (by rw [mention, mention])
      · rw [isMissing, isMissing]

/-- A failure which quotes nothing. -/
theorem treatedAlike_refl (msg : Message) (outcome : DataPlaneOutcome) :
    TreatedAlike msg outcome outcome := by
  rcases outcome with (text | text | ⟨error, mayHaveApplied⟩) | response
  · exact .readOnlyMode text
  · exact .unsupportedOperation text
  · exact .failed (.inr rfl) rfl
  · exact .served response response

theorem treatedAlike_clientDispatch (kind : SameKind req.body req'.body)
    (alike : MentionAlike req.body.messageType (quoted req.body)
      (quoted req'.body)) (dataPlane : DataPlaneWorld) :
    TreatedAlike req.message (dataPlane.clientDispatch req).1
      (dataPlane.clientDispatch req').1 := by
  unfold DataPlaneWorld.clientDispatch
  split_ifs
  · have quotes :=
      @quotesAlike_execute dataPlane.answers _ _ kind dataPlane.parse
    generalize req.body.execute dataPlane.parse ⟨dataPlane.answers, []⟩ =
      executed at quotes ⊢
    generalize req'.body.execute dataPlane.parse ⟨dataPlane.answers, []⟩ =
      executed' at quotes ⊢
    cases quotes with
    | none =>
        rw [kind.messageType]
        exact .unsupportedOperation _
    | @some outcome outcome' quotes =>
        obtain ⟨result, session⟩ := outcome
        obtain ⟨result', session'⟩ := outcome'
        have treated : TreatedAlike req.message _ _ :=
          treatedAlike_clientAnswer alike quotes req.message req'.message
            (session.calls.any DatabaseCall.writes)
            (session'.calls.any DatabaseCall.writes)
        cases result <;> cases result' <;> exact treated
  · exact treatedAlike_refl _ _

theorem treatedAlike_dispatch (kind : SameKind req.body req'.body)
    (alike : MentionAlike req.body.messageType (quoted req.body)
      (quoted req'.body)) (dataPlane : DataPlaneWorld) (appID : UUID) :
    TreatedAlike req.message (dataPlane.dispatch appID req).1
      (dataPlane.dispatch appID req').1 := by
  unfold DataPlaneWorld.dispatch
  cases dataPlane.manager.configs.lookup appID with
  | none => exact treatedAlike_refl _ _
  | some cfg =>
      cases dataPlane.initialised with
      | error failure => exact treatedAlike_refl _ _
      | ok client =>
          simp only [← kind.messageType]
          split_ifs
          · exact treatedAlike_refl _ _
          · exact treatedAlike_clientDispatch kind alike dataPlane

/-- Identifiers which agree on the words do not matter. -/
theorem classifiedByKind_of_mentionAlike (kind : SameKind req.body req'.body)
    (sameID : req.requestID = req'.requestID)
    (alike : MentionAlike req.body.messageType (quoted req.body)
      (quoted req'.body)) : ClassifiedByKind req req' := by
  intro world first fallback orgName appName
  have message : req'.message = req.message := by
    simp only [Request.message, kind.messageType, sameID]
  unfold dispatchWith
  cases resolveApplication world.store orgName appName with
  | error error => rfl
  | ok appID =>
      rw [message]
      exact @classification_dispatchTo
        { world with dataPlane := first.configured appID } req.message appID
        _ _ _ _
        (treatedAlike_dispatch kind alike first appID)
        (treatedAlike_dispatch kind alike fallback appID)

end Pair

/-! ## A database which refuses its connections -/

/-- The error of a database which cannot be reached. -/
def refused : GoError := .new "connection refused"

/-- An application in Direct mode, and the first call of the database fails. -/
def refusingOrders : DataPlaneWorld where
  manager :=
    { newManager with
      configs := (newManager.configs).insert ⟨7⟩ (ordersConfig .readWrite) }
  initialised := .ok ()
  exposesContext := true
  parse := fun _ => .ok 0
  answers := [.error refused]

/-- An application without executors. -/
def withoutPeers : RouterWorld := { answeringPeer with forwards := false }

/-- How the failure is classified, if it quotes an identifier. -/
def refusedClass (messageType : MessageType) (id : String) : Classification :=
  if mentions "not found" id ∧ isLookup messageType then .missing
  else if mentions "timed out" id then .failed .executorTimeout
  else .failed .dataPlaneUnavailable

/-- A timeout is told from other failures, but for two missing records. -/
theorem found_of_refusedClass_eq {messageType : MessageType} {id id' : String}
    (classes : refusedClass messageType id = refusedClass messageType id')
    (differ : mentions "timed out" id ≠ mentions "timed out" id') :
    isLookup messageType = true ∧ mentions "not found" id = true ∧
      mentions "not found" id' = true := by
  unfold refusedClass at classes
  generalize isLookup messageType = lookup at *
  generalize mentions "not found" id = found at *
  generalize mentions "not found" id' = found' at *
  generalize mentions "timed out" id = timedOut at *
  generalize mentions "timed out" id' = timedOut' at *
  revert lookup found found' timedOut timedOut'
  decide

section Refused

variable {req : Request} {before id : String}

theorem execute_refused {body : RequestBody}
    (quotes : quotation body = some (before, id)) :
    ∃ session,
      body.execute (fun _ => .ok 0) ⟨[.error refused], []⟩ =
        some (.error (refused.wrap (before ++ id)), session) := by
  cases body with
  | cancel workflowID workflowIDs cancelChildren =>
      obtain ⟨rfl, named, rfl, rfl⟩ := eq_of_quotation_single quotes
      simp only [RequestBody.execute, ne_eq, not_true_eq_false, if_false, named,
        not_false_eq_true, if_true]
      exact ⟨_, rfl⟩
  | resume workflowID workflowIDs queueName =>
      obtain ⟨rfl, named, rfl, rfl⟩ := eq_of_quotation_single quotes
      simp only [RequestBody.execute, ne_eq, not_true_eq_false, if_false, named,
        not_false_eq_true, if_true]
      exact ⟨_, rfl⟩
  | _ => first | (cases quotes; exact ⟨_, rfl⟩) | cases quotes

theorem dispatch_refused (quotes : quotation req.body = some (before, id)) :
    ∃ mayHaveApplied,
      (refusingOrders.dispatch ⟨7⟩ req).1 =
        .error (.failed (refused.wrap (before ++ id)) mayHaveApplied) := by
  obtain ⟨session, executed⟩ := execute_refused quotes
  have registered : refusingOrders.manager.configs.lookup ⟨7⟩ =
      some (ordersConfig .readWrite) := rfl
  have writable : ¬(isMutating req.body.messageType = true ∧
      (ordersConfig .readWrite).mode ≠ .readWrite) :=
    fun refuses => refuses.2 rfl
  refine ⟨session.calls.any DatabaseCall.writes, ?_⟩
  unfold DataPlaneWorld.dispatch
  rw [registered]
  simp only [refusingOrders, if_neg writable]
  simp only [DataPlaneWorld.clientDispatch, if_true, executed]

theorem failureClass_refused (quotes : quotation req.body = some (before, id))
    (mayHaveApplied : Bool) :
    failureClass req.message
        (.failed (refused.wrap (before ++ id)) mayHaveApplied) =
      refusedClass req.body.messageType id := by
  rw [failureClass_failed,
    mentions_wrap (by decide) (plain_quotation quotes (by decide)),
    mentions_wrap (by decide) (plain_quotation quotes (by decide))]
  have other : mentions "not found" refused.text = false ∧
      mentions "timed out" refused.text = false := by decide
  have inTime : (refused.wrap (before ++ id)).deadlineExceeded = false := rfl
  simp only [other, inTime, Bool.or_false, Bool.false_eq_true, false_or,
    Request.message, refusedClass]

/-- Nobody else answers. -/
theorem classification_withoutPeers
    (quotes : quotation req.body = some (before, id)) :
    (dispatchWith withoutPeers refusingOrders refusingOrders "local" "orders"
        req).classification = refusedClass req.body.messageType id := by
  obtain ⟨mayHaveApplied, answer⟩ := dispatch_refused quotes
  rw [← failureClass_refused quotes mayHaveApplied]
  have resolved : resolveApplication withoutPeers.store "local" "orders" =
      .ok ⟨7⟩ := rfl
  simp only [dispatchWith, resolved, answer]
  have direct : refusingOrders.configured ⟨7⟩ = some (some .direct) := rfl
  simp only [direct, RouterWorld.dispatchTo]
  rw [if_pos ⟨rfl, rfl⟩]
  split_ifs
  · rfl
  · rfl

/-- The executor of a peer answers, unless the failure seems to be final. -/
theorem classification_answeringPeer
    (quotes : quotation req.body = some (before, id))
    (reads : isMutating req.body.messageType = false) :
    (dispatchWith answeringPeer refusingOrders refusingOrders "local" "orders"
        req).classification =
      if mentions "not found" id then refusedClass req.body.messageType id
      else .served .executor := by
  obtain ⟨mayHaveApplied, answer⟩ := dispatch_refused quotes
  have mention : isDataPlaneNotFound
      (.failed (refused.wrap (before ++ id)) mayHaveApplied) =
        (mentions "not found" id || mentions "not found" refused.text) :=
    mentions_wrap (by decide) (plain_quotation quotes (by decide))
  have plain : mentions "not found" refused.text = false := by decide
  rw [← failureClass_refused quotes mayHaveApplied]
  have resolved : resolveApplication answeringPeer.store "local" "orders" =
      .ok ⟨7⟩ := rfl
  have direct : refusingOrders.configured ⟨7⟩ = some (some .direct) := rfl
  have searched : isMutating req.message.messageType = false := reads
  simp only [dispatchWith, resolved, answer, direct, RouterWorld.dispatchTo]
  rw [if_pos ⟨rfl, rfl⟩]
  simp only [searched, mention, plain, Bool.false_or, Bool.or_false]
  split_ifs
  · rfl
  · rfl

end Refused

/-- The same words before the identifiers. -/
theorem SameKind.quotation {body body' : RequestBody}
    (kind : SameKind body body') :
    (Router.quotation body).map Prod.fst =
      (Router.quotation body').map Prod.fst := by
  cases kind with
  | cancel cancelChildren named listed =>
      simp only [Router.quotation, ne_eq, named, listed]
      split_ifs <;> rfl
  | resume queueName queueName' named listed =>
      simp only [Router.quotation, ne_eq, named, listed]
      split_ifs <;> rfl
  | _ => rfl

/-- Identifiers which differ are quoted, both of them. -/
theorem SameKind.quotes {body body' : RequestBody}
    (kind : SameKind body body') (differ : quoted body ≠ quoted body') :
    ∃ before, Router.quotation body = some (before, quoted body) ∧
      Router.quotation body' = some (before, quoted body') := by
  have before := kind.quotation
  unfold quoted at differ ⊢
  cases quotes : Router.quotation body with
  | none =>
      rw [quotes, Option.map_none, eq_comm, Option.map_eq_none_iff] at before
      rw [quotes, before] at differ
      exact absurd rfl differ
  | some quotation =>
      obtain ⟨text, id⟩ := quotation
      rw [quotes, Option.map_some, eq_comm, Option.map_eq_some_iff] at before
      obtain ⟨⟨text', id'⟩, quotes', rfl⟩ := before
      exact ⟨text', rfl, by rw [quotes']; rfl⟩

/-! ## When identifiers do not matter -/

section Pair

variable {req req' : Request}

/-- One of the two would be answered by the peer. -/
theorem notFound_of_classifiedByKind (kind : SameKind req.body req'.body)
    (alike : ClassifiedByKind req req')
    (reads : isMutating req.body.messageType = false) :
    mentions "not found" (quoted req.body) =
      mentions "not found" (quoted req'.body) := by
  by_contra differ
  obtain ⟨before, quotes, quotes'⟩ :=
    kind.quotes fun same => differ (by rw [same])
  have reads' : isMutating req'.body.messageType = false :=
    kind.messageType ▸ reads
  have classes :=
    alike answeringPeer refusingOrders refusingOrders "local" "orders"
  rw [classification_answeringPeer quotes reads,
    classification_answeringPeer quotes' reads', ← kind.messageType]
    at classes
  have answered : ∀ id,
      refusedClass req.body.messageType id ≠ .served .executor := by
    intro id
    unfold refusedClass
    split_ifs <;> exact nofun
  split_ifs at classes with mention mention' mention'
  · exact differ (by rw [mention, mention'])
  · exact answered _ classes
  · exact answered _ classes.symm
  · exact differ (by
      rw [Bool.eq_false_of_not_eq_true mention,
        Bool.eq_false_of_not_eq_true mention'])

/-- One of the two would be a timeout. -/
theorem timedOut_of_classifiedByKind (kind : SameKind req.body req'.body)
    (alike : ClassifiedByKind req req')
    (differ : mentions "timed out" (quoted req.body) ≠
      mentions "timed out" (quoted req'.body)) :
    isLookup req.body.messageType = true ∧
      mentions "not found" (quoted req.body) = true ∧
      mentions "not found" (quoted req'.body) = true := by
  obtain ⟨before, quotes, quotes'⟩ :=
    kind.quotes fun same => differ (by rw [same])
  have classes :=
    alike withoutPeers refusingOrders refusingOrders "local" "orders"
  rw [classification_withoutPeers quotes, classification_withoutPeers quotes',
    ← kind.messageType] at classes
  exact found_of_refusedClass_eq classes differ

end Pair

/--
Two requests of one kind are classified alike, whatever becomes of the database,
the hub and the peers, exactly if their identifiers agree on the words.
-/
theorem classifiedByKind_iff_mentionAlike {req req' : Request}
    (kind : SameKind req.body req'.body)
    (sameID : req.requestID = req'.requestID) :
    ClassifiedByKind req req' ↔
      MentionAlike req.body.messageType (quoted req.body)
        (quoted req'.body) := by
  constructor
  · intro alike
    constructor
    · rw [or_iff_not_imp_left, Bool.not_eq_true]
      exact notFound_of_classifiedByKind kind alike
    · rw [or_iff_not_imp_right]
      exact timedOut_of_classifiedByKind kind alike
  · exact classifiedByKind_of_mentionAlike kind sameID

/-- A workflow is asked for. -/
def getWorkflowRequest (workflowID : String) : Request :=
  ⟨"req-1", .getWorkflow workflowID⟩

theorem classifiedByKind_getWorkflowRequest :
    ClassifiedByKind (getWorkflowRequest "wf-1") (getWorkflowRequest "wf-2") :=
  have kind : SameKind (getWorkflowRequest "wf-1").body
      (getWorkflowRequest "wf-2").body := .getWorkflow "wf-1" "wf-2"
  (classifiedByKind_iff_mentionAlike kind rfl).mpr
    ⟨.inr (by decide), .inr (by decide)⟩

/-- The database cannot be reached; the identifier makes it a missing record. -/
theorem not_classifiedByKind :
    (dispatchWith withoutPeers refusingOrders refusingOrders "local" "orders"
        (getWorkflowRequest "wf-1")).classification =
      .failed .dataPlaneUnavailable ∧
    (dispatchWith withoutPeers refusingOrders refusingOrders "local" "orders"
        (getWorkflowRequest "not found")).classification = .missing ∧
    SameKind (getWorkflowRequest "wf-1").body
      (getWorkflowRequest "not found").body ∧
    ¬ClassifiedByKind (getWorkflowRequest "wf-1")
      (getWorkflowRequest "not found") := by
  have named := @classification_withoutPeers (getWorkflowRequest "wf-1") _ _ rfl
  have unfound :=
    @classification_withoutPeers (getWorkflowRequest "not found") _ _ rfl
  rw [show refusedClass (getWorkflowRequest "wf-1").body.messageType "wf-1" =
    .failed .dataPlaneUnavailable by decide] at named
  rw [show refusedClass (getWorkflowRequest "not found").body.messageType
    "not found" = .missing by decide] at unfound
  refine ⟨named, unfound, .getWorkflow _ _, fun alike => ?_⟩
  have classes := alike withoutPeers refusingOrders refusingOrders
    "local" "orders"
  rw [named, unfound] at classes
  cases classes

end DbosRelay.Router
