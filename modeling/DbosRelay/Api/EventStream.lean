import DbosRelay.Api.Events
import DbosRelay.Library.EventStream
import DbosRelay.Library.GoAny
import DbosRelay.Library.GoJsonText
import DbosRelay.Store.Timestamps
import Mathlib.Data.List.Destutter

/-!
# The event stream

`ServeEvents` of `internal/api/events.go` answers with a stream of server-sent
events: one when it is ready, those of its subscription, a ping every fifteen
seconds, and an update whenever the latest workflow of its application, which it
looks up every two seconds, is another one or has another status.

Times are in UTC.  A write which fails ends the stream.
-/

namespace DbosRelay.Api

open DbosRelay.Basic
open DbosRelay.Library.EventStream
open DbosRelay.Library.GoJson
open DbosRelay.Store

/-! ## Payloads -/

/-- `Format(time.RFC3339)`. -/
def rfc3339 (time : Time) : String :=
  String.ofList (secondText (time / second) ++ ['Z'])

/-- `MarshalJSON` of a time; it has years of four digits only. -/
def timeJson (time : Time) : Option Json :=
  let year := (dateOfSecond (time / second)).year
  if 0 ≤ year ∧ year ≤ 9999 then
    some (.string (String.ofList (timestamptzToText time)))
  else none

/-- A map with the values of any type. -/
abbrev EventData := List (String × Json)

/-- `Marshal` of a `StreamEvent`. -/
def StreamEvent.marshal (event : StreamEvent EventData) : Option Json :=
  (timeJson event.timestamp).map fun timestamp =>
    .object
      ([("type", .string event.type)] ++
        (if event.appName = "" then []
          else [("app_name", .string event.appName)]) ++
        (if event.data.isEmpty then []
          else [("data", .object (sortMembers event.data))]) ++
        [("timestamp", timestamp)])

/-- The payload of the first event. -/
def readyJson (orgName appName : String) (now : Time) : Json :=
  .object
    [("app_name", .string appName), ("org_name", .string orgName),
      ("status", .string "connected"), ("timestamp", .string (rfc3339 now))]

/-! ## The stream -/

/-- The fields of a `ListWorkflowsResponseBody` which the stream reads. -/
structure LatestWorkflow where
  workflowUUID : String
  workflowName : Option String
  status : Option String
deriving DecidableEq, Repr

/-- What tells the updates apart: the workflow and its status. -/
def LatestWorkflow.shown (workflow : LatestWorkflow) : String × String :=
  (workflow.workflowUUID, workflow.status.getD "")

/--
What one round of the `select` takes.  The workflows of a sweep are those of a
`ListWorkflowsResponse`; an error or another message is `none`.
-/
inductive StreamCase where
  | done
  | closed
  | event (event : StreamEvent EventData)
  | ping (time : Time)
  | sweep (now : Time) (answer : Option (List LatestWorkflow))

/-- What the stream writes. -/
inductive Written where
  | ready (orgName appName : String) (now : Time)
  | relayed (event : StreamEvent EventData) (payload : Json)
  | ping (time : Time)
  | update (appName : String) (now : Time) (workflow : LatestWorkflow)

/-- The event of an update. -/
def LatestWorkflow.event (workflow : LatestWorkflow) (appName : String)
    (now : Time) : StreamEvent EventData where
  type := "workflow_update"
  appName := appName
  data :=
    [("workflow_id", .string workflow.workflowUUID),
      ("name", .string (workflow.workflowName.getD "")),
      ("status", .string (workflow.status.getD ""))]
  timestamp := now

/-- The name of the first event. -/
def readyName : List Char := ['r', 'e', 'a', 'd', 'y']

/-- The name of a ping. -/
def pingName : List Char := ['p', 'i', 'n', 'g']

/-- The name of an update. -/
def updateName : List Char :=
  ['w', 'o', 'r', 'k', 'f', 'l', 'o', 'w', '_', 'u', 'p', 'd', 'a', 't', 'e']

/-- A payload as it is formatted, which is nothing after an error. -/
def payloadText : Option Json → List Char
  | none => []
  | some payload => payload.text

/-- The name of an event which is relayed. -/
def StreamEvent.name (event : StreamEvent EventData) : List Char :=
  if event.type = "" then messageName else event.type.toList

/-- The name of what is written. -/
def Written.name : Written → List Char
  | .ready _ _ _ => readyName
  | .relayed event _ => event.name
  | .ping _ => pingName
  | .update _ _ _ => updateName

/-- The payload; the error of an update's is ignored. -/
def Written.payload : Written → Option Json
  | .ready orgName appName now => some (readyJson orgName appName now)
  | .relayed _ payload => some payload
  | .ping time => some (.object [("timestamp", .string (rfc3339 time))])
  | .update appName now workflow => (workflow.event appName now).marshal

/-- The event as it is written. -/
def Written.frame (written : Written) : Event :=
  ⟨written.name, payloadText written.payload⟩

/-- What a round comes to. -/
inductive Round where
  | returns
  | continues
  | writes (written : Written) (last : String × String)

/-- A sweep, after the workflow and status which were written last. -/
def sweepRound (appName : String) (last : String × String) (now : Time) :
    Option (List LatestWorkflow) → Round
  | none => .continues
  | some [] => .continues
  | some (workflow :: _) =>
      if workflow.workflowUUID ≠ last.1 ∨
          workflow.status.getD "" ≠ last.2 then
        .writes (.update appName now workflow) workflow.shown
      else .continues

/-- One round. -/
def streamRound (appName : String) (hasRouter : Bool)
    (last : String × String) : StreamCase → Round
  | .done => .returns
  | .closed => .returns
  | .event event =>
      match event.marshal with
      | none => .continues
      | some payload => .writes (.relayed event payload) last
  | .ping time => .writes (.ping time) last
  | .sweep now answer =>
      if appName = "" ∨ hasRouter = false then .continues
      else sweepRound appName last now answer

/-- The loop; each round comes with whether its write succeeds, if it makes one. -/
def streamLoop (appName : String) (hasRouter : Bool) :
    String × String → List (StreamCase × Bool) → List Written
  | _, [] => []
  | last, (taken, succeeds) :: cases =>
      match streamRound appName hasRouter last taken with
      | .returns => []
      | .continues => streamLoop appName hasRouter last cases
      | .writes written next =>
          if succeeds then
            written :: streamLoop appName hasRouter next cases
          else []

/-- The organisation of the path, or the local one. -/
def orgOrLocal (orgName : String) : String :=
  if orgName = "" then "local" else orgName

/-- `ServeEvents`, once the headers are written. -/
def serveEvents (orgName appName : String) (hasRouter : Bool) (now : Time)
    (readySucceeds : Bool) (cases : List (StreamCase × Bool)) :
    List Written :=
  if readySucceeds then
    .ready (orgOrLocal orgName) appName now ::
      streamLoop appName hasRouter ("", "") cases
  else []

/-! ## What a client reads -/

theorem oneLine_payloadText (payload : Option Json) :
    OneLine (payloadText payload) := by
  cases payload with
  | none => simp [payloadText, OneLine]
  | some json =>
      have printable := printable_text json
      constructor
      · exact fun member => absurd (printable _ member) (by decide)
      · exact fun member => absurd (printable _ member) (by decide)

theorem StreamEvent.oneLine_name {event : StreamEvent EventData}
    (typed : OneLine event.type.toList) : OneLine event.name := by
  unfold StreamEvent.name
  split_ifs
  · decide
  · exact typed

theorem StreamEvent.name_ne_nil (event : StreamEvent EventData) :
    event.name ≠ [] := by
  unfold StreamEvent.name
  split_ifs with untyped
  · decide
  · exact fun empty => untyped (String.toList_eq_nil_iff.mp empty)

/-- Every payload is one line, and so is every name but those of foreign events. -/
theorem Written.oneLine_frame (written : Written)
    (typed : ∀ event payload, written = .relayed event payload →
      OneLine event.type.toList) :
    OneLine written.frame.name ∧ OneLine written.frame.data := by
  have named : OneLine written.name := by
    cases written with
    | ready orgName appName now => exact (by decide : OneLine readyName)
    | relayed event payload =>
        exact StreamEvent.oneLine_name (typed event payload rfl)
    | ping time => exact (by decide : OneLine pingName)
    | update appName now workflow => exact (by decide : OneLine updateName)
  exact ⟨named, oneLine_payloadText written.payload⟩

/-- A name is never missing. -/
theorem Written.seen_frame (written : Written) :
    written.frame.seen = written.frame := by
  have named : written.name ≠ [] := by
    cases written with
    | ready => exact List.cons_ne_nil _ _
    | relayed event payload => exact event.name_ne_nil
    | ping => exact List.cons_ne_nil _ _
    | update => exact List.cons_ne_nil _ _
  rw [Event.seen, Written.frame, if_neg named]

/-- A sweep which finds something new writes it, and no other sweep does. -/
theorem sweepRound_cases (appName : String) (last : String × String)
    (now : Time) (answer : Option (List LatestWorkflow)) :
    (sweepRound appName last now answer = .continues ∧
      ∀ workflow others, answer = some (workflow :: others) →
        workflow.shown = last) ∨
    ∃ workflow others, answer = some (workflow :: others) ∧
      workflow.shown ≠ last ∧
      sweepRound appName last now answer =
        .writes (.update appName now workflow) workflow.shown := by
  rcases answer with _ | _ | ⟨workflow, others⟩
  · exact .inl ⟨rfl, fun _ _ absent => by cases absent⟩
  · exact .inl ⟨rfl, fun _ _ absent => by cases absent⟩
  · by_cases same : workflow.shown = last
    · left
      subst same
      constructor
      · simp [sweepRound, LatestWorkflow.shown]
      · intro first rest present
        cases present
        rfl
    · right
      refine ⟨workflow, others, rfl, same, if_pos ?_⟩
      rw [← not_and_or]
      exact fun both => same (Prod.ext both.1 both.2)

/-- A round which writes: what it has taken, and what it has written last. -/
theorem streamRound_writes {appName : String} {hasRouter : Bool}
    {last next : String × String} {taken : StreamCase} {written : Written}
    (isRound : streamRound appName hasRouter last taken =
      .writes written next) :
    (∃ event payload, taken = .event event ∧
      written = .relayed event payload ∧ next = last) ∨
    (∃ time, taken = .ping time ∧ written = .ping time ∧ next = last) ∨
    (∃ now workflow others, taken = .sweep now (some (workflow :: others)) ∧
      written = .update appName now workflow ∧
      next = workflow.shown ∧ workflow.shown ≠ last) := by
  cases taken with
  | done => cases isRound
  | closed => cases isRound
  | event event =>
      left
      rw [streamRound] at isRound
      split at isRound
      · cases isRound
      · cases isRound
        exact ⟨event, _, rfl, rfl, rfl⟩
  | ping time =>
      right; left
      cases isRound
      exact ⟨time, rfl, rfl, rfl⟩
  | sweep now answer =>
      right; right
      rw [streamRound] at isRound
      split_ifs at isRound
      rcases sweepRound_cases appName last now answer with
        ⟨passed, -⟩ | ⟨workflow, others, present, differs, writes⟩
      · rw [passed] at isRound
        cases isRound
      · rw [writes] at isRound
        cases isRound
        exact ⟨now, workflow, others, present ▸ rfl, rfl, rfl, differs⟩

/-- What is relayed has come from the subscription. -/
theorem mem_streamLoop_relayed {appName : String} {hasRouter : Bool}
    {last : String × String} {cases : List (StreamCase × Bool)}
    {event : StreamEvent EventData} {payload : Json}
    (member : .relayed event payload ∈
      streamLoop appName hasRouter last cases) :
    ∃ taken ∈ cases, taken.1 = .event event := by
  induction cases generalizing last with
  | nil => cases member
  | cons head cases induction =>
      rcases head with ⟨taken, succeeds⟩
      rw [streamLoop] at member
      split at member
      · cases member
      · rcases induction member with ⟨later, isLater, same⟩
        exact ⟨later, List.mem_cons_of_mem _ isLater, same⟩
      · rename_i written next isRound
        split_ifs at member
        · rcases List.mem_cons.mp member with rfl | isLater
          · rcases streamRound_writes isRound with
              ⟨_, _, same, isEvent, -⟩ | ⟨_, -, isPing, -⟩ |
                ⟨_, _, _, -, isUpdate, -⟩
            · cases isEvent
              exact ⟨(taken, succeeds), List.mem_cons_self, same⟩
            · cases isPing
            · cases isUpdate
          · rcases induction isLater with ⟨later, isLater, same⟩
            exact ⟨later, List.mem_cons_of_mem _ isLater, same⟩
        · cases member

/--
A client reads the events which were written, each with its name and its payload,
if no event was published whose type has the end of a line in it.
-/
theorem client_reads (orgName appName : String) (hasRouter : Bool) (now : Time)
    (readySucceeds : Bool) (cases : List (StreamCase × Bool))
    (typed : ∀ taken ∈ cases, ∀ event, taken.1 = .event event →
      OneLine event.type.toList) :
    read (writeAll ((serveEvents orgName appName hasRouter now readySucceeds
        cases).map Written.frame)) =
      (serveEvents orgName appName hasRouter now readySucceeds cases).map
        Written.frame := by
  have relayed : ∀ written ∈
      serveEvents orgName appName hasRouter now readySucceeds cases,
      ∀ event payload, written = .relayed event payload →
        OneLine event.type.toList := by
    rintro written member event payload rfl
    unfold serveEvents at member
    split_ifs at member
    · rcases List.mem_cons.mp member with isReady | isLater
      · cases isReady
      · rcases mem_streamLoop_relayed isLater with ⟨taken, isCase, same⟩
        exact typed taken isCase event same
    · cases member
  have oneLine : ∀ event ∈
      (serveEvents orgName appName hasRouter now readySucceeds cases).map
        Written.frame,
      OneLine event.name ∧ OneLine event.data := by
    intro event member
    rcases List.mem_map.mp member with ⟨written, isWritten, rfl⟩
    exact written.oneLine_frame (relayed written isWritten)
  rw [read_writeAll oneLine, List.map_map]
  exact List.map_congr_left fun written _ => written.seen_frame

/-- An event, a ping and an update reach the client. -/
theorem client_reads_update :
    (∀ taken ∈ ([(.event ⟨"", "shop", [], 0⟩, true), (.ping 0, true),
        (.sweep 0 (some [⟨"w", none, some "PENDING"⟩]), true)] :
          List (StreamCase × Bool)),
      ∀ event, taken.1 = .event event → OneLine event.type.toList) ∧
    read (writeAll ((serveEvents "" "shop" true 0 true
        [(.event ⟨"", "shop", [], 0⟩, true), (.ping 0, true),
          (.sweep 0 (some [⟨"w", none, some "PENDING"⟩]), true)]).map
            Written.frame)) =
      (serveEvents "" "shop" true 0 true
        [(.event ⟨"", "shop", [], 0⟩, true), (.ping 0, true),
          (.sweep 0 (some [⟨"w", none, some "PENDING"⟩]), true)]).map
            Written.frame := by
  have typed : ∀ taken ∈ ([(.event ⟨"", "shop", [], 0⟩, true), (.ping 0, true),
        (.sweep 0 (some [⟨"w", none, some "PENDING"⟩]), true)] :
          List (StreamCase × Bool)),
      ∀ event, taken.1 = .event event → OneLine event.type.toList := by
    simp [OneLine]
  exact ⟨typed, client_reads "" "shop" true 0 true _ typed⟩

/-! ## Updates -/

/-- The latest workflow which a round has seen, by what tells updates apart. -/
def StreamCase.latest : StreamCase → Option (String × String)
  | .sweep _ (some (workflow :: _)) => some workflow.shown
  | _ => none

/-- What tells an update from the others. -/
def Written.shown : Written → Option (String × String)
  | .update _ _ workflow => some workflow.shown
  | _ => none

/-- The client is there, and its subscription open. -/
def StreamCase.Open : StreamCase → Prop
  | .done => False
  | .closed => False
  | _ => True

/-- A sweep which finds what was written last is passed over. -/
theorem streamRound_latest {appName : String} (named : appName ≠ "")
    (last : String × String) (taken : StreamCase) :
    (∃ written, streamRound appName true last taken = .writes written last ∧
      written.shown = none ∧ taken.latest = none) ∨
    (streamRound appName true last taken = .continues ∧
      (taken.latest = none ∨ taken.latest = some last)) ∨
    (∃ written next, streamRound appName true last taken = .writes written next ∧
      written.shown = some next ∧ taken.latest = some next ∧ last ≠ next) ∨
    ¬ taken.Open := by
  cases taken with
  | done => exact .inr (.inr (.inr id))
  | closed => exact .inr (.inr (.inr id))
  | event event =>
      rw [streamRound]
      cases event.marshal with
      | none => exact .inr (.inl ⟨rfl, .inl rfl⟩)
      | some payload => exact .inl ⟨_, rfl, rfl, rfl⟩
  | ping time => exact .inl ⟨_, rfl, rfl, rfl⟩
  | sweep now answer =>
      rw [streamRound, if_neg (by simp [named])]
      rcases sweepRound_cases appName last now answer with
        ⟨passed, repeated⟩ | ⟨workflow, others, rfl, differs, writes⟩
      · right; left
        refine ⟨passed, ?_⟩
        rcases answer with _ | _ | ⟨workflow, others⟩
        · exact .inl rfl
        · exact .inl rfl
        · right
          rw [StreamCase.latest, repeated workflow others rfl]
      · right; right; left
        exact ⟨_, _, writes, rfl, rfl, Ne.symm differs⟩

/--
The updates the loop writes of its own are the workflows the sweeps have seen, with
those left out that repeat the one before.
-/
theorem updates_eq_destutter {appName : String} (named : appName ≠ "")
    (last : String × String) (cases : List (StreamCase × Bool))
    (connected : ∀ taken ∈ cases, taken.1.Open ∧ taken.2 = true) :
    last :: (streamLoop appName true last cases).filterMap Written.shown =
      (cases.filterMap fun taken => taken.1.latest).destutter' (· ≠ ·)
        last := by
  induction cases generalizing last with
  | nil => rfl
  | cons head cases induction =>
      rcases head with ⟨taken, succeeds⟩
      rw [List.forall_mem_cons] at connected
      rcases connected with ⟨⟨isOpen, rfl⟩, connected⟩
      rw [streamLoop]
      rcases streamRound_latest named last taken with
        ⟨written, isRound, unseen, nothing⟩ | ⟨isRound, repeated⟩ |
          ⟨written, next, isRound, seen, found, differ⟩ | isClosed
      · simp only [isRound, if_true, List.filterMap_cons, unseen, nothing]
        exact induction last connected
      · rcases repeated with nothing | again
        · simp only [isRound, List.filterMap_cons, nothing]
          exact induction last connected
        · simp only [isRound, List.filterMap_cons, again]
          rw [List.destutter'_cons_neg _ (not_not.mpr rfl)]
          exact induction last connected
      · simp only [isRound, if_true, List.filterMap_cons, seen, found]
        rw [List.destutter'_cons_pos _ differ, induction next connected]
      · exact absurd isOpen isClosed

/-- A workflow seen twice as pending and then as done is two updates. -/
theorem updates_eq_destutter_done :
    ("shop" ≠ "" ∧
      ∀ taken ∈ ([(.sweep 0 (some [⟨"w", none, some "PENDING"⟩]), true),
          (.ping 0, true),
          (.sweep 1 (some [⟨"w", none, some "PENDING"⟩]), true),
          (.sweep 2 (some [⟨"w", none, some "SUCCESS"⟩]), true)] :
            List (StreamCase × Bool)),
        taken.1.Open ∧ taken.2 = true) ∧
    (("", "") :: (streamLoop "shop" true ("", "")
        [(.sweep 0 (some [⟨"w", none, some "PENDING"⟩]), true),
          (.ping 0, true),
          (.sweep 1 (some [⟨"w", none, some "PENDING"⟩]), true),
          (.sweep 2 (some [⟨"w", none, some "SUCCESS"⟩]), true)]).filterMap
            Written.shown =
      [("w", "PENDING"), ("w", "PENDING"), ("w", "SUCCESS")].destutter'
        (· ≠ ·) ("", "")) := by
  have connected :
      ∀ taken ∈ ([(.sweep 0 (some [⟨"w", none, some "PENDING"⟩]), true),
          (.ping 0, true),
          (.sweep 1 (some [⟨"w", none, some "PENDING"⟩]), true),
          (.sweep 2 (some [⟨"w", none, some "SUCCESS"⟩]), true)] :
            List (StreamCase × Bool)),
        taken.1.Open ∧ taken.2 = true := by
    simp [StreamCase.Open]
  exact ⟨⟨by decide, connected⟩,
    updates_eq_destutter (by decide) ("", "") _ connected⟩

end DbosRelay.Api
