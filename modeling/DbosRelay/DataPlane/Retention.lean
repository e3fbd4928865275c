import DbosRelay.DataPlane.Client
import DbosRelay.Library.Tables
import Mathlib.Data.List.Sort

/-!
# Retention against the workflow table

`enforceRetention` of `internal/dataplane/client.go` deletes and cancels
workflows in batches, listing anew after each batch, so every round changes the
listing of the next.  Here its listings carry their filters and the SDK's
client works on a table of workflows; that it lists, deletes and cancels what
it is asked to is a hypothesis.
-/

namespace DbosRelay.DataPlane.Retention

open DbosRelay.Basic
open DbosRelay.Library.Tables
open DbosRelay.Protocol

/-! ## Workflows and listings -/

/-- `WorkflowStatusType`; a string in the SDK, so other values exist. -/
inductive WorkflowStatus where
  | pending
  | enqueued
  | delayed
  | success
  | error
  | cancelled
  | maxRecoveryAttemptsExceeded
  | other (name : String)
deriving DecidableEq, Repr

/-- The statuses of `terminalWorkflowOptions`. -/
def terminalStatuses : List WorkflowStatus :=
  [.success, .error, .cancelled, .maxRecoveryAttemptsExceeded]

/-- A workflow, as far as retention looks at it. -/
structure Workflow where
  status : WorkflowStatus
  createdAt : Time
deriving DecidableEq, Repr

/-- The workflows of an application by their identifiers. -/
abbrev Workflows := Table String Workflow

/-- The options of `ListWorkflows` which retention sets. -/
structure ListOptions where
  statuses : List WorkflowStatus
  createdBefore : Option Time
  sortDesc : Bool
  limit : Int
  offset : Int
deriving DecidableEq, Repr

/-- The filters of a listing; both bounds are inclusive. -/
def ListOptions.selects (options : ListOptions) (workflow : Workflow) : Bool :=
  decide (workflow.status ∈ options.statuses) &&
    options.createdBefore.all fun limit => workflow.createdAt ≤ limit

/-- The rows the filters let through. -/
def selected (options : ListOptions) (workflows : Workflows) :
    List WorkflowRow :=
  workflows.entries.filterMap fun entry =>
    if options.selects entry.2 then some ⟨entry.1, entry.2.createdAt⟩
    else none

/-- The operations of the SDK's client which retention uses. -/
structure WorkflowClient where
  listWorkflows : ListOptions → Workflows → Except GoError (List WorkflowRow)
  deleteWorkflows : List String → Workflows → Except GoError Unit × Workflows
  cancelWorkflows : List String → Workflows → Except GoError Unit × Workflows

/-! ## `enforceRetention` -/

/-- `time.Millisecond`. -/
def millisecond : Duration := 1000000

/--
The loops of `deleteTerminalWorkflowsBefore` and `cancelActiveWorkflowsBefore`;
`none` when the fuel does not last.
-/
def batchLoop (client : WorkflowClient) (options : ListOptions)
    (write : List String → Workflows → Except GoError Unit × Workflows)
    (listFailure writeFailure : String) :
    Nat → Workflows → Option (Except GoError Unit × Workflows)
  | 0, _ => none
  | fuel + 1, workflows =>
      match client.listWorkflows options workflows with
      | .error error => some (.error (error.wrap listFailure), workflows)
      | .ok rows =>
          if rows = [] then some (.ok (), workflows)
          else
            match write (rows.map WorkflowRow.id) workflows with
            | (.error error, workflows) =>
                some (.error (error.wrap writeFailure), workflows)
            | (.ok (), workflows) =>
                if (rows.length : Int) < options.limit then
                  some (.ok (), workflows)
                else
                  batchLoop client options write listFailure writeFailure fuel
                    workflows

/-- The listing of `deleteTerminalWorkflowsBefore`, which excludes the cutoff. -/
def terminalBefore (cutoff : Time) (batchSize : Int) : ListOptions where
  statuses := terminalStatuses
  createdBefore := some (cutoff - millisecond)
  sortDesc := false
  limit := batchSize
  offset := 0

/-- `deleteTerminalWorkflowsBefore`. -/
def deleteTerminalWorkflowsBefore (client : WorkflowClient) (cutoff : Time)
    (batchSize : Int) :
    Nat → Workflows → Option (Except GoError Unit × Workflows) :=
  batchLoop client (terminalBefore cutoff batchSize) client.deleteWorkflows
    "failed to list workflows for retention"
    "failed to delete retained workflows"

/-- The listing of `cancelActiveWorkflowsBefore`, which includes the cutoff. -/
def activeBefore (status : WorkflowStatus) (cutoff : Time) (batchSize : Int) :
    ListOptions where
  statuses := [status]
  createdBefore := some cutoff
  sortDesc := false
  limit := batchSize
  offset := 0

/-- One status of `cancelActiveWorkflowsBefore`. -/
def cancelActive (client : WorkflowClient) (status : WorkflowStatus)
    (cutoff : Time) (batchSize : Int) :
    Nat → Workflows → Option (Except GoError Unit × Workflows) :=
  batchLoop client (activeBefore status cutoff batchSize)
    client.cancelWorkflows
    "failed to list workflows for the global timeout"
    "failed to cancel timed-out workflows"

/-- `cancelActiveWorkflowsBefore`: the pending ones, then the enqueued ones. -/
def cancelActiveWorkflowsBefore (client : WorkflowClient) (cutoff : Time)
    (batchSize : Int) (fuel : Nat) (workflows : Workflows) :
    Option (Except GoError Unit × Workflows) :=
  match cancelActive client .pending cutoff batchSize fuel workflows with
  | some (.ok (), workflows) =>
      cancelActive client .enqueued cutoff batchSize fuel workflows
  | failure => failure

/-- The listing of `retentionCutoff`. -/
def nthNewest (threshold : Int) : ListOptions where
  statuses := terminalStatuses
  createdBefore := none
  sortDesc := true
  limit := 1
  offset := threshold - 1

/-- `retentionCutoff`. -/
def retentionCutoff (client : WorkflowClient) (body : RetentionRequestBody)
    (workflows : Workflows) : Except GoError (Option Time) :=
  let cutoff := body.gcCutoffEpochMs.map unixMilli
  match body.gcRowsThreshold with
  | none => .ok cutoff
  | some threshold =>
      if threshold ≤ 0 then
        .error (.new "gc_rows_threshold must be positive")
      else
        match client.listWorkflows (nthNewest threshold) workflows with
        | .error error =>
            .error (error.wrap "failed to resolve the retention row threshold")
        | .ok [row] =>
            match cutoff with
            | none => .ok (some row.createdAt)
            | some limit =>
                .ok (some (if limit < row.createdAt then row.createdAt
                  else limit))
        | .ok _ => .ok cutoff

/-- `enforceRetention`. -/
def enforceRetention (client : WorkflowClient) (body : RetentionRequestBody)
    (fuel : Nat) (workflows : Workflows) :
    Option (Except GoError Unit × Workflows) :=
  match retentionBatchSize body with
  | .error error => some (.error error, workflows)
  | .ok batchSize =>
      match retentionCutoff client body workflows with
      | .error error => some (.error error, workflows)
      | .ok cutoff =>
          let collected : Option (Except GoError Unit × Workflows) :=
            match cutoff with
            | none => some (.ok (), workflows)
            | some cutoff =>
                deleteTerminalWorkflowsBefore client cutoff batchSize fuel
                  workflows
          match collected with
          | some (.ok (), workflows) =>
              match body.timeoutCutoffEpochMs with
              | none => some (.ok (), workflows)
              | some timeout =>
                  cancelActiveWorkflowsBefore client (unixMilli timeout)
                    batchSize fuel workflows
          | failure => failure

/-! ## The SDK's client -/

/--
What the SDK's client does: a listing gives the selected rows in the requested
order, ties in any, from the offset up to the limit; deleting and cancelling
change the given workflows and no others.
-/
structure Faithful (client : WorkflowClient) : Prop where
  lists : ∀ options workflows, ∃ order : List WorkflowRow,
    order.Perm (selected options workflows) ∧
      (order.map WorkflowRow.createdAt).Pairwise
        (fun first second =>
          if options.sortDesc then second ≤ first else first ≤ second) ∧
        client.listWorkflows options workflows =
          .ok ((order.drop options.offset.toNat).take options.limit.toNat)
  deletes : ∀ ids workflows, ∃ after,
    client.deleteWorkflows ids workflows = (.ok (), after) ∧
      ∀ id, after.lookup id =
        if id ∈ ids then none else workflows.lookup id
  cancels : ∀ ids workflows, ∃ after,
    client.cancelWorkflows ids workflows = (.ok (), after) ∧
      ∀ id, after.lookup id =
        if id ∈ ids then
          (workflows.lookup id).map fun workflow =>
            { workflow with status := .cancelled }
        else workflows.lookup id

/-! ## Listings -/

theorem mem_selected {options : ListOptions} {workflows : Workflows}
    {row : WorkflowRow} :
    row ∈ selected options workflows ↔
      ∃ workflow, workflows.lookup row.id = some workflow ∧
        options.selects workflow = true ∧
          workflow.createdAt = row.createdAt := by
  rw [selected, List.mem_filterMap]
  constructor
  · rintro ⟨⟨id, workflow⟩, member, given⟩
    split_ifs at given with selects
    cases given
    exact ⟨workflow, mem_entries_iff.mp member, selects, rfl⟩
  · rintro ⟨workflow, present, selects, created⟩
    refine ⟨⟨row.id, workflow⟩, mem_entries_iff.mpr present, ?_⟩
    rw [if_pos selects, created]

theorem mem_selected_ids {options : ListOptions} {workflows : Workflows}
    {id : String} :
    id ∈ (selected options workflows).map WorkflowRow.id ↔
      ∃ workflow, workflows.lookup id = some workflow ∧
        options.selects workflow = true := by
  rw [List.mem_map]
  constructor
  · rintro ⟨row, member, rfl⟩
    obtain ⟨workflow, present, selects, -⟩ := mem_selected.mp member
    exact ⟨workflow, present, selects⟩
  · rintro ⟨workflow, present, selects⟩
    exact ⟨⟨id, workflow.createdAt⟩,
      mem_selected.mpr ⟨workflow, present, selects, rfl⟩, rfl⟩

/-- No workflow is listed twice. -/
theorem nodup_selected_ids (options : ListOptions) (workflows : Workflows) :
    ((selected options workflows).map WorkflowRow.id).Nodup := by
  have sublist : ∀ entries : List ((_ : String) × Workflow),
      ((entries.filterMap fun entry =>
        if options.selects entry.2 then
          some (⟨entry.1, entry.2.createdAt⟩ : WorkflowRow)
        else none).map WorkflowRow.id).Sublist entries.keys := by
    intro entries
    induction entries with
    | nil => exact List.Sublist.slnil
    | cons entry rest induction =>
        rw [List.filterMap_cons]
        split_ifs
        · exact induction.cons_cons entry.1
        · exact induction.cons entry.1
  exact (sublist workflows.entries).nodup workflows.nodupKeys

/-! ## The loops -/

/-- The workflows after a loop has changed every selected one. -/
def changed (options : ListOptions) (change : Workflow → Option Workflow)
    (workflow : Workflow) : Option Workflow :=
  if options.selects workflow then change workflow else some workflow

/-- Writing a batch changes the given workflows and no others. -/
def Writes (write : List String → Workflows → Except GoError Unit × Workflows)
    (change : Workflow → Option Workflow) : Prop :=
  ∀ ids workflows, ∃ after, write ids workflows = (.ok (), after) ∧
    ∀ id, after.lookup id =
      if id ∈ ids then (workflows.lookup id).bind change
      else workflows.lookup id

/-- What a listing still selects after some of its rows have been written. -/
theorem selected_after_write {options : ListOptions}
    {change : Workflow → Option Workflow} {workflows after : Workflows}
    {rows rest : List WorkflowRow}
    (listed : (rows ++ rest).Perm (selected options workflows))
    (settles : ∀ {workflow result}, change workflow = some result →
      options.selects result = false)
    (written : ∀ id, after.lookup id =
      if id ∈ rows.map WorkflowRow.id then (workflows.lookup id).bind change
      else workflows.lookup id) :
    (selected options after).length ≤ rest.length := by
  have subset : (selected options after).map WorkflowRow.id ⊆
      rest.map WorkflowRow.id := by
    intro id member
    obtain ⟨workflow, present, selects⟩ := mem_selected_ids.mp member
    rw [written] at present
    split_ifs at present with isWritten
    · -- A written workflow is not selected again.
      obtain ⟨old, -, result⟩ := Option.bind_eq_some_iff.mp present
      rw [settles result] at selects
      cases selects
    · have before : id ∈ (rows ++ rest).map WorkflowRow.id := by
        rw [(listed.map WorkflowRow.id).mem_iff]
        exact mem_selected_ids.mpr ⟨workflow, present, selects⟩
      rw [List.map_append, List.mem_append] at before
      exact before.resolve_left isWritten
  have shorter := (List.subperm_of_subset (nodup_selected_ids options after)
    subset).length_le
  rwa [List.length_map, List.length_map] at shorter

/-- A loop does not change what its listing does not select. -/
theorem bind_changed_of_not_selected {options : ListOptions}
    {workflows : Workflows} {id : String} (change : Workflow → Option Workflow)
    (absent : id ∉ (selected options workflows).map WorkflowRow.id) :
    (workflows.lookup id).bind (changed options change) =
      workflows.lookup id := by
  cases present : workflows.lookup id with
  | none => rfl
  | some workflow =>
      show changed options change workflow = some workflow
      rw [changed, if_neg]
      intro selects
      exact absent (mem_selected_ids.mpr ⟨workflow, present, selects⟩)

theorem bind_changed_of_selected {options : ListOptions} {workflows : Workflows}
    {id : String} (change : Workflow → Option Workflow)
    (listed : id ∈ (selected options workflows).map WorkflowRow.id) :
    (workflows.lookup id).bind (changed options change) =
      (workflows.lookup id).bind change := by
  obtain ⟨workflow, present, selects⟩ := mem_selected_ids.mp listed
  rw [present]
  show changed options change workflow = change workflow
  rw [changed, if_pos selects]

/-- A loop with enough fuel changes every selected workflow and no other. -/
theorem batchLoop_eq {client : WorkflowClient} (faithful : Faithful client)
    {options : ListOptions} (positive : 0 < options.limit)
    (offset : options.offset = 0)
    {write : List String → Workflows → Except GoError Unit × Workflows}
    {change : Workflow → Option Workflow} (writes : Writes write change)
    (settles : ∀ {workflow result}, change workflow = some result →
      options.selects result = false)
    (listFailure writeFailure : String) {fuel : Nat} {workflows : Workflows}
    (enough : (selected options workflows).length < fuel) :
    ∃ after,
      batchLoop client options write listFailure writeFailure fuel workflows =
          some (.ok (), after) ∧
        ∀ id, after.lookup id =
          (workflows.lookup id).bind (changed options change) := by
  induction fuel generalizing workflows with
  | zero => cases enough
  | succ fuel induction =>
      obtain ⟨order, listed, -, answer⟩ := faithful.lists options workflows
      rw [offset, Int.toNat_zero, List.drop_zero] at answer
      generalize rowsEq : order.take options.limit.toNat = rows at answer
      have split : rows ++ order.drop options.limit.toNat = order := by
        rw [← rowsEq]
        exact List.take_append_drop _ order
      have unselected : ∀ {id}, id ∉ order.map WorkflowRow.id →
          (workflows.lookup id).bind (changed options change) =
            workflows.lookup id := by
        intro id absent
        rw [(listed.map WorkflowRow.id).mem_iff] at absent
        exact bind_changed_of_not_selected change absent
      have isSelected : ∀ {id}, id ∈ rows.map WorkflowRow.id →
          (workflows.lookup id).bind (changed options change) =
            (workflows.lookup id).bind change := by
        intro id member
        have inOrder : id ∈ order.map WorkflowRow.id := by
          rw [← split, List.map_append]
          exact List.mem_append_left _ member
        rw [(listed.map WorkflowRow.id).mem_iff] at inOrder
        exact bind_changed_of_selected change inOrder
      unfold batchLoop
      simp only [answer]
      by_cases none : rows = []
      · -- Nothing is listed, so nothing is selected.
        rw [if_pos none]
        refine ⟨workflows, rfl, fun id => (unselected ?_).symm⟩
        have positiveNat : options.limit.toNat ≠ 0 := by omega
        rw [none, List.take_eq_nil_iff] at rowsEq
        rw [rowsEq.resolve_left positiveNat]
        exact List.not_mem_nil
      · rw [if_neg none]
        obtain ⟨written, wrote, lookup⟩ :=
          writes (rows.map WorkflowRow.id) workflows
        simp only [wrote]
        by_cases short : (rows.length : Int) < options.limit
        · -- A short batch is all there was.
          rw [if_pos short]
          have whole : rows = order := by
            rw [← rowsEq, List.length_take] at short
            rw [← rowsEq, List.take_of_length_le]
            omega
          refine ⟨written, rfl, fun id => ?_⟩
          rw [lookup]
          split_ifs with member
          · exact (isSelected member).symm
          · rw [whole] at member
            exact (unselected member).symm
        · rw [if_neg short]
          have fewer := selected_after_write (split.symm ▸ listed) settles lookup
          have batch : rows.length = options.limit.toNat := by
            rw [← rowsEq, List.length_take] at short ⊢
            omega
          have total := congrArg List.length split
          rw [List.length_append, listed.length_eq] at total
          have fewerThanFuel : (selected options written).length < fuel := by
            omega
          obtain ⟨after, loops, result⟩ := induction fewerThanFuel
          refine ⟨after, loops, fun id => ?_⟩
          rw [result, lookup]
          split_ifs with member
          · rw [isSelected member]
            cases changes : (workflows.lookup id).bind change with
            | none => rfl
            | some workflow =>
                obtain ⟨old, -, same⟩ := Option.bind_eq_some_iff.mp changes
                show changed options change workflow = some workflow
                rw [changed, if_neg]
                rw [settles same]
                exact Bool.false_ne_true
          · rfl

/-! ## What retention is for -/

/-- Retention may delete the workflow. -/
def Workflow.terminal (workflow : Workflow) : Bool :=
  workflow.status ∈ terminalStatuses

/-- The creation times of the terminal workflows, newest first. -/
def terminalTimes (workflows : Workflows) : List Time :=
  (((workflows.entries.map Sigma.snd).filter Workflow.terminal).map
    Workflow.createdAt).insertionSort (· ≥ ·)

/--
The later of the time cutoff and the creation time of the `N`-th newest
terminal workflow.
-/
def effectiveCutoff (body : RetentionRequestBody) (workflows : Workflows) :
    Option Time :=
  let rows := body.gcRowsThreshold.bind fun threshold =>
    (terminalTimes workflows)[(threshold - 1).toNat]?
  match body.gcCutoffEpochMs.map unixMilli, rows with
  | some time, some rows => some (max time rows)
  | some time, none => some time
  | none, rows => rows

/--
What retention makes of the workflows: exactly the terminal ones created before
the effective cutoff are gone, exactly the pending and enqueued ones created at
or before the timeout are cancelled, and a rows threshold of `N` alone spares
every terminal workflow which fewer than `N` are newer than.
-/
structure Enforced (body : RetentionRequestBody) (workflows : Workflows)
    (result : String → Option Workflow) : Prop where
  deletes : ∀ {id workflow}, workflows.lookup id = some workflow →
    (result id = none ↔
      workflow.terminal = true ∧
        ∃ cutoff, effectiveCutoff body workflows = some cutoff ∧
          workflow.createdAt < cutoff)
  cancels : ∀ {id workflow}, workflows.lookup id = some workflow →
    ((workflow.status = .pending ∨ workflow.status = .enqueued) ∧
        (∃ timeout, body.timeoutCutoffEpochMs = some timeout ∧
          workflow.createdAt ≤ unixMilli timeout) →
      result id = some { workflow with status := .cancelled })
  leaves : ∀ {id workflow}, workflows.lookup id = some workflow →
    result id ≠ none →
      ¬((workflow.status = .pending ∨ workflow.status = .enqueued) ∧
          ∃ timeout, body.timeoutCutoffEpochMs = some timeout ∧
            workflow.createdAt ≤ unixMilli timeout) →
        result id = some workflow
  adds : ∀ {id}, workflows.lookup id = none → result id = none
  newest : ∀ {threshold id workflow}, body.gcCutoffEpochMs = none →
    body.gcRowsThreshold = some threshold →
      workflows.lookup id = some workflow → workflow.terminal = true →
        (((terminalTimes workflows).filter
          (workflow.createdAt < ·)).length : Int) < threshold →
          result id = some workflow

/-! ## The cutoff -/

theorem selects_nthNewest (threshold : Int) (workflow : Workflow) :
    (nthNewest threshold).selects workflow = workflow.terminal := by
  rw [ListOptions.selects]
  exact Bool.and_true _

theorem selected_nthNewest (threshold : Int) (workflows : Workflows) :
    (selected (nthNewest threshold) workflows).map WorkflowRow.createdAt =
      ((workflows.entries.map Sigma.snd).filter Workflow.terminal).map
        Workflow.createdAt := by
  unfold selected
  induction workflows.entries with
  | nil => rfl
  | cons entry rest induction =>
      rw [List.filterMap_cons, List.map_cons, List.filter_cons,
        selects_nthNewest]
      split_ifs with terminal
      · rw [List.map_cons, List.map_cons, induction]
      · exact induction

/-- A listing by creation time, newest first, has one order of its times. -/
theorem terminalTimes_eq {threshold : Int} {workflows : Workflows}
    {order : List WorkflowRow}
    (listed : order.Perm (selected (nthNewest threshold) workflows))
    (sorted : (order.map WorkflowRow.createdAt).Pairwise (· ≥ ·)) :
    order.map WorkflowRow.createdAt = terminalTimes workflows := by
  have times : (order.map WorkflowRow.createdAt).Perm
      (terminalTimes workflows) := by
    refine (listed.map WorkflowRow.createdAt).trans ?_
    rw [selected_nthNewest]
    exact (List.perm_insertionSort _ _).symm
  refine times.eq_of_pairwise ?_ sorted (List.pairwise_insertionSort _ _)
  intro first second _ _ notLess notGreater
  exact le_antisymm notGreater notLess

/-- A limit of one gives the row at the offset. -/
theorem take_one_drop {Row : Type*} (rows : List Row) (offset : Nat) :
    (rows.drop offset).take 1 = rows[offset]?.toList := by
  cases present : rows[offset]? with
  | none =>
      rw [List.drop_of_length_le (List.getElem?_eq_none_iff.mp present)]
      rfl
  | some row =>
      obtain ⟨inside, rfl⟩ := List.getElem?_eq_some_iff.mp present
      rw [List.drop_eq_getElem_cons inside]
      rfl

theorem retentionCutoff_eq {client : WorkflowClient}
    (faithful : Faithful client) {body : RetentionRequestBody}
    (positive : ∀ threshold, body.gcRowsThreshold = some threshold →
      0 < threshold) (workflows : Workflows) :
    retentionCutoff client body workflows =
      .ok (effectiveCutoff body workflows) := by
  unfold retentionCutoff effectiveCutoff
  cases given : body.gcRowsThreshold with
  | none =>
      cases body.gcCutoffEpochMs with
      | none => rfl
      | some milliseconds => rfl
  | some threshold =>
      have notPositive : ¬threshold ≤ 0 := by
        have := positive threshold given
        omega
      obtain ⟨order, listed, sorted, answer⟩ :=
        faithful.lists (nthNewest threshold) workflows
      have times := terminalTimes_eq listed sorted
      have atOffset := take_one_drop order (threshold - 1).toNat
      rw [show (nthNewest threshold).offset = threshold - 1 from rfl,
        show (nthNewest threshold).limit.toNat = 1 from rfl, atOffset] at answer
      simp only [if_neg notPositive, answer, ← times, List.getElem?_map,
        Option.bind_some]
      cases order[(threshold - 1).toNat]? with
      | none =>
          cases body.gcCutoffEpochMs with
          | none => rfl
          | some milliseconds => rfl
      | some row =>
          cases body.gcCutoffEpochMs with
          | none => rfl
          | some milliseconds =>
              simp only [Option.toList, Option.map_some]
              rw [max_def]
              split_ifs with after notAfter notBefore
              · rfl
              · exact (notAfter (le_of_lt after)).elim
              · rw [le_antisymm notBefore (not_lt.mp after)]
              · rfl

/-! ## Milliseconds -/

/-- The creation times are whole milliseconds. -/
def InMilliseconds (workflows : Workflows) : Prop :=
  ∀ id workflow, workflows.lookup id = some workflow →
    ∃ milliseconds, workflow.createdAt = unixMilli milliseconds

theorem exists_of_mem_terminalTimes {workflows : Workflows} {time : Time}
    (member : time ∈ terminalTimes workflows) :
    ∃ id workflow, workflows.lookup id = some workflow ∧
      workflow.createdAt = time := by
  rw [terminalTimes, List.mem_insertionSort] at member
  obtain ⟨workflow, filtered, created⟩ := List.mem_map.mp member
  obtain ⟨entry, among, rfl⟩ :=
    List.mem_map.mp (List.mem_of_mem_filter filtered)
  exact ⟨entry.1, entry.2, mem_entries_iff.mp among, created⟩

theorem effectiveCutoff_milliseconds {body : RetentionRequestBody}
    {workflows : Workflows} (whole : InMilliseconds workflows) {cutoff : Time}
    (effective : effectiveCutoff body workflows = some cutoff) :
    ∃ milliseconds, cutoff = unixMilli milliseconds := by
  have ofRows : ∀ {rows}, (body.gcRowsThreshold.bind fun threshold =>
      (terminalTimes workflows)[(threshold - 1).toNat]?) = some rows →
        ∃ milliseconds, rows = unixMilli milliseconds := by
    intro rows found
    obtain ⟨threshold, -, present⟩ := Option.bind_eq_some_iff.mp found
    obtain ⟨id, workflow, stored, created⟩ :=
      exists_of_mem_terminalTimes (List.mem_of_getElem? present)
    rw [← created]
    exact whole id workflow stored
  unfold effectiveCutoff at effective
  simp only at effective
  split at effective
  · rename_i time rows given found
    obtain ⟨milliseconds, -, rfl⟩ := Option.map_eq_some_iff.mp given
    cases effective
    rcases max_choice (unixMilli milliseconds) rows with same | same
    · exact ⟨milliseconds, same⟩
    · rw [same]
      exact ofRows found
  · rename_i time given found
    obtain ⟨milliseconds, -, rfl⟩ := Option.map_eq_some_iff.mp given
    cases effective
    exact ⟨milliseconds, rfl⟩
  · exact ofRows effective

/-- One millisecond before the cutoff at the latest is before the cutoff. -/
theorem selects_terminalBefore {workflow : Workflow} {cutoff : Time}
    {batchSize : Int}
    (created : ∃ milliseconds, workflow.createdAt = unixMilli milliseconds)
    (whole : ∃ milliseconds, cutoff = unixMilli milliseconds) :
    (terminalBefore cutoff batchSize).selects workflow = true ↔
      workflow.terminal = true ∧ workflow.createdAt < cutoff := by
  obtain ⟨milliseconds, createdAt⟩ := created
  obtain ⟨limit, rfl⟩ := whole
  rw [ListOptions.selects, Bool.and_eq_true]
  apply and_congr_right'
  show decide (workflow.createdAt ≤ unixMilli limit - millisecond) = true ↔ _
  rw [decide_eq_true_iff, createdAt, unixMilli, unixMilli, millisecond]
  show (milliseconds * 1000000 : Int) ≤ limit * 1000000 - 1000000 ↔
    (milliseconds * 1000000 : Int) < limit * 1000000
  omega

theorem selects_activeBefore {workflow : Workflow} {status : WorkflowStatus}
    {cutoff : Time} {batchSize : Int} :
    (activeBefore status cutoff batchSize).selects workflow = true ↔
      workflow.status = status ∧ workflow.createdAt ≤ cutoff := by
  rw [ListOptions.selects, Bool.and_eq_true]
  apply and_congr
  · exact decide_eq_true_iff.trans List.mem_singleton
  · exact decide_eq_true_iff

/-! ## The whole request -/

/-- What becomes of one workflow. -/
def kept (cutoff timeout : Option Time) (workflow : Workflow) :
    Option Workflow :=
  if workflow.terminal = true ∧ ∃ limit ∈ cutoff, workflow.createdAt < limit then
    none
  else if (workflow.status = .pending ∨ workflow.status = .enqueued) ∧
      ∃ limit ∈ timeout, workflow.createdAt ≤ limit then
    some { workflow with status := .cancelled }
  else some workflow

/-- What a request makes of the workflows, whatever its batch size. -/
def retained (body : RetentionRequestBody) (workflows : Workflows)
    (id : String) : Option Workflow :=
  (workflows.lookup id).bind
    (kept (effectiveCutoff body workflows)
      (body.timeoutCutoffEpochMs.map unixMilli))

/-- Deleting and then cancelling is what `kept` says of both. -/
theorem kept_bind_kept (cutoff timeout : Option Time) (workflow : Workflow) :
    (kept cutoff none workflow).bind (kept none timeout) =
      kept cutoff timeout workflow := by
  by_cases deleted : workflow.terminal = true ∧
      ∃ limit ∈ cutoff, workflow.createdAt < limit
  · rw [kept, if_pos deleted, kept, if_pos deleted, Option.bind_none]
  · have first : kept cutoff none workflow = some workflow := by
      rw [kept, if_neg deleted, if_neg]
      rintro ⟨-, limit, given, -⟩
      cases given
    rw [first, Option.bind_some, kept, if_neg, kept, if_neg deleted]
    rintro ⟨-, limit, given, -⟩
    cases given

/-- A listing is no longer than the table it was once taken from. -/
theorem length_selected_le (options : ListOptions)
    {workflows after : Workflows} {change : Workflow → Option Workflow}
    (lookup : ∀ id, after.lookup id = (workflows.lookup id).bind change) :
    (selected options after).length ≤ workflows.keys.length := by
  have subset : (selected options after).map WorkflowRow.id ⊆
      workflows.keys := by
    intro id member
    obtain ⟨workflow, present, -⟩ := mem_selected_ids.mp member
    rw [lookup] at present
    obtain ⟨old, before, -⟩ := Option.bind_eq_some_iff.mp present
    exact AList.mem_keys.mp
      (AList.lookup_isSome.mp (Option.isSome_of_eq_some before))
  have shorter := (List.subperm_of_subset (nodup_selected_ids options after)
    subset).length_le
  rwa [List.length_map] at shorter

section Faithful

variable {client : WorkflowClient} (faithful : Faithful client)
variable {batchSize : Int} (positive : 0 < batchSize)

include faithful positive

/-- Every terminal workflow before the cutoff is deleted. -/
theorem deleteTerminalWorkflowsBefore_eq (cutoff : Time) {fuel : Nat}
    {workflows : Workflows} (enough : workflows.keys.length < fuel) :
    ∃ after,
      deleteTerminalWorkflowsBefore client cutoff batchSize fuel workflows =
          some (.ok (), after) ∧
        ∀ id, after.lookup id =
          (workflows.lookup id).bind
            (changed (terminalBefore cutoff batchSize) fun _ => none) := by
  have writes : Writes client.deleteWorkflows fun _ => none := by
    intro ids before
    obtain ⟨after, deleted, lookup⟩ := faithful.deletes ids before
    refine ⟨after, deleted, fun id => ?_⟩
    rw [lookup, Option.bind_fun_none]
  have shorter := length_selected_le (terminalBefore cutoff batchSize)
    (fun id => (Option.bind_fun_some (workflows.lookup id)).symm)
  exact batchLoop_eq faithful positive rfl writes nofun _ _ (by omega)

/-- Every workflow of a status up to the cutoff is cancelled. -/
theorem cancelActive_eq {status : WorkflowStatus} (cutoff : Time)
    (active : status ≠ .cancelled) {fuel : Nat} (workflows : Workflows)
    (enough : ∀ options, (selected options workflows).length < fuel) :
    ∃ after,
      cancelActive client status cutoff batchSize fuel workflows =
          some (.ok (), after) ∧
        ∀ id, after.lookup id =
          (workflows.lookup id).bind
            (changed (activeBefore status cutoff batchSize) fun workflow =>
              some { workflow with status := .cancelled }) := by
  have writes : Writes client.cancelWorkflows fun workflow =>
      some { workflow with status := .cancelled } := by
    intro ids before
    obtain ⟨after, cancelled, lookup⟩ := faithful.cancels ids before
    refine ⟨after, cancelled, fun id => ?_⟩
    rw [lookup, Option.map_eq_bind]
    rfl
  refine batchLoop_eq faithful positive rfl writes ?_ _ _ (enough _)
  intro workflow result same
  cases same
  rw [← Bool.not_eq_true, selects_activeBefore]
  exact fun selects => active selects.1.symm

/-- The workflows of both statuses up to the cutoff are cancelled. -/
theorem cancelActiveWorkflowsBefore_eq (cutoff : Time) {fuel : Nat}
    {workflows : Workflows} {change : Workflow → Option Workflow}
    {original : Workflows}
    (lookup : ∀ id, workflows.lookup id = (original.lookup id).bind change)
    (enough : original.keys.length < fuel) :
    ∃ after,
      cancelActiveWorkflowsBefore client cutoff batchSize fuel workflows =
          some (.ok (), after) ∧
        ∀ id, after.lookup id =
          (workflows.lookup id).bind (kept none (some cutoff)) := by
  have pendingActive : WorkflowStatus.pending ≠ .cancelled := nofun
  have enqueuedActive : WorkflowStatus.enqueued ≠ .cancelled := nofun
  obtain ⟨middle, pendingDone, middleLookup⟩ :=
    cancelActive_eq faithful positive cutoff pendingActive workflows
      fun options =>
        lt_of_le_of_lt (length_selected_le options lookup) enough
  have middleOriginal : ∀ id, middle.lookup id =
      (original.lookup id).bind fun workflow =>
        (change workflow).bind (changed (activeBefore .pending cutoff batchSize)
          fun workflow => some { workflow with status := .cancelled }) := by
    intro id
    rw [middleLookup, lookup, Option.bind_assoc]
  obtain ⟨after, enqueuedDone, afterLookup⟩ :=
    cancelActive_eq faithful positive cutoff enqueuedActive middle
      fun options =>
        lt_of_le_of_lt (length_selected_le options middleOriginal) enough
  refine ⟨after, ?_, fun id => ?_⟩
  · unfold cancelActiveWorkflowsBefore
    simp only [pendingDone, enqueuedDone]
  · rw [afterLookup, middleLookup, Option.bind_assoc]
    congr 1
    funext workflow
    simp only [changed, kept, selects_activeBefore, Option.mem_def,
      reduceCtorEq, false_and, exists_false, and_false, if_false,
      Option.some.injEq, exists_eq_left']
    by_cases inTime : workflow.createdAt ≤ cutoff
    · rcases hStatus : workflow.status with _ | _ <;>
        simp [changed, selects_activeBefore, hStatus, inTime]
    · simp [changed, selects_activeBefore, inTime]

/-- Deleting up to a cutoff of whole milliseconds. -/
theorem collect_eq {cutoff : Option Time}
    {workflows : Workflows} (whole : InMilliseconds workflows)
    (wholeCutoff : ∀ limit, cutoff = some limit →
      ∃ milliseconds, limit = unixMilli milliseconds)
    {fuel : Nat} (enough : workflows.keys.length < fuel) :
    ∃ after,
      (match cutoff with
        | none => some (.ok (), workflows)
        | some cutoff =>
            deleteTerminalWorkflowsBefore client cutoff batchSize fuel
              workflows) = some (.ok (), after) ∧
        ∀ id, after.lookup id = (workflows.lookup id).bind (kept cutoff none) := by
  have unlimited : kept none none = some := by
    funext workflow
    simp [kept]
  cases cutoff with
  | none =>
      refine ⟨workflows, rfl, fun id => ?_⟩
      rw [unlimited, Option.bind_fun_some]
  | some limit =>
      obtain ⟨after, deleted, lookup⟩ :=
        deleteTerminalWorkflowsBefore_eq faithful positive limit enough
      refine ⟨after, deleted, fun id => ?_⟩
      rw [lookup]
      cases present : workflows.lookup id with
      | none => rfl
      | some workflow =>
          simp only [Option.bind_some, changed, kept,
            selects_terminalBefore (whole id workflow present)
              (wholeCutoff limit rfl),
            Option.mem_def, Option.some.injEq, exists_eq_left', reduceCtorEq,
            false_and, exists_false, and_false, if_false]

/-- The request with any batch size, once the cutoff is known. -/
theorem enforceRetention_eq {body : RetentionRequestBody}
    (size : retentionBatchSize body = .ok batchSize)
    (thresholdPositive : ∀ threshold, body.gcRowsThreshold = some threshold →
      0 < threshold)
    {workflows : Workflows} (whole : InMilliseconds workflows)
    {fuel : Nat} (enough : workflows.keys.length < fuel) :
    ∃ after,
      enforceRetention client body fuel workflows = some (.ok (), after) ∧
        ∀ id, after.lookup id = retained body workflows id := by
  have wholeCutoff : ∀ limit, effectiveCutoff body workflows = some limit →
      ∃ milliseconds, limit = unixMilli milliseconds :=
    fun _ => effectiveCutoff_milliseconds whole
  obtain ⟨collected, deleted, lookup⟩ :=
    collect_eq faithful positive whole wholeCutoff enough
  unfold enforceRetention
  simp only [size, retentionCutoff_eq faithful thresholdPositive, deleted]
  cases given : body.timeoutCutoffEpochMs with
  | none =>
      refine ⟨collected, rfl, fun id => ?_⟩
      rw [lookup, retained, given]
      rfl
  | some milliseconds =>
      obtain ⟨after, cancelled, afterLookup⟩ :=
        cancelActiveWorkflowsBefore_eq faithful positive
          (unixMilli milliseconds) lookup enough
      refine ⟨after, cancelled, fun id => ?_⟩
      rw [afterLookup, lookup, Option.bind_assoc, retained, given]
      simp only [kept_bind_kept, Option.map_some]

end Faithful

/-! ## Retention enforcement -/

/-- Everything up to an element of a descending list is as large. -/
theorem lt_length_filter {times : List Time} (sorted : times.Pairwise (· ≥ ·))
    {position : Nat} {cutoff time : Time}
    (present : times[position]? = some cutoff) (before : time < cutoff) :
    position < (times.filter (time < ·)).length := by
  obtain ⟨inside, same⟩ := List.getElem?_eq_some_iff.mp present
  have newer : (times.take (position + 1)).filter (time < ·) =
      times.take (position + 1) := by
    rw [List.filter_eq_self]
    intro other member
    obtain ⟨index, bound, rfl⟩ := List.mem_take_iff_getElem.mp member
    apply decide_eq_true
    refine lt_of_lt_of_le before ?_
    rw [← same]
    rcases Nat.lt_or_ge index position with earlier | notEarlier
    · exact List.pairwise_iff_getElem.mp sorted index position _ _ earlier
    · have equal : index = position := by omega
      subst equal
      exact le_refl _
  have fewer := ((List.take_sublist (position + 1) times).filter
    (time < ·)).length_le
  rw [newer, List.length_take] at fewer
  omega

theorem retained_eq_none_iff {body : RetentionRequestBody}
    {workflows : Workflows} {id : String} {workflow : Workflow}
    (present : workflows.lookup id = some workflow) :
    retained body workflows id = none ↔
      workflow.terminal = true ∧
        ∃ cutoff, effectiveCutoff body workflows = some cutoff ∧
          workflow.createdAt < cutoff := by
  rw [retained, present, Option.bind_some, kept]
  constructor
  · intro gone
    split_ifs at gone with deleted
    exact deleted
  · exact fun deleted => if_pos deleted

/-- A workflow that may be cancelled is not one that may be deleted. -/
theorem not_terminal_of_active {workflow : Workflow}
    (active : workflow.status = .pending ∨ workflow.status = .enqueued) :
    ¬workflow.terminal = true := by
  rw [Workflow.terminal, decide_eq_true_iff]
  rcases active with status | status <;> rw [status] <;> decide

theorem retained_of_active {body : RetentionRequestBody}
    {workflows : Workflows} {id : String} {workflow : Workflow}
    (present : workflows.lookup id = some workflow)
    (active : workflow.status = .pending ∨ workflow.status = .enqueued)
    {timeout : Int} (given : body.timeoutCutoffEpochMs = some timeout)
    (late : workflow.createdAt ≤ unixMilli timeout) :
    retained body workflows id =
      some { workflow with status := .cancelled } := by
  rw [retained, present, Option.bind_some, kept, if_neg, if_pos]
  · exact ⟨active, unixMilli timeout, by rw [given]; rfl, late⟩
  · exact fun deleted => not_terminal_of_active active deleted.1

theorem retained_of_not_active {body : RetentionRequestBody}
    {workflows : Workflows} {id : String} {workflow : Workflow}
    (present : workflows.lookup id = some workflow)
    (remains : retained body workflows id ≠ none)
    (untouched : ¬((workflow.status = .pending ∨ workflow.status = .enqueued) ∧
      ∃ timeout, body.timeoutCutoffEpochMs = some timeout ∧
        workflow.createdAt ≤ unixMilli timeout)) :
    retained body workflows id = some workflow := by
  rw [retained, present, Option.bind_some, kept] at remains ⊢
  split_ifs at remains with deleted active
  · exact (remains rfl).elim
  · obtain ⟨status, limit, given, late⟩ := active
    obtain ⟨timeout, same, rfl⟩ := Option.map_eq_some_iff.mp given
    exact (untouched ⟨status, timeout, same, late⟩).elim
  · rw [if_neg deleted, if_neg active]

theorem enforced_retained {body : RetentionRequestBody}
    (positive : ∀ threshold, body.gcRowsThreshold = some threshold →
      0 < threshold) (workflows : Workflows) :
    Enforced body workflows (retained body workflows) where
  deletes := retained_eq_none_iff
  cancels := by
    rintro id workflow present ⟨active, timeout, given, late⟩
    exact retained_of_active present active given late
  leaves := retained_of_not_active
  adds := by
    intro id absent
    rw [retained, absent]
    rfl
  newest := by
    intro threshold id workflow noTime given present terminal fewer
    have known : retained body workflows id ≠ none := by
      rw [Ne, retained_eq_none_iff present]
      rintro ⟨-, cutoff, effective, before⟩
      have atThreshold : (terminalTimes workflows)[(threshold - 1).toNat]? =
          some cutoff := by
        rw [effectiveCutoff, noTime, given] at effective
        exact effective
      have newer := lt_length_filter (List.pairwise_insertionSort _ _)
        atThreshold before
      have := positive threshold given
      rw [terminalTimes] at fewer
      omega
    refine retained_of_not_active present known ?_
    rintro ⟨active, -⟩
    exact not_terminal_of_active active terminal

/-- Every batch size but a negative one is accepted. -/
theorem retentionBatchSize_ok (body : RetentionRequestBody)
    (accepted : ∀ size, body.gcBatchSize = some size → 0 ≤ size) :
    ∃ batchSize, retentionBatchSize body = .ok batchSize ∧ 0 < batchSize := by
  unfold retentionBatchSize
  cases given : body.gcBatchSize with
  | none => exact ⟨defaultRetentionBatchSize, rfl, by decide⟩
  | some size =>
      have notNegative := accepted size given
      by_cases positive : 0 < size
      · refine ⟨size, ?_, positive⟩
        simp only [if_neg (not_lt.mpr notNegative), if_pos positive]
      · refine ⟨defaultRetentionBatchSize, ?_, by decide⟩
        simp only [if_neg (not_lt.mpr notNegative), if_neg positive]

/-- A rows threshold which is not positive is refused, and nothing happens. -/
theorem enforceRetention_refused (client : WorkflowClient)
    (body : RetentionRequestBody) {threshold : Int}
    (given : body.gcRowsThreshold = some threshold) (refused : threshold ≤ 0)
    (fuel : Nat) (workflows : Workflows) :
    ∃ error, enforceRetention client body fuel workflows =
      some (.error error, workflows) := by
  have noCutoff : retentionCutoff client body workflows =
      .error (.new "gc_rows_threshold must be positive") := by
    simp only [retentionCutoff, given, if_pos refused]
  unfold enforceRetention
  cases retentionBatchSize body with
  | error error => exact ⟨error, rfl⟩
  | ok batchSize =>
      simp only [noCutoff]
      exact ⟨_, rfl⟩

/--
For every request there is one outcome which all batch sizes lead to: the
workflows `Enforced` describes, or a refusal of the request which changes none.
-/
theorem enforceRetention_enforced {client : WorkflowClient}
    (faithful : Faithful client) (body : RetentionRequestBody)
    {workflows : Workflows} (whole : InMilliseconds workflows) :
    ∃ result : String → Option Workflow,
      ((∀ threshold, body.gcRowsThreshold = some threshold → 0 < threshold) →
        Enforced body workflows result) ∧
      ((∃ threshold, body.gcRowsThreshold = some threshold ∧ threshold ≤ 0) →
        result = (workflows.lookup ·)) ∧
      ∀ batchSize : Option Int, (∀ size, batchSize = some size → 0 ≤ size) →
        ∃ enough, ∀ fuel, enough ≤ fuel → ∃ answer after,
          enforceRetention client { body with gcBatchSize := batchSize } fuel
              workflows = some (answer, after) ∧
            (answer = .ok () ↔ ∀ threshold,
              body.gcRowsThreshold = some threshold → 0 < threshold) ∧
            ∀ id, after.lookup id = result id := by
  by_cases positive : ∀ threshold, body.gcRowsThreshold = some threshold →
      0 < threshold
  · refine ⟨retained body workflows, fun _ => enforced_retained positive _,
      ?_, ?_⟩
    · rintro ⟨threshold, given, refused⟩
      exact absurd (positive threshold given) (not_lt.mpr refused)
    · intro batchSize accepted
      refine ⟨workflows.keys.length + 1, fun fuel enough => ?_⟩
      obtain ⟨size, sizeEq, sizePositive⟩ := retentionBatchSize_ok
        { body with gcBatchSize := batchSize } accepted
      obtain ⟨after, done, lookup⟩ := enforceRetention_eq faithful sizePositive
        sizeEq positive whole enough
      exact ⟨.ok (), after, done, iff_of_true rfl positive, lookup⟩
  · refine ⟨(workflows.lookup ·), fun given => (positive given).elim,
      fun _ => rfl, ?_⟩
    intro batchSize accepted
    refine ⟨0, fun fuel _ => ?_⟩
    push Not at positive
    obtain ⟨threshold, given, refused⟩ := positive
    obtain ⟨error, done⟩ := enforceRetention_refused client
      { body with gcBatchSize := batchSize } given refused fuel
      workflows
    refine ⟨.error error, workflows, done, ?_, fun id => rfl⟩
    refine iff_of_false nofun fun all => ?_
    exact absurd (all threshold given) (not_lt.mpr refused)

/-- A client which sorts stably and never fails. -/
def stableClient : WorkflowClient where
  listWorkflows := fun options workflows =>
    let order := (selected options workflows).insertionSort fun first second =>
      if options.sortDesc then second.createdAt ≤ first.createdAt
      else first.createdAt ≤ second.createdAt
    .ok ((order.drop options.offset.toNat).take options.limit.toNat)
  deleteWorkflows := fun ids workflows =>
    (.ok (), ids.foldl (fun left id => left.erase id) workflows)
  cancelWorkflows := fun ids workflows =>
    (.ok (), mapValues (fun id workflow =>
      if id ∈ ids then { workflow with status := .cancelled } else workflow)
        workflows)

theorem lookup_foldl_erase (ids : List String) (workflows : Workflows)
    (id : String) :
    (ids.foldl (fun left id => left.erase id) workflows).lookup id =
      if id ∈ ids then none else workflows.lookup id := by
  induction ids generalizing workflows with
  | nil => rfl
  | cons first rest induction =>
      rw [List.foldl_cons, induction, lookup_erase_eq]
      by_cases same : id = first
      · simp [same]
      · simp [same]

theorem faithful_stableClient : Faithful stableClient where
  lists := by
    intro options workflows
    refine ⟨_, List.perm_insertionSort _ _, ?_, rfl⟩
    rw [List.pairwise_map]
    have total : Std.Total fun first second : WorkflowRow =>
        if options.sortDesc = true then second.createdAt ≤ first.createdAt
        else first.createdAt ≤ second.createdAt := by
      constructor
      intro first second
      split_ifs
      · exact le_total second.createdAt first.createdAt
      · exact le_total first.createdAt second.createdAt
    have transitive : IsTrans WorkflowRow fun first second =>
        if options.sortDesc = true then second.createdAt ≤ first.createdAt
        else first.createdAt ≤ second.createdAt := by
      constructor
      intro first second third earlier later
      split_ifs at earlier later ⊢
      · exact le_trans later earlier
      · exact le_trans earlier later
    exact List.pairwise_insertionSort _ _
  deletes := by
    intro ids workflows
    exact ⟨_, rfl, lookup_foldl_erase ids workflows⟩
  cancels := by
    intro ids workflows
    refine ⟨_, rfl, fun id => ?_⟩
    rw [lookup_mapValues]
    split_ifs
    · rfl
    · exact Option.map_id_apply

/-- Three finished workflows, two of them created at once, and a pending one. -/
def fourWorkflows : Workflows :=
  ((((∅ : Workflows).insert "a" ⟨.success, unixMilli 1⟩).insert "b"
    ⟨.error, unixMilli 2⟩).insert "c" ⟨.success, unixMilli 2⟩).insert "d"
      ⟨.pending, unixMilli 2⟩

theorem enforceRetention_enforced_fourWorkflows :
    InMilliseconds fourWorkflows ∧
      ∃ result : String → Option Workflow,
        Enforced ⟨none, some 1, none, some 2⟩ fourWorkflows result ∧
          ∀ batchSize : Option Int,
            (∀ size, batchSize = some size → 0 ≤ size) →
              ∃ enough, ∀ fuel, enough ≤ fuel → ∃ after,
                enforceRetention stableClient
                    ⟨none, some 1, batchSize, some 2⟩ fuel fourWorkflows =
                  some (.ok (), after) ∧
                ∀ id, after.lookup id = result id := by
  have whole : InMilliseconds fourWorkflows := by
    intro id workflow present
    rcases lookup_insert_cases rfl present with ⟨-, rfl⟩ | ⟨-, present⟩
    · exact ⟨2, rfl⟩
    rcases lookup_insert_cases rfl present with ⟨-, rfl⟩ | ⟨-, present⟩
    · exact ⟨2, rfl⟩
    rcases lookup_insert_cases rfl present with ⟨-, rfl⟩ | ⟨-, present⟩
    · exact ⟨2, rfl⟩
    rcases lookup_insert_cases rfl present with ⟨-, rfl⟩ | ⟨-, present⟩
    · exact ⟨1, rfl⟩
    · cases present
  have positive : ∀ threshold : Int, some 1 = some threshold →
      0 < threshold := by
    rintro threshold ⟨⟩
    exact Int.one_pos
  obtain ⟨result, enforced, -, batches⟩ := enforceRetention_enforced
    faithful_stableClient ⟨none, some 1, none, some 2⟩ whole
  refine ⟨whole, result, enforced positive, fun batchSize accepted => ?_⟩
  obtain ⟨enough, answers⟩ := batches batchSize accepted
  refine ⟨enough, fun fuel large => ?_⟩
  obtain ⟨answer, after, done, ok, lookup⟩ := answers fuel large
  rw [ok.mpr positive] at done
  exact ⟨after, done, lookup⟩

end DbosRelay.DataPlane.Retention
