import DbosRelay.Api.AutoscaleEndpoints
import DbosRelay.Library.Paging
import Mathlib.Data.Finset.Card

/-!
# The backlog of a queue

`listQueuedBacklog` of `internal/api/autoscale.go` lists the queued workflows of a
queue and then the pending ones, by pages of a thousand, and counts them by
version.  A listing ends with its first page which is not full, so whether it ends
is up to the executors.  If they honour the paging, the counts are those of the
distinct workflows.
-/

namespace DbosRelay.Api

open DbosRelay.Library.Paging
open DbosRelay.Library.Tables
open DbosRelay.Router

/-! ## `listQueuedBacklog` -/

/-- The fields of `ListWorkflowsRequestBody` which are set. -/
structure ListWorkflowsRequestBody where
  status : List String
  queueName : List String
  limit : Option Nat
  offset : Option Nat
  queuesOnly : Bool
deriving DecidableEq, Repr

/-- The fields of `ListWorkflowsResponseBody` which a filter or the count reads. -/
structure ListWorkflowsResponseBody where
  workflowUUID : String
  status : Option String
  queueName : Option String
  applicationVersion : Option String
deriving DecidableEq, Repr

/-- `ListWorkflowsResponse`. -/
structure ListWorkflowsResponse where
  errorMessage : Option String
  output : List ListWorkflowsResponseBody
deriving DecidableEq, Repr

/--
What the router answers, by the number of the call and the body of the request;
`none` is a message of another type.
-/
abbrev Executors :=
  Nat → ListWorkflowsRequestBody →
    Except RouterError (Option ListWorkflowsResponse)

/-- `page`. -/
def page : Nat := 1000

/-- `queries`. -/
def queries (queue : String) : List ListWorkflowsRequestBody :=
  [{ status := []
     queueName := [queue]
     limit := none
     offset := none
     queuesOnly := true },
   { status := ["PENDING"]
     queueName := [queue]
     limit := none
     offset := none
     queuesOnly := false }]

/-- The rows of an answer, or the error it ends the listing with. -/
def readPage (answer : Except RouterError (Option ListWorkflowsResponse)) :
    Except QueueError (List ListWorkflowsResponseBody) :=
  match answer with
  | .error error => .error (.dispatch error)
  | .ok none => .error (.validation "unexpected response type from router")
  | .ok (some resp) =>
      match resp.errorMessage.filter (· ≠ "") with
      | some message =>
          .error (.validation ("list queued workflows failed: " ++ message))
      | none => .ok resp.output

/-- What has been counted. -/
structure Counted where
  seen : List String
  depths : Depths

/-- The version a workflow is counted under. -/
def ListWorkflowsResponseBody.version (wf : ListWorkflowsResponseBody) :
    String :=
  wf.applicationVersion.getD ""

/-- Count a workflow, unless it has been counted. -/
def Counted.add (counted : Counted) (wf : ListWorkflowsResponseBody) : Counted :=
  if wf.workflowUUID ∈ counted.seen then counted
  else
    { seen := wf.workflowUUID :: counted.seen
      depths :=
        counted.depths.insert wf.version (counted.depths.at wf.version + 1) }

/--
The loop over the pages of a query, with the count and the number of the next call.
It runs out of fuel if it takes more pages.  The offset is an `int`; it counts rows
which have been received.
-/
def listPages (executors : Executors) (base : ListWorkflowsRequestBody) :
    Nat → Nat → Nat → Counted → Option (Except QueueError (Counted × Nat))
  | 0, _, _, _ => none
  | fuel + 1, call, offset, counted =>
      match readPage (executors call
          { base with limit := some page, offset := some offset }) with
      | .error error => some (.error error)
      | .ok output =>
          let counted := output.foldl Counted.add counted
          if output.length < page then some (.ok (counted, call + 1))
          else listPages executors base fuel (call + 1) (offset + page) counted

/-- The loop over the queries. -/
def listQueries (executors : Executors) (fuel : Nat) :
    List ListWorkflowsRequestBody → Nat → Counted →
      Option (Except QueueError Counted)
  | [], _, counted => some (.ok counted)
  | base :: rest, call, counted =>
      match listPages executors base fuel call 0 counted with
      | none => none
      | some (.error error) => some (.error error)
      | some (.ok (counted, call)) => listQueries executors fuel rest call counted

/-- `listQueuedBacklog`, which takes no more than `fuel` pages of a query. -/
def listQueuedBacklog (executors : Executors) (queue : String) (fuel : Nat) :
    Option (Except QueueError Depths) :=
  (listQueries executors fuel (queries queue) 0 ⟨[], ∅⟩).map
    (Except.map Counted.depths)

/-! ## The pages of a query -/

section Pages

variable (executors : Executors) (base : ListWorkflowsRequestBody) (call : Nat)

/-- A page of the query, if its first page is read by the given call. -/
def pageRead (number : Nat) :
    Except QueueError (List ListWorkflowsResponseBody) :=
  readPage (executors (call + number)
    { base with limit := some page, offset := some (number * page) })

/-- The page does not end the loop. -/
def IsFull (number : Nat) : Prop :=
  ∃ output, pageRead executors base call number = .ok output ∧
    page ≤ output.length

/-- The rows of a page. -/
def pageRows (number : Nat) : List ListWorkflowsResponseBody :=
  (pageRead executors base call number).toOption.getD []

variable {executors base call}

/-- The loop goes on past full pages. -/
theorem listPages_of_full {count : Nat}
    (full : ∀ number < count, IsFull executors base call number)
    (fuel : Nat) (counted : Counted) :
    listPages executors base (fuel + count) call 0 counted =
      listPages executors base fuel (call + count) (count * page)
        (((List.range count).flatMap (pageRows executors base call)).foldl
          Counted.add counted) := by
  induction count generalizing fuel with
  | zero => rw [Nat.zero_mul]; rfl
  | succ count induction =>
      obtain ⟨output, read, long⟩ := full count (Nat.lt_succ_self count)
      have rows : pageRows executors base call count = output := by
        rw [pageRows, read]
        rfl
      have next := induction
        (fun number before => full number (Nat.lt_succ_of_lt before)) (fuel + 1)
      rw [Nat.add_right_comm] at next
      rw [← Nat.add_assoc, next, listPages]
      unfold pageRead at read
      rw [read]
      show (if _ then _ else _) = _
      rw [if_neg (not_lt.mpr long), List.range_succ, List.flatMap_append,
        List.flatMap_singleton, List.foldl_append, rows, Nat.add_mul,
        Nat.one_mul]
      rfl

/-- The rows of the first pages. -/
def firstRows (executors : Executors) (base : ListWorkflowsRequestBody)
    (call count : Nat) : List ListWorkflowsResponseBody :=
  (List.range count).flatMap (pageRows executors base call)

/-- The loop takes more pages than there is fuel for. -/
theorem listPages_eq_none {fuel : Nat}
    (full : ∀ number < fuel, IsFull executors base call number)
    (counted : Counted) :
    listPages executors base fuel call 0 counted = none := by
  have run := listPages_of_full full 0 counted
  rw [Nat.zero_add] at run
  exact run

/-- The loop ends with an error at its last page. -/
theorem listPages_error {last fuel : Nat} {error : QueueError}
    (full : ∀ number < last, IsFull executors base call number)
    (failed : pageRead executors base call last = .error error)
    (enough : last < fuel) (counted : Counted) :
    listPages executors base fuel call 0 counted = some (.error error) := by
  obtain ⟨rest, rfl⟩ := Nat.exists_eq_add_of_lt enough
  have run := listPages_of_full full (rest + 1) counted
  unfold pageRead at failed
  rw [listPages, failed] at run
  rw [Nat.add_assoc, Nat.add_comm, run]

/-- The loop ends with the rows of its pages counted. -/
theorem listPages_ok {last fuel : Nat}
    {output : List ListWorkflowsResponseBody}
    (full : ∀ number < last, IsFull executors base call number)
    (read : pageRead executors base call last = .ok output)
    (short : output.length < page) (enough : last < fuel) (counted : Counted) :
    listPages executors base fuel call 0 counted =
      some (.ok ((firstRows executors base call (last + 1)).foldl Counted.add
        counted, call + last + 1)) := by
  obtain ⟨rest, rfl⟩ := Nat.exists_eq_add_of_lt enough
  have run := listPages_of_full full (rest + 1) counted
  have rows : pageRows executors base call last = output := by
    rw [pageRows, read]
    rfl
  unfold pageRead at read
  rw [listPages, read] at run
  rw [Nat.add_assoc, Nat.add_comm, run, firstRows, List.range_succ,
    List.flatMap_append, List.flatMap_singleton, List.foldl_append, rows]
  exact if_pos short

end Pages

/-! ## Termination -/

/--
Every query in turn gets a page which is not full; an error ends the listing at
once.  The number of the first call of the first query is given.
-/
def Completes (executors : Executors) :
    List ListWorkflowsRequestBody → Nat → Prop
  | [], _ => True
  | base :: rest, call =>
      ∃ last, (∀ number < last, IsFull executors base call number) ∧
        ((∃ error, pageRead executors base call last = .error error) ∨
          (∃ output, pageRead executors base call last = .ok output ∧
            output.length < page) ∧
          Completes executors rest (call + last + 1))

/-- A page which is not full is an error or short. -/
theorem not_isFull_iff {executors : Executors} {base : ListWorkflowsRequestBody}
    {call number : Nat} :
    ¬IsFull executors base call number ↔
      (∃ error, pageRead executors base call number = .error error) ∨
        ∃ output, pageRead executors base call number = .ok output ∧
          output.length < page := by
  unfold IsFull
  cases pageRead executors base call number with
  | error error => simp
  | ok output => simp

/-- With enough fuel the listing ends if every query does. -/
theorem listQueries_of_completes {executors : Executors}
    {bases : List ListWorkflowsRequestBody} {call : Nat}
    (completes : Completes executors bases call) :
    ∃ bound, ∀ fuel, bound < fuel → ∀ counted,
      ∃ result, listQueries executors fuel bases call counted = some result := by
  induction bases generalizing call with
  | nil => exact ⟨0, fun fuel _ counted => ⟨.ok counted, rfl⟩⟩
  | cons base rest induction =>
      obtain ⟨last, full, ⟨error, failed⟩ | ⟨⟨output, read, short⟩, others⟩⟩ :=
        completes
      · refine ⟨last, fun fuel enough counted => ⟨.error error, ?_⟩⟩
        rw [listQueries, listPages_error full failed enough]
      · obtain ⟨bound, ends⟩ := induction others
        refine ⟨max last bound, fun fuel enough counted => ?_⟩
        rw [listQueries, listPages_ok full read short
          (lt_of_le_of_lt (le_max_left _ _) enough)]
        exact ends fuel (lt_of_le_of_lt (le_max_right _ _) enough) _

/-- A listing which ends has completed every query or failed. -/
theorem completes_of_listQueries {executors : Executors}
    {bases : List ListWorkflowsRequestBody} {call fuel : Nat}
    {counted : Counted} {result : Except QueueError Counted}
    (run : listQueries executors fuel bases call counted = some result) :
    Completes executors bases call := by
  induction bases generalizing call counted with
  | nil => trivial
  | cons base rest induction =>
      have ended : ∃ number, ¬IsFull executors base call number := by
        by_contra endless
        rw [listQueries, listPages_eq_none fun number _ =>
          not_not.mp (not_exists.mp endless number)] at run
        cases run
      classical
      let last := Nat.find ended
      have full : ∀ number < last, IsFull executors base call number :=
        fun number before => not_not.mp (Nat.find_min ended before)
      have enough : last < fuel := by
        by_contra short
        rw [listQueries, listPages_eq_none fun number before =>
          full number (lt_of_lt_of_le before (not_lt.mp short))] at run
        cases run
      refine ⟨last, full, ?_⟩
      rcases not_isFull_iff.mp (Nat.find_spec ended) with failed |
        ⟨output, read, short⟩
      · exact Or.inl failed
      · rw [listQueries, listPages_ok full read short enough] at run
        exact Or.inr ⟨⟨output, read, short⟩, induction run⟩

theorem terminates_iff {executors : Executors} {queue : String} :
    (∃ fuel result, listQueuedBacklog executors queue fuel = some result) ↔
      Completes executors (queries queue) 0 := by
  constructor
  · rintro ⟨fuel, result, run⟩
    obtain ⟨counted, listed, -⟩ := Option.map_eq_some_iff.mp run
    exact completes_of_listQueries listed
  · intro completes
    obtain ⟨bound, ends⟩ := listQueries_of_completes completes
    obtain ⟨result, run⟩ := ends (bound + 1) (Nat.lt_succ_self bound) ⟨[], ∅⟩
    refine ⟨bound + 1, result.map Counted.depths, ?_⟩
    rw [listQueuedBacklog, run]
    rfl

/-! ## Counting -/

/-- An entry of the map of depths. -/
def tally (count : Nat) : Option Int64 :=
  if count = 0 then none else some (Int64.ofNat count)

theorem tally_succ (count : Nat) :
    tally (count + 1) = some ((tally count).getD 0 + 1) := by
  unfold tally
  rw [if_neg (Nat.succ_ne_zero count), Int64.ofNat_add]
  split_ifs with none
  · rw [none]
    rfl
  · rfl

/-- How many distinct workflows of a version are in a listing. -/
def distinctOf (rows : Finset ListWorkflowsResponseBody) (version : String) :
    Nat :=
  (rows.filter fun wf => wf.version = version).card

/-- The listing has been counted. -/
structure Counts (rows : Finset ListWorkflowsResponseBody)
    (counted : Counted) : Prop where
  seen : ∀ id, id ∈ counted.seen ↔ ∃ wf ∈ rows, wf.workflowUUID = id
  depths : ∀ version,
    counted.depths.lookup version = tally (distinctOf rows version)

section Counting

variable {workflows rows : Finset ListWorkflowsResponseBody}
variable {counted : Counted}

/-- A workflow which has been counted changes nothing, another one its version. -/
theorem Counts.add {wf : ListWorkflowsResponseBody}
    (once : Set.InjOn ListWorkflowsResponseBody.workflowUUID
      (insert wf rows : Finset ListWorkflowsResponseBody))
    (counts : Counts rows counted) :
    Counts (insert wf rows) (counted.add wf) := by
  unfold Counted.add
  split_ifs with seen
  · obtain ⟨other, member, same⟩ := (counts.seen _).mp seen
    have equal := once (Finset.mem_coe.mpr (Finset.mem_insert_of_mem member))
      (Finset.mem_coe.mpr (Finset.mem_insert_self wf rows)) same
    rw [Finset.insert_eq_of_mem (equal ▸ member)]
    exact counts
  · have fresh : wf ∉ rows := by
      intro member
      exact seen ((counts.seen _).mpr ⟨wf, member, rfl⟩)
    constructor
    · intro id
      rw [List.mem_cons, counts.seen, Finset.exists_mem_insert, eq_comm]
    · intro version
      rw [lookup_insert_eq]
      split_ifs with same
      · have more : distinctOf (insert wf rows) version =
            distinctOf rows version + 1 := by
          unfold distinctOf
          rw [Finset.filter_insert, if_pos same.symm,
            Finset.card_insert_of_notMem]
          exact fun member => fresh (Finset.mem_of_mem_filter _ member)
        rw [more, tally_succ, Depths.at, ← same, counts.depths]
      · have before : distinctOf (insert wf rows) version =
            distinctOf rows version := by
          unfold distinctOf
          rw [Finset.filter_insert, if_neg (Ne.symm same)]
        rw [before, counts.depths]

/-- Rows of one set of workflows are counted by identifier. -/
theorem Counts.foldl {listed : List ListWorkflowsResponseBody}
    (once : Set.InjOn ListWorkflowsResponseBody.workflowUUID
      (rows ∪ listed.toFinset : Finset ListWorkflowsResponseBody))
    (counts : Counts rows counted) :
    Counts (rows ∪ listed.toFinset) (listed.foldl Counted.add counted) := by
  induction listed generalizing rows counted with
  | nil =>
      rw [List.toFinset_nil, Finset.union_empty]
      exact counts
  | cons wf listed induction =>
      have regrouped : rows ∪ (wf :: listed).toFinset =
          insert wf rows ∪ listed.toFinset := by
        rw [List.toFinset_cons, Finset.union_insert, Finset.insert_union]
      rw [regrouped] at once ⊢
      apply induction once
      apply counts.add
      exact once.mono (Finset.coe_subset.mpr Finset.subset_union_left)

end Counting

/-! ## Executors which honour the paging -/

/-- The filters of a request; `queued` is what `queues_only` means to executors. -/
def selects (queued : ListWorkflowsResponseBody → Bool)
    (body : ListWorkflowsRequestBody) (wf : ListWorkflowsResponseBody) : Bool :=
  (!body.queuesOnly || queued wf) &&
    (body.queueName = [] || wf.queueName.any (· ∈ body.queueName)) &&
    (body.status = [] || wf.status.any (· ∈ body.status))

/-- A request is answered with a page of an unchanging listing. -/
structure Honours (executors : Executors)
    (queued : ListWorkflowsResponseBody → Bool)
    (workflows : Finset ListWorkflowsResponseBody) : Prop where
  once : Set.InjOn ListWorkflowsResponseBody.workflowUUID workflows
  listing : ∀ base, ∃ rows : List ListWorkflowsResponseBody,
    rows.toFinset = workflows.filter (fun wf => selects queued base wf) ∧
      ∀ call limit offset,
        readPage (executors call
            { base with limit := some limit, offset := some offset }) =
          .ok ((rows.drop offset).take limit)

/-- How many workflows of a version wait for the queue or run from it. -/
def backlogOf (queued : ListWorkflowsResponseBody → Bool)
    (workflows : Finset ListWorkflowsResponseBody) (queue version : String) :
    Nat :=
  (workflows.filter fun wf =>
    wf.queueName = some queue ∧
      (queued wf = true ∨ wf.status = some "PENDING") ∧
      wf.version = version).card

section Honoured

variable {executors : Executors} {queued : ListWorkflowsResponseBody → Bool}
variable {workflows : Finset ListWorkflowsResponseBody}

theorem page_pos : 0 < page := by
  decide

/-- The loop counts the rows of a listing whose paging is honoured. -/
theorem listPages_of_honoured {base : ListWorkflowsRequestBody}
    {rows : List ListWorkflowsResponseBody} {call fuel : Nat}
    (honoured : ∀ call limit offset,
      readPage (executors call
          { base with limit := some limit, offset := some offset }) =
        .ok ((rows.drop offset).take limit))
    (enough : rows.length / page < fuel) (counted : Counted) :
    listPages executors base fuel call 0 counted =
      some (.ok (rows.foldl Counted.add counted,
        call + rows.length / page + 1)) := by
  have read : ∀ number, pageRead executors base call number =
      .ok (pageOf page rows number) :=
    fun number => honoured (call + number) page (number * page)
  obtain ⟨full, short⟩ := @pageOf_last _ page rows page_pos
  have listed : firstRows executors base call (rows.length / page + 1) =
      rows := by
    have pages : pageRows executors base call = pageOf page rows := by
      funext number
      rw [pageRows, read]
      rfl
    rw [firstRows, pages]
    exact flatMap_pageOf_of_short short
  have run := listPages_ok
    (fun number before => ⟨_, read number, not_lt.mp (full number before)⟩)
    (read (rows.length / page)) short enough counted
  rw [listed] at run
  exact run

/-- A workflow is selected by one of the queries if it waits or runs. -/
theorem selects_queries {wf : ListWorkflowsResponseBody} {queue : String} :
    (∃ base ∈ queries queue, selects queued base wf = true) ↔
      wf.queueName = some queue ∧
        (queued wf = true ∨ wf.status = some "PENDING") := by
  unfold queries selects
  cases wf.queueName <;> cases wf.status <;> simp <;> tauto

/-- The workflows which one of the queries selects. -/
def selectedBy (queued : ListWorkflowsResponseBody → Bool)
    (workflows : Finset ListWorkflowsResponseBody)
    (bases : List ListWorkflowsRequestBody) :
    Finset ListWorkflowsResponseBody :=
  workflows.filter fun wf => ∃ base ∈ bases, selects queued base wf = true

theorem selectedBy_cons (base : ListWorkflowsRequestBody)
    (bases : List ListWorkflowsRequestBody) :
    selectedBy queued workflows (base :: bases) =
      workflows.filter (fun wf => selects queued base wf) ∪
        selectedBy queued workflows bases := by
  unfold selectedBy
  rw [← Finset.filter_or]
  apply Finset.filter_congr
  intro wf _
  simp only [List.mem_cons, exists_eq_or_imp]

/-- Every query adds the workflows it selects. -/
theorem listQueries_of_honours (honours : Honours executors queued workflows)
    (bases : List ListWorkflowsRequestBody) :
    ∃ bound, ∀ fuel, bound < fuel → ∀ rows ⊆ workflows, ∀ call counted,
      Counts rows counted →
        ∃ result,
          listQueries executors fuel bases call counted = some (.ok result) ∧
            Counts (rows ∪ selectedBy queued workflows bases) result := by
  induction bases with
  | nil =>
      refine ⟨0, fun fuel _ rows _ call counted counts => ⟨counted, rfl, ?_⟩⟩
      have none : selectedBy queued workflows [] = ∅ := by
        simp [selectedBy]
      rw [none, Finset.union_empty]
      exact counts
  | cons base rest induction =>
      obtain ⟨bound, ends⟩ := induction
      obtain ⟨listing, selected, honoured⟩ := honours.listing base
      refine ⟨max (listing.length / page) bound,
        fun fuel enough rows known call counted counts => ?_⟩
      have within : rows ∪ listing.toFinset ⊆ workflows := by
        rw [selected]
        exact Finset.union_subset known (Finset.filter_subset _ _)
      rw [listQueries, listPages_of_honoured honoured
        (lt_of_le_of_lt (le_max_left _ _) enough), selectedBy_cons, ← selected,
        ← Finset.union_assoc]
      apply ends fuel (lt_of_le_of_lt (le_max_right _ _) enough) _ within
      apply counts.foldl
      exact honours.once.mono (Finset.coe_subset.mpr within)

theorem distinctOf_selectedBy (queue version : String) :
    distinctOf (selectedBy queued workflows (queries queue)) version =
      backlogOf queued workflows queue version := by
  unfold distinctOf selectedBy backlogOf
  rw [Finset.filter_filter]
  congr 1
  apply Finset.filter_congr
  intro wf _
  rw [selects_queries, and_assoc]

/-- A listing whose paging is honoured counts the backlog of every version. -/
theorem listQueuedBacklog_of_honours
    (honours : Honours executors queued workflows) (queue : String) :
    ∃ fuel depths, listQueuedBacklog executors queue fuel = some (.ok depths) ∧
      ∀ version, depths.lookup version =
        tally (backlogOf queued workflows queue version) := by
  obtain ⟨bound, ends⟩ := listQueries_of_honours honours (queries queue)
  have nothing : Counts ∅ ⟨[], ∅⟩ := by
    constructor
    · simp
    · intro version
      rfl
  obtain ⟨result, run, counts⟩ := ends (bound + 1) (Nat.lt_succ_self bound) ∅
    (Finset.empty_subset _) 0 _ nothing
  refine ⟨bound + 1, result.depths, ?_, ?_⟩
  · rw [listQueuedBacklog, run]
    rfl
  · intro version
    rw [counts.depths, Finset.empty_union, distinctOf_selectedBy]

end Honoured

/-- Executors which page through the workflows in one order. -/
def pagingExecutors (queued : ListWorkflowsResponseBody → Bool)
    (workflows : List ListWorkflowsResponseBody) : Executors :=
  fun _ body =>
    let rows := (workflows.filter (selects queued body)).drop
      (body.offset.getD 0)
    .ok (some ⟨none, rows.take (body.limit.getD rows.length)⟩)

theorem honours_pagingExecutors {queued : ListWorkflowsResponseBody → Bool}
    {workflows : List ListWorkflowsResponseBody}
    (once : Set.InjOn ListWorkflowsResponseBody.workflowUUID
      workflows.toFinset) :
    Honours (pagingExecutors queued workflows) queued workflows.toFinset := by
  refine ⟨once, fun base => ⟨workflows.filter (selects queued base), ?_, ?_⟩⟩
  · rw [List.toFinset_filter]
  · intro call limit offset
    rfl

/-! ## The property -/

/-- Executors answer with workflows of the set, whatever they were asked. -/
def RepliesFrom (executors : Executors)
    (workflows : Finset ListWorkflowsResponseBody) : Prop :=
  ∀ call body resp, executors call body = .ok (some resp) →
    ∀ wf ∈ resp.output, wf ∈ workflows

/-- The listing ends, and counts the backlog if the paging is honoured. -/
structure BacklogListed (executors : Executors)
    (queued : ListWorkflowsResponseBody → Bool)
    (workflows : Finset ListWorkflowsResponseBody) (queue : String) : Prop where
  ends : ∃ fuel result, listQueuedBacklog executors queue fuel = some result
  counted : Honours executors queued workflows →
    ∃ fuel depths, listQueuedBacklog executors queue fuel = some (.ok depths) ∧
      ∀ version, depths.lookup version =
        tally (backlogOf queued workflows queue version)

/--
The backlog is listed if and only if the executors answer every query, sooner or
later, with an error or with fewer rows than a page has.
-/
theorem backlogListed_iff {executors : Executors}
    {queued : ListWorkflowsResponseBody → Bool}
    {workflows : Finset ListWorkflowsResponseBody} {queue : String} :
    BacklogListed executors queued workflows queue ↔
      Completes executors (queries queue) 0 := by
  rw [← terminates_iff]
  constructor
  · exact BacklogListed.ends
  · intro ends
    exact ⟨ends, fun honours => listQueuedBacklog_of_honours honours queue⟩

/-- A thousand workflows of one queue. -/
def thousand : List ListWorkflowsResponseBody :=
  (List.range 1000).map fun number =>
    { workflowUUID := String.ofList (List.replicate number 'w')
      status := some "ENQUEUED"
      queueName := some "jobs"
      applicationVersion := some "v1" }

/-- Executors which have not heard of limits and offsets. -/
def unpagedExecutors (workflows : List ListWorkflowsResponseBody) : Executors :=
  fun _ _ => .ok (some ⟨none, workflows⟩)

theorem length_thousand : thousand.length = page := by
  rw [thousand, List.length_map, List.length_range, page]

theorem repliesFrom_unpagedExecutors
    (workflows : List ListWorkflowsResponseBody) :
    RepliesFrom (unpagedExecutors workflows) workflows.toFinset := by
  rintro call body resp ⟨⟩ wf member
  exact List.mem_toFinset.mpr member

/-- Executors which ignore the offset keep a listing of a full page going. -/
theorem unpagedExecutors_endless {workflows : List ListWorkflowsResponseBody}
    (long : page ≤ workflows.length) (queue : String) (fuel : Nat) :
    listQueuedBacklog (unpagedExecutors workflows) queue fuel = none := by
  by_contra ended
  obtain ⟨result, run⟩ := Option.ne_none_iff_exists'.mp ended
  obtain ⟨last, -, ⟨error, failed⟩ | ⟨⟨output, read, short⟩, -⟩⟩ :=
    terminates_iff.mp ⟨fuel, result, run⟩
  · cases failed
  · cases read
    exact absurd long (not_le.mpr short)

/-- A thousand workflows and executors which ignore the offset keep it going. -/
theorem listQueuedBacklog_unpagedExecutors :
    Set.InjOn ListWorkflowsResponseBody.workflowUUID thousand.toFinset ∧
      RepliesFrom (unpagedExecutors thousand) thousand.toFinset ∧
      ∀ fuel, listQueuedBacklog (unpagedExecutors thousand) "jobs" fuel = none := by
  refine ⟨?_, ?_, ?_⟩
  · intro first firstMember second secondMember same
    obtain ⟨one, -, rfl⟩ := List.mem_map.mp (List.mem_toFinset.mp firstMember)
    obtain ⟨two, -, rfl⟩ := List.mem_map.mp (List.mem_toFinset.mp secondMember)
    have lengths := congrArg (fun id => id.toList.length) same
    simp only [String.toList_ofList, List.length_replicate] at lengths
    rw [lengths]
  · exact repliesFrom_unpagedExecutors thousand
  · exact unpagedExecutors_endless (le_of_eq length_thousand.symm) "jobs"

end DbosRelay.Api
