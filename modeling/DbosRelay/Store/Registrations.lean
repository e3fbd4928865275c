import DbosRelay.Store.Executors
import Mathlib.Data.List.Induction

/-!
# Registration histories

A history is the list of the writing statements on the executors table, each
with the time `now()` evaluates to.  An executor registers with
`UpsertExecutor`; what its registrations say about it is when it was registered
first and with which version last, both since its row was last deleted.  The
table holds this of every executor: its `connected_at` is the first time.
-/

namespace DbosRelay.Store

open DbosRelay.Basic
open DbosRelay.Library.Tables

/-- `ListExecutorsByApplication`, latest connection first. -/
def listExecutorsByApplication (table : ExecutorTable) (appID : UUID) :
    List Executor :=
  ((table.entries.filter fun entry => entry.1.appID = appID).map
    fun entry => entry.2).insertionSort
      fun first second => second.connectedAt ≤ first.connectedAt

theorem mem_listExecutorsByApplication
    {table : ExecutorTable} {appID : UUID} {row : Executor} :
    row ∈ listExecutorsByApplication table appID ↔
      ∃ key, table.lookup key = some row ∧ key.appID = appID := by
  unfold listExecutorsByApplication
  rw [List.mem_insertionSort, List.mem_map]
  constructor
  · rintro ⟨⟨key, entryRow⟩, member, same⟩
    rw [List.mem_filter, mem_entries_iff] at member
    exact ⟨key, same ▸ member.1, by simpa using member.2⟩
  · rintro ⟨key, present, sameApp⟩
    exact ⟨⟨key, row⟩,
      List.mem_filter.mpr ⟨mem_entries_iff.mpr present, by simpa using sameApp⟩,
      rfl⟩

/-! ## Histories -/

/-- A statement, and the time the database evaluates `now()` at. -/
structure Execution where
  now : Time
  statement : Statement
deriving DecidableEq, Repr

/-- The table a history leaves. -/
def tableAfter (history : List Execution) : ExecutorTable :=
  history.foldl
    (fun table execution => execution.statement.run execution.now table) ∅

theorem tableAfter_append (history : List Execution) (execution : Execution) :
    tableAfter (history ++ [execution]) =
      execution.statement.run execution.now (tableAfter history) :=
  List.foldl_concat _ _ _ _

/-- What the registrations of an executor say about it. -/
structure Registered where
  firstAt : Time
  version : String
deriving DecidableEq, Repr

/-- Registered first before, or at the same time with the lesser version. -/
def Registered.Before (first second : Registered) : Prop :=
  first.firstAt < second.firstAt ∨
    first.firstAt = second.firstAt ∧ first.version < second.version

/-- What a statement does to it. -/
def Registered.step (key : ExecutorKey) (registered : Option Registered)
    (execution : Execution) : Option Registered :=
  match execution.statement with
  | .upsertExecutor target applicationVersion _ _ =>
      if key = target then
        some ⟨(registered.map Registered.firstAt).getD execution.now,
          applicationVersion⟩
      else registered
  | .deleteExecutor target => if key = target then none else registered
  | _ => registered

/-- What a history says about an executor. -/
def registeredBy (history : List Execution) (key : ExecutorKey) :
    Option Registered :=
  history.foldl (Registered.step key) none

theorem registeredBy_append (history : List Execution) (execution : Execution)
    (key : ExecutorKey) :
    registeredBy (history ++ [execution]) key =
      Registered.step key (registeredBy history key) execution :=
  List.foldl_concat _ _ _ _

/-- What a row says about its executor. -/
def Executor.registered (row : Executor) : Registered :=
  ⟨row.connectedAt, row.applicationVersion⟩

/-- A change of some rows which leaves what they say leaves it for all. -/
theorem registered_comp_ite {changes : Executor → Prop}
    [DecidablePred changes] {first second : Executor → Executor}
    (firstKeeps : ∀ row, (first row).registered = row.registered)
    (secondKeeps : ∀ row, (second row).registered = row.registered) :
    (Executor.registered ∘ fun row =>
      if changes row then first row else second row) = Executor.registered := by
  ext row : 1
  show Executor.registered (if _ then _ else _) = _
  split_ifs
  · exact firstKeeps row
  · exact secondKeeps row

/-- Only registrations and deletions change what a row says. -/
theorem map_registered_rowAfter (key : ExecutorKey) (row : Option Executor)
    (execution : Execution) :
    (execution.statement.rowAfter execution.now key row).map
        Executor.registered =
      Registered.step key (row.map Executor.registered) execution := by
  obtain ⟨now, statement⟩ := execution
  cases statement with
  | upsertExecutor target version owner lease =>
      simp only [Statement.rowAfter, Registered.step, apply_ite (Option.map _),
        Option.map_map]
      rfl
  | touchExecutorLastSeen target lease =>
      simp only [Statement.rowAfter, Registered.step, apply_ite (Option.map _),
        Option.map_map]
      exact ite_self _
  | disconnectExecutor target =>
      simp only [Statement.rowAfter, Registered.step, apply_ite (Option.map _),
        Option.map_map]
      exact ite_self _
  | setExecutorDead target =>
      have kept : Executor.registered ∘ (fun old : Executor =>
          if old.status = .dead then old else old.markedDead) =
            Executor.registered :=
        registered_comp_ite (fun _ => rfl) fun _ => rfl
      simp only [Statement.rowAfter, Registered.step, apply_ite (Option.map _),
        Option.map_map, kept]
      exact ite_self _
  | deleteExecutor target =>
      simp only [Statement.rowAfter, Registered.step, apply_ite (Option.map _),
        Option.map_none]
  | reapExpiredExecutors disconnectedBefore =>
      simp only [Statement.rowAfter, Registered.step, Option.map_map]
      congr 1
      exact registered_comp_ite (fun _ => rfl) fun _ => rfl
  | adoptExpiredExecutors adopter lease =>
      simp only [Statement.rowAfter, Registered.step, Option.map_map]
      congr 1
      exact registered_comp_ite (fun _ => rfl) fun _ => rfl

/-- The table says of every executor what its history says. -/
theorem lookup_tableAfter (history : List Execution) (key : ExecutorKey) :
    ((tableAfter history).lookup key).map Executor.registered =
      registeredBy history key := by
  induction history using List.reverseRecOn with
  | nil => rfl
  | append_singleton earlier execution induction =>
      rw [tableAfter_append, registeredBy_append, lookup_run,
        map_registered_rowAfter, induction]

/-! ## Registrations of an application -/

/-- The executor and the version, when a statement registers one with a version. -/
def Execution.registration (appID : UUID) (execution : Execution) :
    Option (ExecutorKey × String) :=
  match execution.statement with
  | .upsertExecutor key applicationVersion _ _ =>
      if key.appID = appID ∧ applicationVersion ≠ "" then
        some (key, applicationVersion)
      else none
  | _ => none

/-- The most recent registration of an application which had a version. -/
def lastRegistration (appID : UUID) (history : List Execution) :
    Option (ExecutorKey × String) :=
  (history.filterMap (Execution.registration appID)).getLast?

theorem registration_eq_some {appID : UUID} {execution : Execution}
    {key : ExecutorKey} {version : String}
    (registers : execution.registration appID = some (key, version)) :
    (∃ owner lease,
        execution.statement = .upsertExecutor key version owner lease) ∧
      key.appID = appID ∧ version ≠ "" := by
  unfold Execution.registration at registers
  split at registers
  · rename_i owner lease isUpsert
    split_ifs at registers with versioned
    cases registers
    exact ⟨⟨owner, lease, isUpsert⟩, versioned⟩
  · cases registers

theorem lastRegistration_spec {appID : UUID} {history : List Execution}
    {key : ExecutorKey} {version : String}
    (last : lastRegistration appID history = some (key, version)) :
    key.appID = appID ∧ version ≠ "" := by
  obtain ⟨execution, -, registers⟩ :=
    List.mem_filterMap.mp (List.mem_of_getLast? last)
  exact (registration_eq_some registers).2

theorem lastRegistration_append (appID : UUID) (history : List Execution)
    (execution : Execution) :
    lastRegistration appID (history ++ [execution]) =
      (execution.registration appID).or (lastRegistration appID history) := by
  unfold lastRegistration
  rw [List.filterMap_append, List.getLast?_append]
  cases registers : execution.registration appID with
  | none => rw [List.filterMap_cons_none registers]; rfl
  | some registration => rw [List.filterMap_cons_some registers]; rfl

/-! ## Histories without registering again -/

/--
The times increase, and every registration of the application with a version
inserts a row.
-/
inductive Inserting (appID : UUID) : List Execution → Prop where
  | nil : Inserting appID []
  | append {earlier : List Execution} {execution : Execution}
      (inserting : Inserting appID earlier)
      (later : ∀ before ∈ earlier, before.now < execution.now)
      (inserts : ∀ key version,
        execution.registration appID = some (key, version) →
          registeredBy earlier key = none) :
      Inserting appID (earlier ++ [execution])

theorem mem_of_firstAt {history : List Execution} {key : ExecutorKey}
    {registered : Registered}
    (isRegistered : registeredBy history key = some registered) :
    ∃ execution ∈ history, execution.now = registered.firstAt := by
  induction history using List.reverseRecOn generalizing registered with
  | nil => cases isRegistered
  | append_singleton earlier execution induction =>
      rw [registeredBy_append] at isRegistered
      have before (found : registeredBy earlier key = some registered) :
          ∃ member ∈ earlier ++ [execution],
            member.now = registered.firstAt := by
        obtain ⟨member, isMember, same⟩ := induction found
        exact ⟨member, List.mem_append_left _ isMember, same⟩
      unfold Registered.step at isRegistered
      split at isRegistered
      · split_ifs at isRegistered with isKey
        · cases isRegistered
          cases found : registeredBy earlier key with
          | none =>
              exact ⟨execution, List.mem_append_right _ (List.mem_singleton_self _),
                rfl⟩
          | some old =>
              obtain ⟨member, isMember, same⟩ := induction found
              exact ⟨member, List.mem_append_left _ isMember, same⟩
        · exact before isRegistered
      · split_ifs at isRegistered
        exact before isRegistered
      · exact before isRegistered

/-- A version which stays after another statement has been there before. -/
theorem eq_of_step_eq_some {appID : UUID} {key : ExecutorKey}
    (sameApp : key.appID = appID) {before : Option Registered}
    {execution : Execution}
    (other : execution.registration appID = none)
    {registered : Registered}
    (after : Registered.step key before execution = some registered)
    (versioned : registered.version ≠ "") : before = some registered := by
  unfold Execution.registration at other
  unfold Registered.step at after
  split at after
  · rename_i target version owner lease isUpsert
    rw [isUpsert] at other
    dsimp only at other
    split_ifs at after with isKey
    · subst isKey
      cases after
      rw [if_pos ⟨sameApp, versioned⟩] at other
      cases other
    · exact after
  · split_ifs at after
    exact after
  · exact after

/-- In such a history the last registration is the one made latest. -/
theorem Inserting.firstAt_lt {appID : UUID} {history : List Execution}
    (inserting : Inserting appID history) {key : ExecutorKey}
    {version : String}
    (last : lastRegistration appID history = some (key, version))
    {registered : Registered}
    (isRegistered : registeredBy history key = some registered)
    (unchanged : registered.version = version)
    {other : ExecutorKey} {rival : Registered} (sameApp : other.appID = appID)
    (isRival : registeredBy history other = some rival)
    (rivalVersioned : rival.version ≠ "") (different : other ≠ key) :
    rival.firstAt < registered.firstAt := by
  induction inserting with
  | nil => cases last
  | @append earlier execution inserting later inserts induction =>
      have versioned := (lastRegistration_spec last).2
      rw [lastRegistration_append] at last
      rw [registeredBy_append] at isRegistered isRival
      cases registers : execution.registration appID with
      | none =>
          rw [registers, Option.none_or] at last
          have keyApp := (lastRegistration_spec last).1
          exact induction last
            (eq_of_step_eq_some keyApp registers isRegistered
              (unchanged ▸ versioned))
            (eq_of_step_eq_some sameApp registers isRival rivalVersioned)
      | some registration =>
          rw [registers, Option.some_or, Option.some.injEq] at last
          subst last
          have absent := inserts key version registers
          obtain ⟨⟨owner, lease, isUpsert⟩, -⟩ := registration_eq_some registers
          simp only [Registered.step, isUpsert, if_neg different] at isRival
          simp only [Registered.step, isUpsert, if_pos, absent,
            Option.map_none, Option.getD_none, Option.some.injEq] at isRegistered
          subst isRegistered
          obtain ⟨before, member, same⟩ := mem_of_firstAt isRival
          rw [← same]
          exact later before member

end DbosRelay.Store
