import DbosRelay.Basic
import DbosRelay.Library.Tables
import Mathlib.Data.List.Sort

/-!
# The executors table

The statements of `internal/store/queries/executors.sql` which the hub, the
lifecycle manager and the instance manager issue, each a function of the table
and of the time the database evaluates `now()` at.  A statement is atomic.
Columns which no modelled function reads (`id`, `hostname`, `metadata`) are
left out.

`Statement` collects the writing statements; `lookup_run` says what each of
them leaves under an arbitrary key.
-/

namespace DbosRelay.Store

open DbosRelay.Basic
open DbosRelay.Library.Tables

/-- The enumeration `executor_status`. -/
inductive ExecutorStatus where
  | connected
  | disconnected
  | dead
deriving DecidableEq, Repr

/-- A row of `executors`, less its key. -/
structure Executor where
  applicationVersion : String
  status : ExecutorStatus
  ownerInstanceID : Option UUID
  leaseExpiresAt : Option Time
  connectedAt : Time
  lastSeenAt : Time
  disconnectedAt : Option Time
deriving DecidableEq, Repr

/-- The table, unique in `(application_id, executor_id)`. -/
abbrev ExecutorTable := Table ExecutorKey Executor

/-! ## Registration -/

/-- The row `UpsertExecutor` leaves in place of an earlier one, if any. -/
def upsertedRow (now : Time) (applicationVersion : String)
    (ownerInstanceID : Option UUID) (leaseExpiresAt : Option Time)
    (previous : Option Executor) : Executor where
  applicationVersion := applicationVersion
  status := .connected
  ownerInstanceID := ownerInstanceID
  leaseExpiresAt := leaseExpiresAt
  -- The conflict branch does not assign `connected_at`.
  connectedAt := (previous.map Executor.connectedAt).getD now
  lastSeenAt := now
  disconnectedAt := none

/-- `UpsertExecutor`. -/
def upsertExecutor (table : ExecutorTable) (now : Time) (key : ExecutorKey)
    (applicationVersion : String) (ownerInstanceID : Option UUID)
    (leaseExpiresAt : Option Time) : ExecutorTable :=
  table.insert key
    (upsertedRow now applicationVersion ownerInstanceID leaseExpiresAt
      (table.lookup key))

theorem lookup_upsertExecutor
    (table : ExecutorTable) (now : Time) (key other : ExecutorKey)
    (applicationVersion : String) (ownerInstanceID : Option UUID)
    (leaseExpiresAt : Option Time) :
    (upsertExecutor table now key applicationVersion ownerInstanceID
        leaseExpiresAt).lookup other =
      if other = key then
        some (upsertedRow now applicationVersion ownerInstanceID
          leaseExpiresAt (table.lookup key))
      else table.lookup other :=
  lookup_insert_eq _ _ _ _

/-! ## Statements on one row -/

/-- `TouchExecutorLastSeen` on a row. -/
def Executor.touched (row : Executor) (now : Time)
    (leaseExpiresAt : Option Time) : Executor :=
  { row with lastSeenAt := now, leaseExpiresAt := leaseExpiresAt }

/-- `TouchExecutorLastSeen`. -/
def touchExecutorLastSeen (table : ExecutorTable) (now : Time)
    (key : ExecutorKey) (leaseExpiresAt : Option Time) : ExecutorTable :=
  modify table key fun row => row.touched now leaseExpiresAt

/-- `DisconnectExecutor` on a row. -/
def Executor.disconnected (row : Executor) (now : Time) : Executor :=
  { row with
    status := .disconnected
    disconnectedAt := some now
    ownerInstanceID := none
    leaseExpiresAt := none }

/-- `DisconnectExecutor`. -/
def disconnectExecutor (table : ExecutorTable) (now : Time)
    (key : ExecutorKey) : ExecutorTable :=
  modify table key fun row => row.disconnected now

/-- `SetExecutorDead` on a row. -/
def Executor.markedDead (row : Executor) : Executor :=
  { row with
    status := .dead
    ownerInstanceID := none
    leaseExpiresAt := none }

/-- `SetExecutorDead`; no result row is an error to its caller. -/
def setExecutorDead (table : ExecutorTable) (key : ExecutorKey) :
    Option ExecutorTable :=
  match table.lookup key with
  | none => none
  | some row =>
      if row.status = .dead then none
      else some (table.insert key row.markedDead)

/-- `DeleteExecutor`. -/
def deleteExecutor (table : ExecutorTable) (key : ExecutorKey) : ExecutorTable :=
  table.erase key

/-- `DeleteApplication`, what the foreign key of `executors` makes of it. -/
def deleteApplication (table : ExecutorTable) (appID : UUID) : ExecutorTable :=
  keepKeys (fun key => !decide (key.appID = appID)) table

theorem lookup_deleteApplication (table : ExecutorTable) (appID : UUID)
    (key : ExecutorKey) :
    (deleteApplication table appID).lookup key =
      if key.appID = appID then none else table.lookup key := by
  rw [deleteApplication, lookup_keepKeys]
  by_cases same : key.appID = appID
  · simp [same]
  · simp [same]

theorem setExecutorDead_eq_some
    {table marked : ExecutorTable} {key : ExecutorKey}
    (taken : setExecutorDead table key = some marked) :
    ∃ row, table.lookup key = some row ∧ row.status ≠ .dead ∧
      marked = table.insert key row.markedDead := by
  unfold setExecutorDead at taken
  split at taken
  · cases taken
  · rename_i row present
    split_ifs at taken with alreadyDead
    cases taken
    exact ⟨row, present, alreadyDead, rfl⟩

/-! ## Statements on many rows -/

/-- The `WHERE` clause of `ReapExpiredExecutors`. -/
def Executor.Reapable (row : Executor) (disconnectedBefore : Time) : Prop :=
  row.status = .disconnected ∧
    ∃ time ∈ row.disconnectedAt, time < disconnectedBefore

instance (row : Executor) (disconnectedBefore : Time) :
    Decidable (row.Reapable disconnectedBefore) :=
  inferInstanceAs (Decidable (_ ∧ ∃ time ∈ row.disconnectedAt, _))

/-- `ReapExpiredExecutors` on a row: only the status is assigned. -/
def Executor.reaped (row : Executor) (disconnectedBefore : Time) : Executor :=
  if row.Reapable disconnectedBefore then { row with status := .dead }
  else row

/-- `ReapExpiredExecutors`. -/
def reapExpiredExecutors (table : ExecutorTable)
    (disconnectedBefore : Time) : ExecutorTable :=
  mapValues (fun _ row => row.reaped disconnectedBefore) table

/-- The `WHERE` clause of `AdoptExpiredExecutors`. -/
def Executor.Adoptable (row : Executor) (now : Time) (adopter : UUID) : Prop :=
  row.status = .connected ∧
    row.ownerInstanceID ≠ some adopter ∧
    (∀ lease ∈ row.leaseExpiresAt, lease < now)

instance (row : Executor) (now : Time) (adopter : UUID) :
    Decidable (row.Adoptable now adopter) :=
  inferInstanceAs (Decidable (_ ∧ _ ∧ ∀ lease ∈ row.leaseExpiresAt, _))

/-- `AdoptExpiredExecutors` on a row. -/
def Executor.adopted (row : Executor) (now : Time) (adopter : UUID)
    (leaseExpiresAt : Option Time) : Executor :=
  if row.Adoptable now adopter then
    { row with
      ownerInstanceID := some adopter
      leaseExpiresAt := leaseExpiresAt }
  else row

/-- The table `AdoptExpiredExecutors` leaves. -/
def adoptExpiredExecutors (table : ExecutorTable) (now : Time)
    (adopter : UUID) (leaseExpiresAt : Option Time) : ExecutorTable :=
  mapValues (fun _ row => row.adopted now adopter leaseExpiresAt) table

/-- The executors `AdoptExpiredExecutors` returns, with their versions. -/
def adoptedExecutors (table : ExecutorTable) (now : Time)
    (adopter : UUID) : List (ExecutorKey × String) :=
  (table.entries.filter fun entry => entry.2.Adoptable now adopter).map
    fun entry => (entry.1, entry.2.applicationVersion)

/-! ## Listing -/

/-- `ORDER BY disconnected_at ASC`, missing values last. -/
def Executor.DisconnectedNoLater (first second : Executor) : Prop :=
  match first.disconnectedAt, second.disconnectedAt with
  | _, none => True
  | none, some _ => False
  | some earlier, some later => earlier ≤ later

instance : DecidableRel Executor.DisconnectedNoLater := fun first second =>
  match firstAt : first.disconnectedAt, secondAt : second.disconnectedAt with
  | _, none => isTrue (by simp [Executor.DisconnectedNoLater, secondAt])
  | none, some _ =>
      isFalse (by simp [Executor.DisconnectedNoLater, firstAt, secondAt])
  | some earlier, some later =>
      decidable_of_iff (earlier ≤ later)
        (by simp [Executor.DisconnectedNoLater, firstAt, secondAt])

/-- `ListDeadExecutorsByApplication`. -/
def listDeadExecutorsByApplication (table : ExecutorTable) (appID : UUID) :
    List (ExecutorKey × Executor) :=
  ((table.entries.filter fun entry =>
      entry.1.appID = appID ∧ entry.2.status = .dead).map
    fun entry => (entry.1, entry.2)).insertionSort
      fun first second => first.2.DisconnectedNoLater second.2

/-- The listing is exactly the dead rows of the application. -/
theorem mem_listDeadExecutorsByApplication
    {table : ExecutorTable} {appID : UUID} {key : ExecutorKey} {row : Executor} :
    (key, row) ∈ listDeadExecutorsByApplication table appID ↔
      table.lookup key = some row ∧ key.appID = appID ∧ row.status = .dead := by
  unfold listDeadExecutorsByApplication
  rw [List.mem_insertionSort, List.mem_map, ← mem_entries_iff]
  constructor
  · rintro ⟨⟨entryKey, entryRow⟩, member, same⟩
    cases same
    simpa using member
  · rintro ⟨member, sameApp, isDead⟩
    exact ⟨⟨key, row⟩, by simpa using ⟨member, sameApp, isDead⟩, rfl⟩

theorem mem_adoptedExecutors
    {table : ExecutorTable} {now : Time} {adopter : UUID}
    {key : ExecutorKey} {version : String} :
    (key, version) ∈ adoptedExecutors table now adopter ↔
      ∃ row, table.lookup key = some row ∧ row.Adoptable now adopter ∧
        row.applicationVersion = version := by
  unfold adoptedExecutors
  rw [List.mem_map]
  constructor
  · rintro ⟨⟨entryKey, entryRow⟩, member, same⟩
    cases same
    rw [List.mem_filter, mem_entries_iff] at member
    exact ⟨entryRow, member.1, by simpa using member.2, rfl⟩
  · rintro ⟨row, present, adoptable, rfl⟩
    exact ⟨⟨key, row⟩,
      List.mem_filter.mpr ⟨mem_entries_iff.mpr present, by simpa using adoptable⟩,
      rfl⟩

theorem adoptedExecutors_nodup
    (table : ExecutorTable) (now : Time) (adopter : UUID) :
    ((adoptedExecutors table now adopter).map Prod.fst).Nodup := by
  rw [adoptedExecutors, List.map_map]
  exact List.Nodup.sublist (List.filter_sublist.map Sigma.fst) table.nodupKeys

/-! ## Statements as data -/

/-- The writing statements with their parameters. -/
inductive Statement where
  | upsertExecutor (key : ExecutorKey) (applicationVersion : String)
      (ownerInstanceID : Option UUID) (leaseExpiresAt : Option Time)
  | touchExecutorLastSeen (key : ExecutorKey) (leaseExpiresAt : Option Time)
  | disconnectExecutor (key : ExecutorKey)
  | setExecutorDead (key : ExecutorKey)
  | deleteExecutor (key : ExecutorKey)
  | reapExpiredExecutors (disconnectedBefore : Time)
  | adoptExpiredExecutors (ownerInstanceID : UUID)
      (leaseExpiresAt : Option Time)
deriving DecidableEq, Repr

/-- Execute a statement at the time `now()` evaluates to. -/
def Statement.run (now : Time) (table : ExecutorTable) :
    Statement → ExecutorTable
  | .upsertExecutor key applicationVersion ownerInstanceID leaseExpiresAt =>
      Store.upsertExecutor table now key applicationVersion ownerInstanceID
        leaseExpiresAt
  | .touchExecutorLastSeen key leaseExpiresAt =>
      Store.touchExecutorLastSeen table now key leaseExpiresAt
  | .disconnectExecutor key => Store.disconnectExecutor table now key
  | .setExecutorDead key => (Store.setExecutorDead table key).getD table
  | .deleteExecutor key => Store.deleteExecutor table key
  | .reapExpiredExecutors disconnectedBefore =>
      Store.reapExpiredExecutors table disconnectedBefore
  | .adoptExpiredExecutors ownerInstanceID leaseExpiresAt =>
      Store.adoptExpiredExecutors table now ownerInstanceID leaseExpiresAt

/-- Every statement acts on each row by itself. -/
def Statement.rowAfter (now : Time) (key : ExecutorKey)
    (row : Option Executor) : Statement → Option Executor
  | .upsertExecutor target applicationVersion ownerInstanceID
      leaseExpiresAt =>
      if key = target then
        some (upsertedRow now applicationVersion ownerInstanceID
          leaseExpiresAt row)
      else row
  | .touchExecutorLastSeen target leaseExpiresAt =>
      if key = target then row.map fun old => old.touched now leaseExpiresAt
      else row
  | .disconnectExecutor target =>
      if key = target then row.map fun old => old.disconnected now else row
  | .setExecutorDead target =>
      if key = target then
        row.map fun old => if old.status = .dead then old else old.markedDead
      else row
  | .deleteExecutor target => if key = target then none else row
  | .reapExpiredExecutors disconnectedBefore =>
      row.map fun old => old.reaped disconnectedBefore
  | .adoptExpiredExecutors ownerInstanceID leaseExpiresAt =>
      row.map fun old => old.adopted now ownerInstanceID leaseExpiresAt

theorem lookup_setExecutorDead
    (table : ExecutorTable) (target key : ExecutorKey) :
    ((setExecutorDead table target).getD table).lookup key =
      if key = target then
        (table.lookup key).map fun old =>
          if old.status = .dead then old else old.markedDead
      else table.lookup key := by
  cases marked : setExecutorDead table target with
  | none =>
      rw [Option.getD_none]
      split_ifs with same
      · subst same
        rw [setExecutorDead] at marked
        cases present : table.lookup key with
        | none => rfl
        | some row =>
            rw [present] at marked
            dsimp only at marked
            split_ifs at marked with alreadyDead
            simp [alreadyDead]
      · rfl
  | some after =>
      rcases setExecutorDead_eq_some marked with
        ⟨row, present, notDead, rfl⟩
      rw [Option.getD_some, lookup_insert_eq]
      split_ifs with same
      · rw [same, present]
        simp [notDead]
      · rfl

theorem lookup_run
    (statement : Statement) (now : Time) (table : ExecutorTable)
    (key : ExecutorKey) :
    (statement.run now table).lookup key =
      statement.rowAfter now key (table.lookup key) := by
  cases statement with
  | upsertExecutor target version owner lease =>
      rw [Statement.run, Statement.rowAfter, lookup_upsertExecutor]
      split_ifs with same
      · rw [same]
      · rfl
  | touchExecutorLastSeen target lease =>
      rw [Statement.run, Statement.rowAfter, touchExecutorLastSeen,
        lookup_modify_eq]
      split_ifs with same
      · rw [same]
      · rfl
  | disconnectExecutor target =>
      rw [Statement.run, Statement.rowAfter, disconnectExecutor,
        lookup_modify_eq]
      split_ifs with same
      · rw [same]
      · rfl
  | setExecutorDead target =>
      exact lookup_setExecutorDead table target key
  | deleteExecutor target =>
      exact lookup_erase_eq table target key
  | reapExpiredExecutors disconnectedBefore =>
      exact lookup_mapValues _ table key
  | adoptExpiredExecutors adopter lease =>
      exact lookup_mapValues _ table key

end DbosRelay.Store
