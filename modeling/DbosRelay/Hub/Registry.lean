import DbosRelay.Basic
import DbosRelay.Library.Tables
import Mathlib.Data.List.Sort

/-!
# The connection registry

`internal/hub/registry.go`: the executor connections of one instance, by
application and executor, and the round-robin counter of each application.
-/

namespace DbosRelay.Hub

open DbosRelay.Basic
open DbosRelay.Library.Tables

/--
A pointer to an `ExecutorConn`: the fields which never change, and a number
which tells it from every other connection.
-/
structure ExecutorConn where
  key : ExecutorKey
  applicationVersion : String
  serial : Nat
deriving DecidableEq, Repr

/-- The maps `Registry.mu` protects. -/
structure Registry where
  byApp : Table UUID (Table String ExecutorConn)
  rrApp : Table UUID Nat

/-- `NewRegistry`. -/
def newRegistry : Registry where
  byApp := ∅
  rrApp := ∅

namespace Registry

/-- The connections of one application. -/
def appMap (registry : Registry) (appID : UUID) :
    Table String ExecutorConn :=
  (registry.byApp.lookup appID).getD ∅

/-- `GetExecutorConn`. -/
def getExecutorConn (registry : Registry) (key : ExecutorKey) :
    Option ExecutorConn :=
  (registry.appMap key.appID).lookup key.executorID

/-- `Register`; the connection it replaces is closed by its caller's goroutine. -/
def register (registry : Registry) (conn : ExecutorConn) : Registry :=
  { registry with
    byApp :=
      registry.byApp.insert conn.key.appID
        ((registry.appMap conn.key.appID).insert conn.key.executorID conn) }

/--
`Unregister` up to the release of its lock.  `none` is the result `false`: the
connection is not the registered one.
-/
def unregister (registry : Registry) (conn : ExecutorConn) :
    Option Registry :=
  if registry.getExecutorConn conn.key = some conn then
    let remaining :=
      (registry.appMap conn.key.appID).erase conn.key.executorID
    if remaining.entries = [] then
      some
        { byApp := registry.byApp.erase conn.key.appID
          rrApp := registry.rrApp.erase conn.key.appID }
    else
      some
        { registry with
          byApp := registry.byApp.insert conn.key.appID remaining }
  else none

/-- The two errors of `SelectExecutorWithExclusion`. -/
inductive SelectError where
  | noExecutors
  | noAlternative
deriving DecidableEq, Repr

/-- The text of a selection error. -/
def SelectError.message : SelectError → String
  | .noExecutors => "no executors available for application"
  | .noAlternative => "no alternative executors available"

/--
`SelectExecutorWithExclusion`: the executor at the application's counter among
the sorted identifiers, and the registry with the counter advanced as a
`uint64`.
-/
def selectExecutorWithExclusion (registry : Registry) (appID : UUID)
    (excludeExecutorID : String) :
    Except SelectError (Registry × ExecutorConn) :=
  let conns := registry.appMap appID
  if conns.entries = [] then .error .noExecutors
  else
    let ids :=
      ((conns.entries.map Sigma.fst).filter
        fun id => id ≠ excludeExecutorID).insertionSort (· ≤ ·)
    let index := (registry.rrApp.lookup appID).getD 0
    match (ids[index % ids.length]?).bind conns.lookup with
    | none => .error .noAlternative
    | some conn =>
        .ok
          ({ registry with
              rrApp := registry.rrApp.insert appID ((index + 1) % 2 ^ 64) },
            conn)

/-- `SelectExecutor`. -/
def selectExecutor (registry : Registry) (appID : UUID) :
    Except SelectError (Registry × ExecutorConn) :=
  registry.selectExecutorWithExclusion appID ""

/-- `ListConnected`. -/
def listConnected (registry : Registry) (appID : UUID) :
    List ExecutorConn :=
  (registry.appMap appID).entries.map Sigma.snd

/-! ## The registered connection after an update -/

theorem appMap_insert
    (registry : Registry) (appID other : UUID)
    (conns : Table String ExecutorConn) :
    ({ registry with byApp := registry.byApp.insert appID conns } :
        Registry).appMap other =
      if other = appID then conns else registry.appMap other := by
  simp only [appMap, lookup_insert_eq]
  split_ifs <;> rfl

theorem getExecutorConn_register
    (registry : Registry) (conn : ExecutorConn) (other : ExecutorKey) :
    (registry.register conn).getExecutorConn other =
      if other = conn.key then some conn
      else registry.getExecutorConn other := by
  generalize sameKey : conn.key = key
  rw [getExecutorConn, register, sameKey, appMap_insert]
  by_cases sameApp : other.appID = key.appID
  · rw [if_pos sameApp, lookup_insert_eq]
    by_cases sameExecutor : other.executorID = key.executorID
    · have same : other = key := by
        cases other
        cases key
        simp_all
      rw [if_pos sameExecutor, if_pos same]
    · have different : other ≠ key := by
        intro same
        exact sameExecutor (congrArg ExecutorKey.executorID same)
      rw [if_neg sameExecutor, if_neg different, getExecutorConn, sameApp]
  · have different : other ≠ key := by
      intro same
      exact sameApp (congrArg ExecutorKey.appID same)
    rw [if_neg sameApp, if_neg different, getExecutorConn]

/-- A successful `Unregister` removes the registered connection and no other. -/
theorem getExecutorConn_unregister
    {registry removed : Registry} {conn : ExecutorConn}
    (taken : registry.unregister conn = some removed)
    (other : ExecutorKey) :
    removed.getExecutorConn other =
      if other = conn.key then none
      else registry.getExecutorConn other := by
  simp only [unregister] at taken
  generalize conn.key = key at taken ⊢
  have remainingLookup :
      ((registry.appMap key.appID).erase key.executorID).lookup
          other.executorID =
        if other.executorID = key.executorID then none
        else (registry.appMap key.appID).lookup other.executorID :=
    lookup_erase_eq _ _ _
  have splitKey :
      other = key ↔
        other.appID = key.appID ∧ other.executorID = key.executorID := by
    cases other
    cases key
    simp
  split_ifs at taken with registered isEmpty
  · cases taken
    have nothingRemains :
        ((registry.appMap key.appID).erase key.executorID).lookup
          other.executorID = none := by
      have empty : (registry.appMap key.appID).erase key.executorID = ∅ := by
        apply AList.ext
        simpa using isEmpty
      rw [empty]
      simp
    simp only [getExecutorConn, appMap, lookup_erase_eq]
    by_cases sameApp : other.appID = key.appID
    · rw [if_pos sameApp]
      rw [nothingRemains] at remainingLookup
      split_ifs with same
      · simp
      · have sameExecutor : other.executorID ≠ key.executorID := by
          intro sameExecutor
          exact same (splitKey.mpr ⟨sameApp, sameExecutor⟩)
        rw [if_neg sameExecutor] at remainingLookup
        rw [sameApp]
        simpa [appMap] using remainingLookup
    · have different : other ≠ key := by
        intro same
        exact sameApp (splitKey.mp same).1
      rw [if_neg sameApp, if_neg different]
  · cases taken
    rw [getExecutorConn, appMap_insert]
    by_cases sameApp : other.appID = key.appID
    · rw [if_pos sameApp, remainingLookup, getExecutorConn, sameApp]
      by_cases sameExecutor : other.executorID = key.executorID
      · rw [if_pos sameExecutor, if_pos (splitKey.mpr ⟨sameApp, sameExecutor⟩)]
      · have different : other ≠ key := by
          intro same
          exact sameExecutor (splitKey.mp same).2
        rw [if_neg sameExecutor, if_neg different]
    · have different : other ≠ key := by
        intro same
        exact sameApp (splitKey.mp same).1
      rw [if_neg sameApp, if_neg different, getExecutorConn]

theorem getExecutorConn_of_unregister
    {registry removed : Registry} {conn : ExecutorConn}
    (taken : registry.unregister conn = some removed) :
    registry.getExecutorConn conn.key = some conn := by
  simp only [unregister] at taken
  split_ifs at taken with registered isEmpty
  · exact registered
  · exact registered

@[simp]
theorem getExecutorConn_newRegistry (key : ExecutorKey) :
    newRegistry.getExecutorConn key = none := by
  simp [getExecutorConn, appMap, newRegistry]

end Registry

end DbosRelay.Hub
