import DbosRelay.Hub.Registry
import DbosRelay.Library.Runs
import Mathlib.Data.List.Rotate

/-!
# The round robin

`SelectExecutor` of `internal/hub/registry.go` sorts the identifiers of the connected
executors on every call and takes the one at the application's counter.  While
nobody connects or disconnects, consecutive calls walk through a rotation of the
sorted identifiers, so as many calls as there are connections return every
connection once.
-/

namespace DbosRelay.Hub

open DbosRelay.Basic
open DbosRelay.Library.Runs
open DbosRelay.Library.Tables

/-- Going on around a list is reading one of its rotations. -/
theorem map_getElem_mod_eq_rotate {Element : Type*} (list : List Element)
    (start : Nat) :
    (List.range list.length).map
        (fun index => list[(start + index) % list.length]?) =
      (list.rotate start).map some := by
  apply List.ext_getElem
  · rw [List.length_map, List.length_map, List.length_range,
      List.length_rotate]
  · intro index bound _
    rw [List.length_map, List.length_range] at bound
    have inside : (start + index) % list.length < list.length :=
      Nat.mod_lt _ (Nat.zero_lt_of_lt bound)
    rw [List.getElem_map, List.getElem_map, List.getElem_range,
      List.getElem_rotate, List.getElem?_eq_getElem inside]
    simp only [Nat.add_comm index start]

namespace Registry

/-! ## The connections of a registry -/

/-- What is called on a registry. -/
inductive Call where
  | register (conn : ExecutorConn)
  | unregister (conn : ExecutorConn)
  | select (appID : UUID) (excludeExecutorID : String)

/--
One call.  The hub registers a connection after `isValidIdentifier` has refused
an empty identifier.
-/
def step (registry : Registry) : Call → Option Registry
  | .register conn =>
      if conn.key.executorID = "" then none else some (registry.register conn)
  | .unregister conn => some ((registry.unregister conn).getD registry)
  | .select appID excludeExecutorID =>
      match registry.selectExecutorWithExclusion appID excludeExecutorID with
      | .error _ => some registry
      | .ok (selected, _) => some selected

/-- The connections are those some calls lead to; the counters may be any. -/
def Connected (registry : Registry) : Prop :=
  ∃ calls reached, run step newRegistry calls = some reached ∧
    reached.byApp = registry.byApp

/-- Every connection is registered under its own key, which names an executor. -/
def Keyed (registry : Registry) : Prop :=
  ∀ key conn, registry.getExecutorConn key = some conn →
    conn.key = key ∧ key.executorID ≠ ""

theorem getExecutorConn_congr {registry other : Registry}
    (same : registry.byApp = other.byApp) (key : ExecutorKey) :
    registry.getExecutorConn key = other.getExecutorConn key := by
  rw [getExecutorConn, getExecutorConn, appMap, appMap, same]

/-- A selection moves a counter, and nothing else. -/
theorem byApp_of_select {registry selected : Registry} {appID : UUID}
    {excludeExecutorID : String} {conn : ExecutorConn}
    (taken : registry.selectExecutorWithExclusion appID excludeExecutorID =
      .ok (selected, conn)) : selected.byApp = registry.byApp := by
  simp only [selectExecutorWithExclusion] at taken
  split_ifs at taken
  split at taken
  · cases taken
  · cases taken
    rfl

theorem keyed_step {registry next : Registry} {call : Call}
    (taken : registry.step call = some next) (keyed : registry.Keyed) :
    next.Keyed := by
  intro key conn present
  cases call with
  | register registered =>
      rw [step] at taken
      split_ifs at taken with unnamed
      cases taken
      rw [getExecutorConn_register] at present
      split_ifs at present with same
      · cases present
        rw [same]
        exact ⟨rfl, unnamed⟩
      · exact keyed key conn present
  | unregister removed =>
      cases taken
      cases outcome : registry.unregister removed with
      | none =>
          rw [outcome] at present
          exact keyed key conn present
      | some remaining =>
          rw [outcome, Option.getD_some,
            getExecutorConn_unregister outcome] at present
          split_ifs at present
          exact keyed key conn present
  | select appID excludeExecutorID =>
      rw [step] at taken
      split at taken
      · cases taken
        exact keyed key conn present
      · rename_i selected chosen outcome
        cases taken
        rw [getExecutorConn_congr (byApp_of_select outcome)] at present
        exact keyed key conn present

/-- The connections some calls lead to are keyed. -/
theorem Connected.keyed {registry : Registry} (connected : registry.Connected) :
    registry.Keyed := by
  obtain ⟨calls, reached, ran, same⟩ := connected
  have keyed : reached.Keyed := by
    apply run_invariant Keyed keyed_step ran
    intro key conn present
    rw [getExecutorConn_newRegistry] at present
    cases present
  intro key conn present
  rw [← getExecutorConn_congr same] at present
  exact keyed key conn present

/-! ## One selection -/

/-- The application's counter. -/
def counter (registry : Registry) (appID : UUID) : Nat :=
  (registry.rrApp.lookup appID).getD 0

/-- The registry with the counter advanced, as a `uint64`. -/
def counted (registry : Registry) (appID : UUID) : Registry :=
  { registry with
    rrApp := registry.rrApp.insert appID
      ((registry.counter appID + 1) % 2 ^ 64) }

theorem counter_counted (registry : Registry) (appID other : UUID) :
    (registry.counted appID).counter other =
      if other = appID then (registry.counter appID + 1) % 2 ^ 64
      else registry.counter other := by
  rw [counted, counter, lookup_insert_eq]
  split_ifs <;> rfl

/-- The identifiers a selection is made among. -/
def candidates (registry : Registry) (appID : UUID)
    (excludeExecutorID : String) : List String :=
  (((registry.appMap appID).entries.map Sigma.fst).filter
    fun id => id ≠ excludeExecutorID).insertionSort (· ≤ ·)

/-- The connection at a position of the candidates. -/
def pick (conns : Table String ExecutorConn) (id : Option String) :
    Except SelectError ExecutorConn :=
  match id.bind conns.lookup with
  | none => .error .noAlternative
  | some conn => .ok conn

section Selection

variable {registry : Registry} {appID : UUID} {excludeExecutorID : String}

theorem mem_candidates {id : String} :
    id ∈ registry.candidates appID excludeExecutorID ↔
      id ≠ excludeExecutorID ∧
        ∃ conn, (registry.appMap appID).lookup id = some conn := by
  rw [candidates, List.mem_insertionSort, List.mem_filter, decide_eq_true_iff,
    and_comm]
  apply and_congr_right
  intro _
  rw [List.mem_map]
  constructor
  · rintro ⟨⟨key, conn⟩, member, rfl⟩
    exact ⟨conn, mem_entries_iff.mp member⟩
  · rintro ⟨conn, present⟩
    exact ⟨⟨id, conn⟩, mem_entries_iff.mpr present, rfl⟩

/-- A selection takes the candidate at the counter, and counts it. -/
theorem select_eq (available : registry.candidates appID excludeExecutorID ≠ []) :
    ∃ id conn,
      (registry.candidates appID excludeExecutorID)[
          registry.counter appID %
            (registry.candidates appID excludeExecutorID).length]? =
        some id ∧
      (registry.appMap appID).lookup id = some conn ∧
      registry.selectExecutorWithExclusion appID excludeExecutorID =
        .ok (registry.counted appID, conn) := by
  have inside : registry.counter appID %
      (registry.candidates appID excludeExecutorID).length <
        (registry.candidates appID excludeExecutorID).length :=
    Nat.mod_lt _ (List.length_pos_iff.mpr available)
  obtain ⟨id, taken⟩ : ∃ id, (registry.candidates appID excludeExecutorID)[
      registry.counter appID %
        (registry.candidates appID excludeExecutorID).length]? =
          some id :=
    ⟨_, List.getElem?_eq_getElem inside⟩
  obtain ⟨-, conn, present⟩ :=
    mem_candidates.mp (List.mem_of_getElem? taken)
  refine ⟨id, conn, taken, present, ?_⟩
  have connected : (registry.appMap appID).entries ≠ [] := by
    intro nobody
    have member := mem_entries_iff.mpr present
    rw [nobody] at member
    cases member
  rw [candidates] at taken
  simp only [selectExecutorWithExclusion, if_neg connected]
  rw [counter] at taken
  simp only [taken, Option.bind_some, present]
  rfl

theorem mem_listConnected {conn : ExecutorConn} :
    conn ∈ registry.listConnected appID ↔
      ∃ id, (registry.appMap appID).lookup id = some conn := by
  rw [listConnected, List.mem_map]
  constructor
  · rintro ⟨⟨id, conn⟩, member, rfl⟩
    exact ⟨id, mem_entries_iff.mp member⟩
  · rintro ⟨id, present⟩
    exact ⟨⟨id, conn⟩, mem_entries_iff.mpr present, rfl⟩

/-- Without candidates there is no selection. -/
theorem candidates_ne_nil_of_select {selected : Registry} {conn : ExecutorConn}
    (taken : registry.selectExecutorWithExclusion appID excludeExecutorID =
      .ok (selected, conn)) :
    registry.candidates appID excludeExecutorID ≠ [] := by
  intro nobody
  rw [candidates] at nobody
  simp only [selectExecutorWithExclusion, nobody] at taken
  split_ifs at taken
  cases taken

/-- A selection returns a connection which is not excluded. -/
theorem Keyed.not_excluded (keyed : registry.Keyed) {selected : Registry}
    {conn : ExecutorConn}
    (taken : registry.selectExecutorWithExclusion appID excludeExecutorID =
      .ok (selected, conn)) :
    conn ∈ registry.listConnected appID ∧
      conn.key.executorID ≠ excludeExecutorID := by
  obtain ⟨id, chosen, position, present, selection⟩ :=
    select_eq (candidates_ne_nil_of_select taken)
  rw [selection] at taken
  cases taken
  obtain ⟨different, -⟩ :=
    mem_candidates.mp (List.mem_of_getElem? position)
  obtain ⟨named, -⟩ := keyed ⟨appID, id⟩ conn present
  refine ⟨mem_listConnected.mpr ⟨id, present⟩, ?_⟩
  rw [named]
  exact different

/-- A selection succeeds if somebody is not excluded. -/
theorem Keyed.select_isOk (keyed : registry.Keyed) {conn : ExecutorConn}
    (connected : conn ∈ registry.listConnected appID)
    (different : conn.key.executorID ≠ excludeExecutorID) :
    ∃ selected chosen,
      registry.selectExecutorWithExclusion appID excludeExecutorID =
        .ok (selected, chosen) := by
  obtain ⟨id, present⟩ := mem_listConnected.mp connected
  obtain ⟨named, -⟩ := keyed ⟨appID, id⟩ conn present
  have among : id ∈ registry.candidates appID excludeExecutorID := by
    rw [named] at different
    exact mem_candidates.mpr ⟨different, conn, present⟩
  obtain ⟨_, chosen, -, -, selection⟩ :=
    select_eq (List.ne_nil_of_mem among)
  exact ⟨_, chosen, selection⟩

end Selection

/-! ## Consecutive selections -/

/-- The results of calls, each after the one before it. -/
def selections (registry : Registry) : List (UUID × String) →
    List (UUID × Except SelectError ExecutorConn)
  | [] => []
  | (appID, excludeExecutorID) :: calls =>
      match registry.selectExecutorWithExclusion appID excludeExecutorID with
      | .error error => (appID, .error error) :: registry.selections calls
      | .ok (selected, conn) => (appID, .ok conn) :: selected.selections calls

/-- The results for one application. -/
def resultsFor (appID : UUID)
    (results : List (UUID × Except SelectError ExecutorConn)) :
    List (Except SelectError ExecutorConn) :=
  (results.filter fun result => result.1 = appID).map Prod.snd

section Selections

variable {registry : Registry} {appID : UUID}

/-- A successful selection advances the counter, and nothing else. -/
theorem eq_counted_of_select {excludeExecutorID : String}
    {selected : Registry} {conn : ExecutorConn}
    (taken : registry.selectExecutorWithExclusion appID excludeExecutorID =
      .ok (selected, conn)) : selected = registry.counted appID := by
  obtain ⟨_, _, -, -, selection⟩ :=
    select_eq (candidates_ne_nil_of_select taken)
  rw [selection] at taken
  cases taken
  rfl

theorem resultsFor_cons_self (appID : UUID)
    (result : Except SelectError ExecutorConn)
    (results : List (UUID × Except SelectError ExecutorConn)) :
    resultsFor appID ((appID, result) :: results) =
      result :: resultsFor appID results := by
  simp [resultsFor]

theorem resultsFor_cons_of_ne {appID other : UUID} (different : other ≠ appID)
    (result : Except SelectError ExecutorConn)
    (results : List (UUID × Except SelectError ExecutorConn)) :
    resultsFor appID ((other, result) :: results) =
      resultsFor appID results := by
  simp [resultsFor, different]

/-- A call for another application moves nothing of this one's. -/
theorem resultsFor_selections_other {other : UUID} (different : other ≠ appID)
    (excludeExecutorID : String) (calls : List (UUID × String)) :
    ∃ after : Registry, after.appMap appID = registry.appMap appID ∧
      after.candidates appID "" = registry.candidates appID "" ∧
      after.counter appID = registry.counter appID ∧
      resultsFor appID
          (registry.selections ((other, excludeExecutorID) :: calls)) =
        resultsFor appID (after.selections calls) := by
  rw [selections]
  cases selection : registry.selectExecutorWithExclusion other
      excludeExecutorID with
  | error error =>
      refine ⟨registry, rfl, rfl, rfl, ?_⟩
      dsimp only
      rw [resultsFor_cons_of_ne different]
  | ok result =>
      obtain ⟨selected, conn⟩ := result
      cases eq_counted_of_select selection
      refine ⟨registry.counted other, rfl, rfl, ?_, ?_⟩
      · rw [counter_counted, if_neg (Ne.symm different)]
      · dsimp only
        rw [resultsFor_cons_of_ne different]

/--
Calls for an application take the candidates at its counter one after the other,
whatever is called for other applications in between.
-/
theorem resultsFor_selections {conns : Table String ExecutorConn}
    {ids : List String} {number : Nat} (calls : List (UUID × String))
    (connections : registry.appMap appID = conns)
    (among : registry.candidates appID "" = ids)
    (available : number ≠ 0 → ids ≠ [])
    (consecutive : (calls.filter fun call => call.1 = appID) =
      List.replicate number (appID, ""))
    (noWrap : registry.counter appID + number ≤ 2 ^ 64) :
    resultsFor appID (registry.selections calls) =
      (List.range number).map fun index =>
        pick conns ids[(registry.counter appID + index) % ids.length]? := by
  induction calls generalizing registry number with
  | nil =>
      cases number with
      | zero => rfl
      | succ number => cases consecutive
  | cons call calls induction =>
      obtain ⟨other, excludeExecutorID⟩ := call
      by_cases same : other = appID
      · subst same
        simp only [List.filter_cons, decide_true, if_true] at consecutive
        cases number with
        | zero => cases consecutive
        | succ number =>
            rw [List.replicate_succ, List.cons.injEq, Prod.mk.injEq]
              at consecutive
            obtain ⟨⟨-, rfl⟩, consecutive⟩ := consecutive
            obtain ⟨id, conn, position, present, selection⟩ :=
              select_eq (among.symm ▸ available (Nat.succ_ne_zero number))
            have next : (registry.counted other).counter other =
                (registry.counter other + 1) % 2 ^ 64 := by
              rw [counter_counted, if_pos rfl]
            have rest :
                resultsFor other ((registry.counted other).selections calls) =
                  _ :=
              induction connections among
                (fun _ => available (Nat.succ_ne_zero number)) consecutive
                (by omega)
            rw [connections] at present
            rw [among] at position
            rw [selections, selection]
            dsimp only
            rw [resultsFor_cons_self, rest, List.range_succ_eq_map,
              List.map_cons, List.map_map, Nat.add_zero, position, next]
            congr 1
            · rw [pick, Option.bind_some, present]
            · apply List.map_congr_left
              intro index member
              have later := List.mem_range.mp member
              have position : (registry.counter other + 1) % 2 ^ 64 + index =
                  registry.counter other + (index + 1) := by
                omega
              rw [position]
              rfl
      · simp only [List.filter_cons, same, decide_false, Bool.false_eq_true,
          if_false] at consecutive
        obtain ⟨after, sameConns, sameIDs, sameCounter, results⟩ :=
          resultsFor_selections_other same excludeExecutorID calls
        rw [results, ← sameCounter]
        exact induction (sameConns.trans connections) (sameIDs.trans among)
          available consecutive (sameCounter ▸ noWrap)

/-- Nobody has the empty identifier, so nobody is excluded. -/
theorem Keyed.candidates_perm (keyed : registry.Keyed) (appID : UUID) :
    (registry.candidates appID "").Perm
      ((registry.appMap appID).entries.map Sigma.fst) := by
  have named : ((registry.appMap appID).entries.map Sigma.fst).filter
      (fun id => id ≠ "") = (registry.appMap appID).entries.map Sigma.fst := by
    rw [List.filter_eq_self]
    intro id member
    obtain ⟨⟨key, conn⟩, entry, rfl⟩ := List.mem_map.mp member
    obtain ⟨-, nonempty⟩ :=
      keyed ⟨appID, key⟩ conn (mem_entries_iff.mp entry)
    exact decide_eq_true nonempty
  rw [candidates, named]
  exact List.perm_insertionSort _ _

/-- As many calls as there are connections return every connection once. -/
theorem Keyed.resultsFor_perm (keyed : registry.Keyed)
    {calls : List (UUID × String)}
    (consecutive : (calls.filter fun call => call.1 = appID) =
      List.replicate (registry.listConnected appID).length (appID, ""))
    (noWrap : registry.counter appID +
      (registry.listConnected appID).length ≤ 2 ^ 64) :
    (resultsFor appID (registry.selections calls)).Perm
      ((registry.listConnected appID).map .ok) := by
  have among := keyed.candidates_perm appID
  have length : (registry.candidates appID "").length =
      (registry.listConnected appID).length := by
    rw [among.length_eq, listConnected, List.length_map, List.length_map]
  have available : (registry.listConnected appID).length ≠ 0 →
      registry.candidates appID "" ≠ [] := by
    rintro somebody nobody
    rw [← length, nobody] at somebody
    exact somebody rfl
  have rotated := congrArg (List.map (pick (registry.appMap appID)))
    (map_getElem_mod_eq_rotate (registry.candidates appID "")
      (registry.counter appID))
  rw [List.map_map, List.map_map] at rotated
  have found : ((registry.appMap appID).entries.map Sigma.fst).map
      (pick (registry.appMap appID) ∘ some) =
        (registry.listConnected appID).map .ok := by
    rw [List.map_map, listConnected, List.map_map]
    apply List.map_congr_left
    rintro ⟨id, conn⟩ member
    show pick (registry.appMap appID) (some id) = .ok conn
    rw [pick, Option.bind_some, mem_entries_iff.mp member]
  rw [resultsFor_selections calls rfl rfl available consecutive noWrap,
    ← length, ← found]
  refine (List.Perm.of_eq rotated).trans ?_
  exact ((List.rotate_perm _ _).map _).trans (among.map _)

end Selections

end Registry

/-! ## The round robin -/

/--
While nobody connects or disconnects, any as many consecutive calls of
`SelectExecutor` as an application has connections return every one of them once;
and an exclusion is observed, and fails for want of an alternative only.
-/
theorem roundRobin {registry : Registry} (connected : registry.Connected)
    (appID : UUID) :
    (∀ calls : List (UUID × String),
      (calls.filter fun call => call.1 = appID) =
          List.replicate (registry.listConnected appID).length (appID, "") →
        registry.counter appID +
            (registry.listConnected appID).length ≤ 2 ^ 64 →
          (Registry.resultsFor appID (registry.selections calls)).Perm
            ((registry.listConnected appID).map .ok)) ∧
      (∀ excludeExecutorID selected conn,
        registry.selectExecutorWithExclusion appID excludeExecutorID =
            .ok (selected, conn) →
          conn ∈ registry.listConnected appID ∧
            conn.key.executorID ≠ excludeExecutorID) ∧
      (∀ excludeExecutorID, ∀ conn ∈ registry.listConnected appID,
        conn.key.executorID ≠ excludeExecutorID →
          ∃ selected chosen,
            registry.selectExecutorWithExclusion appID excludeExecutorID =
              .ok (selected, chosen)) := by
  have keyed := connected.keyed
  constructor
  · intro calls consecutive noWrap
    exact keyed.resultsFor_perm consecutive noWrap
  · constructor
    · intro excludeExecutorID selected conn taken
      exact keyed.not_excluded taken
    · intro excludeExecutorID conn member different
      exact keyed.select_isOk member different

/-- Three connections of one application, and a counter which is about to wrap. -/
def threeConnected : Registry :=
  { (((newRegistry.register ⟨⟨⟨7⟩, "b"⟩, "v1", 0⟩).register
      ⟨⟨⟨7⟩, "a"⟩, "v1", 1⟩).register ⟨⟨⟨7⟩, "c"⟩, "v2", 2⟩) with
    rrApp := AList.insert ⟨7⟩ (2 ^ 64 - 3) ∅ }

theorem roundRobin_threeConnected :
    threeConnected.Connected ∧
      (Registry.resultsFor ⟨7⟩
          (threeConnected.selections
            [(⟨7⟩, ""), (⟨8⟩, "a"), (⟨7⟩, ""), (⟨7⟩, "")])).Perm
        ((threeConnected.listConnected ⟨7⟩).map .ok) ∧
      ∃ selected chosen,
        threeConnected.selectExecutorWithExclusion ⟨7⟩ "b" =
          .ok (selected, chosen) := by
  have connected : threeConnected.Connected :=
    ⟨[.register ⟨⟨⟨7⟩, "b"⟩, "v1", 0⟩, .register ⟨⟨⟨7⟩, "a"⟩, "v1", 1⟩,
      .register ⟨⟨⟨7⟩, "c"⟩, "v2", 2⟩], _, rfl, rfl⟩
  obtain ⟨fair, -, succeeds⟩ := roundRobin connected ⟨7⟩
  refine ⟨connected, fair _ rfl (by decide), ?_⟩
  exact succeeds "b" ⟨⟨⟨7⟩, "a"⟩, "v1", 1⟩ (by decide) (by decide)

end DbosRelay.Hub
