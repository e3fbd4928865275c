import DbosRelay.Applications.Settings
import DbosRelay.Library.Runs

/-!
# Concurrent writers of an application's settings

The row of one application, and any number of running operations on it.  An
operation of the API reads the row in one statement and writes it in another.
`Apply` does both in one transaction, which at the default isolation sees and
overwrites what others commit in between; its write counts from its commit, up to
which it holds the row's lock.  `RegisterApp` only writes.

An operation is asked to change some keys.  The settings are `Framed` if they are
what the completed operations were asked for, one after the other, and otherwise
what they were.  No lock and no version keeps them so, nor do the types the
operations write through.  They are framed in every run all of whose writes are
`Faithful`: the row still is what was read, and the operation's type holds it.
-/

namespace DbosRelay.Applications

open DbosRelay.Declarative
open DbosRelay.Library.GoJson
open DbosRelay.Library.Runs
open DbosRelay.Library.Tables

/-! ## The statements -/

/-- `UpdateApplicationSettings`, which fails where there is no row. -/
def updateApplicationSettings (row : Option Settings) (settings : Settings) :
    Option Settings :=
  row.map fun _ => settings

/-- `CreateApplication`, which fails where there is one. -/
def createApplication (row : Option Settings) (settings : Settings) :
    Option Settings :=
  if row.isSome then none else some settings

/-- `UpsertApplication`. -/
def upsertApplication (_ : Option Settings) (settings : Settings) :
    Option Settings :=
  some settings

/-! ## The operations -/

/-- The four writers and what their callers give them. -/
inductive Operation where
  | updateApp (body : Option AppPatch)
  | setLatestAppVersion (body : Option String)
  | registerApp (privateMode : Option Bool)
  | apply (app : DeclaredApplication)
deriving DecidableEq

namespace Operation

/-- The keys an operation is asked to change, and what they are to hold. -/
def asked : Operation → String → Option (Option Json)
  | .updateApp body => (body.getD .empty).asked
  | .setLatestAppVersion body =>
      fun key => body.bind fun versionName => askedVersion versionName key
  | .registerApp privateMode => AppPatch.asked { AppPatch.empty with privateMode }
  | .apply app => askedByManifest app

/--
What becomes of the row when an operation writes which has read `read`; `none` is
an error.
-/
def write (operation : Operation) (read row : Option Settings) :
    Option Settings :=
  match operation with
  | .updateApp body =>
      read.bind fun settings =>
        (Applications.updateApp body settings).bind
          (updateApplicationSettings row)
  | .setLatestAppVersion body =>
      read.bind fun settings =>
        (Applications.setLatestAppVersion body settings).bind
          (updateApplicationSettings row)
  | .registerApp privateMode =>
      (Applications.registerApp privateMode).bind (upsertApplication row)
  | .apply app =>
      if read.isSome then
        updateApplicationSettings row (appliedSettings app read)
      else createApplication row (appliedSettings app read)

end Operation

/-- The setting of a key, if there are a row and a setting. -/
def setting (row : Option Settings) (key : String) : Option Json :=
  row.bind fun settings => settings.lookup key

/-! ## The system -/

/-- The row, the running operations with what they have read, and a log. -/
structure System where
  row : Option Settings
  running : Table Nat (Operation × Option Settings)
  /-- The operations which have completed, in the order of their writes. -/
  completed : List Operation

/-- Nothing has happened to the row yet. -/
def System.initial (row : Option Settings) : System := ⟨row, ∅, []⟩

/-- What can happen. -/
inductive Label where
  /-- An operation starts and reads the row. -/
  | start (id : Nat) (operation : Operation)
  /-- A running operation writes and completes. -/
  | write (id : Nat)
  /-- A running operation ends with an error. -/
  | fail (id : Nat)

/-- One step. -/
def step (system : System) : Label → Option System
  | .start id operation =>
      if (system.running.lookup id).isSome then none
      else
        some { system with
          running := system.running.insert id (operation, system.row) }
  | .write id =>
      (system.running.lookup id).bind fun (operation, read) =>
        (operation.write read system.row).map fun settings =>
          { row := some settings
            running := system.running.erase id
            completed := system.completed ++ [operation] }
  | .fail id =>
      (system.running.lookup id).map fun _ =>
        { system with running := system.running.erase id }

/-- What the settings are if every operation changes the keys it is asked for. -/
def replay (document : String → Option Json) (operations : List Operation) :
    String → Option Json :=
  operations.foldl
    (fun document operation key => (operation.asked key).getD (document key))
    document

/-- The settings are what the completed operations were asked for. -/
def Framed (row : Option Settings) (system : System) : Prop :=
  ∀ key, (setting system.row key).map Json.value =
    (replay (setting row) system.completed key).map Json.value

/-! ## Faithful writes -/

/-- A key which is not asked for comes through the write of an operation. -/
def Operation.Keeps (operation : Operation) (read row : Option Settings)
    (key : String) : Prop :=
  match operation with
  | .registerApp _ => setting row key = none
  | .apply _ =>
      (setting read key).map Json.value = (setting row key).map Json.value ∧
        ∀ json, setting read key = some json → json.exact = true
  | _ =>
      (setting read key).map Json.value = (setting row key).map Json.value ∧
        ∀ json, setting read key = some json →
          AppSettings.holds key json = true

/-- The keys an operation is not asked for come through its write. -/
def Faithful (system : System) : Label → Prop
  | .write id =>
      ∀ operation read, system.running.lookup id = some (operation, read) →
        ∀ key, operation.asked key = none → operation.Keeps read system.row key
  | _ => True

theorem eq_of_updateApplicationSettings {row : Option Settings}
    {settings written : Settings}
    (updated : updateApplicationSettings row settings = some written) :
    written = settings := by
  obtain ⟨_, -, same⟩ := Option.map_eq_some_iff.mp updated
  exact same.symm

/-- What an operation writes over the row, it has made of the row it has read. -/
theorem exists_patched {patch : Settings → Option Settings}
    {read row : Option Settings} {written : Settings}
    (writes : (read.bind fun settings =>
      (patch settings).bind (updateApplicationSettings row)) = some written) :
    ∃ settings, read = some settings ∧ patch settings = some written := by
  obtain ⟨settings, found, updated⟩ := Option.bind_eq_some_iff.mp writes
  obtain ⟨_, patched, stored⟩ := Option.bind_eq_some_iff.mp updated
  cases eq_of_updateApplicationSettings stored
  exact ⟨settings, found, patched⟩

/-- What `Apply` writes does not depend on the row. -/
theorem Operation.eq_appliedSettings {app : DeclaredApplication}
    {read row : Option Settings} {written : Settings}
    (writes : Operation.write (.apply app) read row = some written) :
    written = appliedSettings app read := by
  rw [Operation.write] at writes
  split_ifs at writes
  · exact eq_of_updateApplicationSettings writes
  · unfold createApplication at writes
    split_ifs at writes
    cases writes
    rfl

/-- Two readings of a key agree, unless it is asked for. -/
theorem value_getD_congr {asks : Option (Option Json)}
    {first second : Option Json}
    (same : asks = none → first.map Json.value = second.map Json.value) :
    (asks.getD first).map Json.value = (asks.getD second).map Json.value := by
  cases asks with
  | none => exact same rfl
  | some json => rfl

/-- A faithful write changes the keys it is asked for and no others. -/
theorem Operation.setting_write {operation : Operation}
    {read row : Option Settings} {written : Settings}
    (keeps : ∀ key, operation.asked key = none → operation.Keeps read row key)
    (writes : operation.write read row = some written) (key : String) :
    (written.lookup key).map Json.value =
      ((operation.asked key).getD (setting row key)).map Json.value := by
  cases operation with
  | updateApp body =>
      obtain ⟨settings, rfl, patched⟩ := exists_patched writes
      rw [lookup_updateApp (fun key json asks => (keeps key asks).2 json)
        patched]
      exact value_getD_congr fun asks => (keeps key asks).1
  | setLatestAppVersion body =>
      obtain ⟨settings, rfl, patched⟩ := exists_patched writes
      cases body with
      | none => cases patched
      | some versionName =>
          rw [lookup_setLatestAppVersion
            (fun key json asks => (keeps key asks).2 json) patched]
          exact value_getD_congr fun asks => (keeps key asks).1
  | registerApp privateMode =>
      obtain ⟨_, registered, stored⟩ := Option.bind_eq_some_iff.mp writes
      cases stored
      rw [lookup_registerApp registered]
      apply value_getD_congr
      intro asks
      have absent : setting row key = none := keeps key asks
      rw [absent]
  | apply app =>
      rw [Operation.eq_appliedSettings writes, lookup_appliedSettings]
      apply value_getD_congr
      intro asks
      obtain ⟨unchanged, exact⟩ := keeps key asks
      rw [← unchanged, Option.map_map]
      show (setting read key).map _ = _
      apply Option.map_congr
      intro json found
      exact throughAny_value json (exact json found)

theorem replay_append (document : String → Option Json)
    (operations : List Operation) (operation : Operation) (key : String) :
    replay document (operations ++ [operation]) key =
      (operation.asked key).getD (replay document operations key) := by
  rw [replay, List.foldl_append]
  rfl

/-- A faithful step keeps the settings framed. -/
theorem framed_step {row : Option Settings} {system next : System}
    {label : Label} (faithful : Faithful system label)
    (taken : step system label = some next) (framed : Framed row system) :
    Framed row next := by
  cases label with
  | start id operation =>
      rw [step] at taken
      split_ifs at taken
      cases taken
      exact framed
  | write id =>
      obtain ⟨⟨operation, read⟩, present, wrote⟩ :=
        Option.bind_eq_some_iff.mp taken
      obtain ⟨settings, writes, rfl⟩ := Option.map_eq_some_iff.mp wrote
      intro key
      show (settings.lookup key).map Json.value = _
      rw [operation.setting_write (faithful operation read present) writes,
        replay_append]
      exact value_getD_congr fun _ => framed key
  | fail id =>
      obtain ⟨_, -, rfl⟩ := Option.map_eq_some_iff.mp taken
      exact framed

/--
In every run of faithful writes every completed operation has left the other keys
as they were, and nothing an operation was asked for is lost to another.
-/
theorem framed_of_faithful {row : Option Settings} {labels : List Label}
    {system : System}
    (run : GuardedRun step Faithful (.initial row) labels system) :
    Framed row system :=
  run.invariant (Framed row) framed_step fun _ => rfl

/-- A private application with a row limit. -/
def billingSettings : Settings :=
  (AList.insert "privateMode" (.bool true) ∅).insert "gcRowsThreshold"
    (integerJson 5)

/-- The timeout is set through the API, and then by a manifest. -/
def setsTimeouts : List Label :=
  [.start 0 (.updateApp
      (some { AppPatch.empty with executorTimeoutSecs := some 60 })),
    .write 0, .start 1 (.apply ⟨"billing", "", 0, 90⟩), .write 1]

/-- What all entries pass, every setting passes. -/
theorem forall_setting {settings : Settings} (check : String → Json → Bool)
    (all : settings.entries.all (fun entry => check entry.1 entry.2) = true) :
    ∀ key json, setting (some settings) key = some json →
      check key json = true := by
  intro key json found
  exact List.all_eq_true.mp all ⟨key, json⟩ (mem_entries_iff.mpr found)

theorem framed_setsTimeouts :
    ∃ system, run step (.initial (some billingSettings)) setsTimeouts =
      some system ∧ Framed (some billingSettings) system := by
  have guarded : ∃ system, GuardedRun step Faithful
      (.initial (some billingSettings)) setsTimeouts system := by
    refine ⟨_, .cons trivial rfl (.cons ?_ rfl (.cons trivial rfl
      (.cons ?_ rfl (.nil _))))⟩
    · intro operation read present key _
      change some (_, some billingSettings) = some (operation, read) at present
      cases present
      exact ⟨rfl, forall_setting AppSettings.holds (by decide +kernel) key⟩
    · intro operation read present key _
      change some (Operation.apply _, _) = some (operation, read) at present
      cases present
      exact ⟨rfl, forall_setting (fun _ json => json.exact)
        (by decide +kernel) key⟩
  obtain ⟨system, guarded⟩ := guarded
  exact ⟨system, guarded.run_eq, framed_of_faithful guarded⟩

/-- A manifest describes an application, and the API makes it private. -/
def describes : List Label :=
  [.start 0 (.apply ⟨"billing", "Invoices", 0, 0⟩), .write 0,
    .start 1 (.updateApp (some { AppPatch.empty with privateMode := some true })),
    .write 1]

theorem describes_notFramed :
    ¬ ∀ row labels system, run step (.initial row) labels = some system →
      Framed row system := by
  intro framed
  obtain ⟨system, ran, lost, completed⟩ : ∃ system,
      run step (.initial none) describes = some system ∧
        setting system.row "description" = none ∧
          replay (setting none) system.completed "description" =
            some (.string "Invoices") :=
    ⟨_, rfl, rfl, rfl⟩
  have same := framed none describes system ran "description"
  rw [lost, completed] at same
  cases same

end DbosRelay.Applications
