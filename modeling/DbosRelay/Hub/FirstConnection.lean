import DbosRelay.Hub.Authenticate

/-!
# The first connection of an application

The executors of a new application all find that there is no application of its
name, and `Authenticate` creates it in a statement of its own.  The creation is
refused to all but the first of those which have looked in vain, and a call to
which it is refused fails.

Calls with keys of one organisation for one name are interleaved in any order.
They all succeed, with the one application which is created, exactly when none
looks the application up while another one is about to create it.
-/

namespace DbosRelay.Hub

open DbosRelay.Basic
open DbosRelay.Declarative (Engine)
open DbosRelay.Identity
open DbosRelay.Library.Programs
open DbosRelay.Library.Runs
open DbosRelay.Library.Tables

/-! ## Interleaved calls -/

/-- Calls of `Authenticate` on one store, each with its key. -/
abbrev AuthPool :=
  Pool AuthStatement AuthStatement.Answer AuthTables String
    (Except AuthError UUID)

/-- A call starts, a call goes on, or somebody else uses the store. -/
abbrev AuthStep := PoolStep AuthStatement AuthFate String

/-- The name is a valid one, and the organisation has no application of it. -/
structure Unregistered (engine : Engine) (tables : AuthTables)
    (organisationID : ID) (appName : String) : Prop where
  organisation :
    (tables.identity.organisations.byID organisationID).isSome = true
  accepted : engine.isApplicationName appName = true
  missing : tables.applications.rows.lookup (organisationID, appName) = none

/-- A key of the organisation which may connect for the application. -/
def ValidKey (hash : String → String) (identity : Store) (organisationID : ID)
    (appName conductorKey : String) : Prop :=
  conductorKey ≠ "" ∧ ∃ keyRecord,
    identity.getAPIKeyByLookup (lookupOf conductorKey) = .ok keyRecord ∧
      hash conductorKey = keyRecord.keyHash ∧
        hubRefusal keyRecord appName = none ∧
          keyRecord.organisationID = organisationID

/-- A call with a valid key starts, or a statement of a call is answered. -/
def IsCall (hash : String → String) (identity : Store) (organisationID : ID)
    (appName : String) : AuthStep → Prop
  | .start conductorKey =>
      ValidKey hash identity organisationID appName conductorKey
  | .advance _ (.answered _) => True
  | _ => False

/-- The identifier which is drawn in a step. -/
def drawnIn : AuthStep → Option UUID
  | .advance _ (.answered drawn) => some drawn
  | _ => none

section Calls

variable (organisationID : ID) (appName : String)

/-- The call has found no application and is about to create it. -/
def Creates (pool : AuthPool) (thread : Nat) : Prop :=
  ∃ key : String,
    pool.threads[thread]? = some (key, createMissing organisationID appName)

/-- A call has come to an end. -/
def Returned (pool : AuthPool) (result : Except AuthError UUID) : Prop :=
  ∃ (thread : Nat) (key : String),
    pool.threads[thread]? = some (key, .done result)

/-- Every call has come to an end. -/
def Complete (pool : AuthPool) : Prop :=
  ∀ (thread : Nat) (key : String) (rest : AuthProgram),
    pool.threads[thread]? = some (key, rest) → ∃ result, rest = .done result

/--
Nobody looks the application up while another call is about to create it, and the
identifier drawn for a new application is not in use.
-/
structure Orderly (pool : AuthPool) (step : AuthStep) : Prop where
  alone : pool.Issues step (.getApplicationByName organisationID appName) →
    ∀ thread, ¬ Creates organisationID appName pool thread
  fresh : ∀ settings drawn, drawnIn step = some drawn →
    pool.Issues step (.createApplication organisationID appName settings) →
      pool.state.applications.free drawn = true

/-- The applications are those of before and the new one. -/
def Registers (before : AuthTables) (pool : AuthPool) (id : UUID) : Prop :=
  pool.state.applications.rows =
    before.applications.rows.insert (organisationID, appName)
      ⟨id, organisationID, appName, "\x7b\x7d"⟩

/--
Nothing has been created and no call has come to an end, or one application has
been created and every call which has come to an end has succeeded with it.
-/
def AtMostOne (before : AuthTables) (pool : AuthPool) : Prop :=
  pool.state.applications.rows = before.applications.rows ∧
      (∀ result, ¬ Returned pool result) ∨
    ∃ id, Registers organisationID appName before pool id ∧
      ∀ result, Returned pool result → result = .ok id

/-- One application has been created and every call has succeeded with it. -/
def AllConnected (before : AuthTables) (pool : AuthPool) : Prop :=
  ∃ id, Registers organisationID appName before pool id ∧
    ∀ (thread : Nat) (key : String) (rest : AuthProgram),
      pool.threads[thread]? = some (key, rest) → rest = .done (.ok id)

end Calls

theorem complete_of_mem {pool : AuthPool}
    (ended : ∀ found ∈ pool.threads, ∃ result, found.2 = .done result) :
    Complete pool :=
  fun _ _ _ present => ended _ (List.mem_of_getElem? present)

/-! ## One call -/

theorem ne_empty_of_isApplicationName {engine : Engine} {name : String}
    (accepted : engine.isApplicationName name = true) : name ≠ "" := by
  rintro rfl
  cases engine <;> exact absurd accepted (by decide)

section Statements

variable {engine : Engine} {tables : AuthTables} {drawn : UUID}
variable {organisationID : ID} {name settings : String}

/-- Everything the creation of an application can do. -/
theorem createApplication_cases (engine : Engine) (tables : AuthTables)
    (drawn : UUID) (organisationID : ID) (name settings : String) :
    (∃ error, tables.createApplication engine drawn organisationID name
        settings = (.error error, tables)) ∨
      tables.applications.rows.lookup (organisationID, name) = none ∧
        ∃ isFree, tables.createApplication engine drawn organisationID name
            settings =
          (.ok ⟨drawn, organisationID, name, settings⟩,
            { tables with
              applications := tables.applications.insert
                ⟨drawn, organisationID, name, settings⟩ isFree }) := by
  unfold AuthTables.createApplication
  split_ifs with orphan refused taken isFree
  · exact Or.inl ⟨_, rfl⟩
  · exact Or.inl ⟨_, rfl⟩
  · exact Or.inl ⟨_, rfl⟩
  · rw [Option.not_isSome_iff_eq_none] at taken
    exact Or.inr ⟨taken, isFree, rfl⟩
  · exact Or.inl ⟨_, rfl⟩

/-- A valid name which is missing can be created under a free identifier. -/
theorem createApplication_ok
    (organisation :
      (tables.identity.organisations.byID organisationID).isSome = true)
    (accepted : engine.isApplicationName name = true)
    (missing : tables.applications.rows.lookup (organisationID, name) = none)
    (isFree : tables.applications.free drawn = true) :
    tables.createApplication engine drawn organisationID name settings =
      (.ok ⟨drawn, organisationID, name, settings⟩,
        { tables with
          applications := tables.applications.insert
            ⟨drawn, organisationID, name, settings⟩ isFree }) := by
  have present :
      (tables.identity.organisations.byID organisationID).isNone = false := by
    rw [← Option.not_isSome, organisation]
    rfl
  unfold AuthTables.createApplication
  rw [present, accepted, missing, dif_pos isFree]
  rfl

/-- No statement touches the identity tables. -/
theorem identity_performAuth (engine : Engine) (fate : AuthFate)
    (statement : AuthStatement) (tables : AuthTables) :
    (performAuth engine fate statement tables).2.identity = tables.identity := by
  have answered (drawn : UUID) :
      (tables.answer engine drawn statement).2.identity = tables.identity := by
    cases statement with
    | createApplication organisationID name settings =>
        rcases createApplication_cases engine tables drawn organisationID name
          settings with ⟨error, failed⟩ | ⟨-, isFree, done⟩
        · exact congrArg (fun answer => answer.2.identity) failed
        · exact congrArg (fun answer => answer.2.identity) done
    | _ => rfl
  cases fate with
  | answered drawn => exact answered drawn
  | refused error => rfl
  | lost drawn error => exact answered drawn

/-- An application which is there stays. -/
theorem lookup_performAuth (engine : Engine) (fate : AuthFate)
    (statement : AuthStatement) {key : ID × String} {row : Application}
    (present : tables.applications.rows.lookup key = some row) :
    (performAuth engine fate statement tables).2.applications.rows.lookup key =
      some row := by
  have answered (drawn : UUID) :
      (tables.answer engine drawn statement).2.applications.rows.lookup key =
        some row := by
    cases statement with
    | createApplication organisationID name settings =>
        rcases createApplication_cases engine tables drawn organisationID name
          settings with ⟨error, failed⟩ | ⟨missing, isFree, done⟩
        · rw [AuthTables.answer, failed]
          exact present
        · have different : key ≠ (organisationID, name) := by
            rintro rfl
            rw [missing] at present
            cases present
          rw [AuthTables.answer, done, Applications.insert, lookup_insert_eq,
            if_neg different]
          exact present
    | _ => exact present
  cases fate with
  | answered drawn => exact answered drawn
  | refused error => exact present
  | lost drawn error => exact answered drawn

end Statements

section Stages

variable {engine : Engine} {hash : String → String} {organisationID : ID}
variable {appName key : String} {tables : AuthTables} {drawn : UUID}
variable {rest : AuthProgram}

variable (hash organisationID appName) in
/-- A call of the key which has not looked the application up yet. -/
inductive Waits (key : String) : AuthProgram → Prop where
  | arrived {next : AuthStatement.Answer (.getAPIKeyByLookup (lookupOf key)) →
        AuthProgram}
      (goesOn : ∀ keyRecord, hash key = keyRecord.keyHash →
        hubRefusal keyRecord appName = none →
          next (.ok keyRecord) =
            .call (.touchAPIKeyLastUsed keyRecord.id) fun _ =>
              getOrCreate keyRecord.organisationID appName) :
      Waits key (.call (.getAPIKeyByLookup (lookupOf key)) next)
  | known (id : ID) :
      Waits key (.call (.touchAPIKeyLastUsed id) fun _ =>
        getOrCreate organisationID appName)
  | resolving : Waits key (getOrCreate organisationID appName)

variable (hash organisationID appName) in
/-- How far a call of the key has come. -/
def Stands (key : String) (rest : AuthProgram) : Prop :=
  Waits hash organisationID appName key rest ∨
    rest = createMissing organisationID appName ∨ ∃ result, rest = .done result

variable (organisationID appName) in
/-- What a call does when its next statement is answered. -/
inductive Advance (hash : String → String) (key : String) (tables : AuthTables)
    (drawn : UUID) : AuthStatement → AuthProgram → AuthTables → Prop where
  | identified (lookup : String) {rest : AuthProgram}
      (waits : Waits hash organisationID appName key rest) :
      Advance hash key tables drawn (.getAPIKeyByLookup lookup) rest tables
  | touched (id : ID) {rest : AuthProgram}
      (waits : Waits hash organisationID appName key rest) :
      Advance hash key tables drawn (.touchAPIKeyLastUsed id) rest tables
  | finds {app : Application}
      (present : tables.applications.rows.lookup (organisationID, appName) =
        some app) :
      Advance hash key tables drawn (.getApplicationByName organisationID appName)
        (.done (.ok app.id)) tables
  | misses
      (missing :
        tables.applications.rows.lookup (organisationID, appName) = none) :
      Advance hash key tables drawn (.getApplicationByName organisationID appName)
        (createMissing organisationID appName) tables
  | creates
      (missing :
        tables.applications.rows.lookup (organisationID, appName) = none)
      (isFree : tables.applications.free drawn = true) :
      Advance hash key tables drawn
        (.createApplication organisationID appName "\x7b\x7d")
        (.done (.ok drawn))
        { tables with
          applications := tables.applications.insert
            ⟨drawn, organisationID, appName, "\x7b\x7d"⟩ isFree }
  | conflicts (error : StoreError)
      (taken : tables.applications.rows.lookup (organisationID, appName) = none →
        tables.applications.free drawn = false) :
      Advance hash key tables drawn
        (.createApplication organisationID appName "\x7b\x7d")
        (.done (.error (.store error))) tables

theorem waits_authenticate (named : appName ≠ "") (given : key ≠ "") :
    Waits hash organisationID appName key (authenticate hash true appName key) := by
  unfold authenticate
  rw [if_neg (not_or.mpr ⟨named, given⟩)]
  refine .arrived fun keyRecord verified allowed => ?_
  simp only [verified, allowed, ne_eq, not_true_eq_false, if_false]

theorem Waits.ne_done (waits : Waits hash organisationID appName key rest)
    (result : Except AuthError UUID) : rest ≠ .done result := by
  rintro rfl
  cases waits

theorem Waits.ne_createMissing
    (waits : Waits hash organisationID appName key rest) :
    rest ≠ createMissing organisationID appName := by
  intro creates
  cases waits with
  | arrived => cases creates
  | known => cases creates
  | resolving => cases creates

/-- A call whose key is valid goes on in one of these ways. -/
theorem advance_of_stands
    (organisation :
      (tables.identity.organisations.byID organisationID).isSome = true)
    (accepted : engine.isApplicationName appName = true)
    (valid : ValidKey hash tables.identity organisationID appName key)
    {request : AuthStatement} {next : request.Answer → AuthProgram}
    (stands : Stands hash organisationID appName key (.call request next)) :
    Advance organisationID appName hash key tables drawn request
      (next (performAuth engine (.answered drawn) request tables).1)
      (performAuth engine (.answered drawn) request tables).2 := by
  rcases stands with waits | creates | ⟨result, ended⟩
  · cases waits with
    | arrived goesOn =>
        obtain ⟨-, keyRecord, present, verified, allowed, rfl⟩ := valid
        simp only [performAuth, AuthTables.answer, present,
          goesOn keyRecord verified allowed]
        exact .identified _ (.known keyRecord.id)
    | known id => exact .touched id .resolving
    | resolving =>
        cases row : tables.applications.rows.lookup (organisationID, appName) with
        | none =>
            simp only [performAuth, AuthTables.answer, row, Store.found]
            exact .misses row
        | some app =>
            simp only [performAuth, AuthTables.answer, row, Store.found]
            exact .finds row
  · obtain ⟨rfl, rfl⟩ := creates
    rcases createApplication_cases engine tables drawn organisationID appName
      "\x7b\x7d" with ⟨error, failed⟩ | ⟨missing, isFree, done⟩
    · simp only [performAuth, AuthTables.answer, failed, created]
      refine .conflicts error fun missing => Bool.eq_false_of_not_eq_true ?_
      intro isFree
      rw [createApplication_ok organisation accepted missing isFree] at failed
      cases failed
    · simp only [performAuth, AuthTables.answer, done, created]
      exact .creates missing isFree
  · cases ended

/-- A call which creates an application has looked it up in vain. -/
theorem eq_createMissing_of_stands {settings : String}
    {next : AuthStatement.Answer (.createApplication organisationID appName
      settings) → AuthProgram}
    (stands : Stands hash organisationID appName key (.call _ next)) :
    .call _ next = createMissing organisationID appName := by
  rcases stands with waits | creates | ⟨result, ended⟩
  · cases waits
  · exact creates
  · cases ended

end Stages

/-! ## All calls -/

/-- One call has come as far as `rest`, the others are where they were. -/
structure Moved (pool after : AuthPool) (mover : Nat) (key : String)
    (rest : AuthProgram) : Prop where
  own : after.threads[mover]? = some (key, rest)
  others : ∀ other, other ≠ mover → after.threads[other]? = pool.threads[other]?

section Moves

variable {organisationID : ID} {appName key : String} {rest : AuthProgram}
variable {pool after : AuthPool} {mover thread : Nat}
variable {result : Except AuthError UUID}

namespace Moved

/-- A call is the one which has gone on, or is where it was. -/
theorem thread_cases (moved : Moved pool after mover key rest) {other : String}
    {program : AuthProgram}
    (present : after.threads[thread]? = some (other, program)) :
    thread = mover ∧ key = other ∧ rest = program ∨
      thread ≠ mover ∧ pool.threads[thread]? = some (other, program) := by
  by_cases same : thread = mover
  · subst same
    rw [moved.own] at present
    cases present
    exact Or.inl ⟨rfl, rfl, rfl⟩
  · rw [moved.others thread same] at present
    exact Or.inr ⟨same, present⟩

theorem returned (moved : Moved pool after mover key rest)
    (ended : Returned after result) :
    rest = .done result ∨ Returned pool result := by
  obtain ⟨thread, other, present⟩ := ended
  rcases moved.thread_cases present with ⟨-, -, now⟩ | ⟨-, old⟩
  · exact Or.inl now
  · exact Or.inr ⟨thread, other, old⟩

theorem creates (moved : Moved pool after mover key rest)
    (creating : Creates organisationID appName after thread) :
    thread = mover ∧ rest = createMissing organisationID appName ∨
      thread ≠ mover ∧ Creates organisationID appName pool thread := by
  obtain ⟨other, present⟩ := creating
  rcases moved.thread_cases present with ⟨same, -, now⟩ | ⟨different, old⟩
  · exact Or.inl ⟨same, now⟩
  · exact Or.inr ⟨different, other, old⟩

theorem keeps_creates (moved : Moved pool after mover key rest)
    (different : thread ≠ mover)
    (creating : Creates organisationID appName pool thread) :
    Creates organisationID appName after thread := by
  obtain ⟨other, present⟩ := creating
  exact ⟨other, (moved.others thread different).trans present⟩

/-- A call which goes on has not come to an end before. -/
theorem keeps_returned (moved : Moved pool after mover key rest)
    (busy : ∀ other, pool.threads[mover]? ≠ some (other, .done result))
    (ended : Returned pool result) : Returned after result := by
  obtain ⟨thread, other, present⟩ := ended
  refine ⟨thread, other, (moved.others thread ?_).trans present⟩
  rintro rfl
  exact busy other present

end Moved

theorem moved_start (pool : AuthPool) (key : String) (rest : AuthProgram) :
    Moved pool { pool with threads := pool.threads ++ [(key, rest)] }
      pool.threads.length key rest where
  own := by
    rw [List.getElem?_append_right (Nat.le_refl _), Nat.sub_self]
    rfl
  others := by
    intro other different
    rcases Nat.lt_or_ge other pool.threads.length with old | beyond
    · exact List.getElem?_append_left old
    · rw [List.getElem?_eq_none beyond, List.getElem?_eq_none]
      rw [List.length_append, List.length_singleton]
      omega

theorem moved_resume {found : String × AuthProgram}
    (running : pool.threads[mover]? = some found) (issuer : Option Nat)
    (request : AuthStatement) (answer : request.Answer × AuthTables)
    (key : String) (rest : AuthProgram) :
    Moved pool ((pool.performed issuer request answer).resume mover key rest)
      mover key rest where
  own := List.getElem?_set_self (List.getElem?_eq_some_iff.mp running).1
  others := fun _ different => List.getElem?_set_ne (Ne.symm different)

end Moves

/-- Everything a step of the calls can do. -/
theorem step_cases {engine : Engine} {hash : String → String} {identity : Store}
    {organisationID : ID} {appName : String} {pool after : AuthPool}
    {step : AuthStep} (isCall : IsCall hash identity organisationID appName step)
    (taken : pool.step (performAuth engine) (authenticate hash true appName) step =
      some after) :
    (∃ key, step = .start key ∧
        ValidKey hash identity organisationID appName key ∧
          after.state = pool.state ∧
            Moved pool after pool.threads.length key
              (authenticate hash true appName key)) ∨
      ∃ (mover : Nat) (drawn : UUID) (key : String) (request : AuthStatement)
        (next : request.Answer → AuthProgram),
        step = .advance mover (.answered drawn) ∧
          pool.threads[mover]? = some (key, .call request next) ∧
            after.state =
              (performAuth engine (.answered drawn) request pool.state).2 ∧
              Moved pool after mover key
                (next
                  (performAuth engine (.answered drawn) request pool.state).1) := by
  cases Pool.takes_of_step taken with
  | start key => exact Or.inl ⟨key, rfl, isCall, rfl, moved_start pool key _⟩
  | @advance mover fate key request next running =>
      cases fate with
      | answered drawn =>
          exact Or.inr ⟨mover, drawn, key, request, next, rfl, running, rfl,
            moved_resume running _ _ _ _ _⟩
      | refused error => exact isCall.elim
      | lost drawn error => exact isCall.elim
  | other request fate => exact isCall.elim

/-! ## Runs in order -/

section Invariant

variable (hash : String → String) (before : AuthTables) (organisationID : ID)
variable (appName : String)

/-- Every call is one of a valid key, and has come as far as calls do. -/
structure Standing (pool : AuthPool) : Prop where
  identity : pool.state.identity = before.identity
  valid : ∀ {thread : Nat} {key : String} {rest : AuthProgram},
    pool.threads[thread]? = some (key, rest) →
      ValidKey hash before.identity organisationID appName key
  stands : ∀ {thread : Nat} {key : String} {rest : AuthProgram},
    pool.threads[thread]? = some (key, rest) →
      Stands hash organisationID appName key rest

/-- At most one call is about to create the application, and none after that. -/
def InTurn (pool : AuthPool) : Prop :=
  pool.state.applications.rows = before.applications.rows ∧
      (∀ result, ¬ Returned pool result) ∧
        (∀ first second, Creates organisationID appName pool first →
          Creates organisationID appName pool second → first = second) ∨
    ∃ id, Registers organisationID appName before pool id ∧
      (∀ thread, ¬ Creates organisationID appName pool thread) ∧
        ∀ result, Returned pool result → result = .ok id

end Invariant

section Order

variable {engine : Engine} {hash : String → String} {before : AuthTables}
variable {organisationID : ID} {appName : String} {pool after : AuthPool}

theorem Standing.idle :
    Standing hash before organisationID appName (Pool.idle before) where
  identity := rfl
  valid := by
    intro thread key rest present
    cases present
  stands := by
    intro thread key rest present
    cases present

theorem InTurn.idle : InTurn before organisationID appName (Pool.idle before) := by
  refine Or.inl ⟨rfl, ?_, ?_⟩
  · rintro result ⟨thread, key, present⟩
    cases present
  · rintro first second ⟨key, present⟩
    cases present

/-- The next statement of a call. -/
theorem Standing.advance (standing : Standing hash before organisationID appName pool)
    (unregistered : Unregistered engine before organisationID appName)
    {mover : Nat} {key : String} {request : AuthStatement}
    {next : request.Answer → AuthProgram} (drawn : UUID)
    (running : pool.threads[mover]? = some (key, .call request next)) :
    Advance organisationID appName hash key pool.state drawn request
      (next (performAuth engine (.answered drawn) request pool.state).1)
      (performAuth engine (.answered drawn) request pool.state).2 := by
  refine advance_of_stands ?_ unregistered.accepted ?_ (standing.stands running)
  · rw [standing.identity]
    exact unregistered.organisation
  · rw [standing.identity]
    exact standing.valid running

/-- Everything a step of standing calls can do. -/
theorem Standing.step_cases {step : AuthStep}
    (standing : Standing hash before organisationID appName pool)
    (unregistered : Unregistered engine before organisationID appName)
    (isCall : IsCall hash before.identity organisationID appName step)
    (taken : pool.step (performAuth engine) (authenticate hash true appName) step =
      some after) :
    (∃ key, step = .start key ∧
        Waits hash organisationID appName key (authenticate hash true appName key) ∧
          after.state = pool.state ∧
            Moved pool after pool.threads.length key
              (authenticate hash true appName key)) ∨
      ∃ (mover : Nat) (drawn : UUID) (key : String) (request : AuthStatement)
        (next : request.Answer → AuthProgram) (rest : AuthProgram)
        (left : AuthTables),
        step = .advance mover (.answered drawn) ∧
          pool.threads[mover]? = some (key, .call request next) ∧
            after.state = left ∧ Moved pool after mover key rest ∧
              Advance organisationID appName hash key pool.state drawn request
                rest left := by
  rcases Hub.step_cases isCall taken with ⟨key, rfl, valid, state, moved⟩ |
    ⟨mover, drawn, key, request, next, rfl, running, state, moved⟩
  · exact Or.inl ⟨key, rfl, waits_authenticate
      (ne_empty_of_isApplicationName unregistered.accepted) valid.1, state, moved⟩
  · exact Or.inr ⟨mover, drawn, key, request, next, _, _, rfl, running, state,
      moved, standing.advance unregistered drawn running⟩

theorem Advance.stands {key : String} {tables left : AuthTables} {drawn : UUID}
    {request : AuthStatement} {rest : AuthProgram}
    (advance : Advance organisationID appName hash key tables drawn request rest
      left) : Stands hash organisationID appName key rest := by
  cases advance with
  | identified lookup waits => exact Or.inl waits
  | touched id waits => exact Or.inl waits
  | finds => exact Or.inr (Or.inr ⟨_, rfl⟩)
  | misses => exact Or.inr (Or.inl rfl)
  | creates => exact Or.inr (Or.inr ⟨_, rfl⟩)
  | conflicts => exact Or.inr (Or.inr ⟨_, rfl⟩)

theorem Standing.moved {mover : Nat} {key : String} {rest : AuthProgram}
    (standing : Standing hash before organisationID appName pool)
    (moved : Moved pool after mover key rest)
    (identity : after.state.identity = pool.state.identity)
    (valid : ValidKey hash before.identity organisationID appName key)
    (stands : Stands hash organisationID appName key rest) :
    Standing hash before organisationID appName after where
  identity := identity.trans standing.identity
  valid := by
    intro thread other program present
    rcases moved.thread_cases present with ⟨-, rfl, -⟩ | ⟨-, old⟩
    · exact valid
    · exact standing.valid old
  stands := by
    intro thread other program present
    rcases moved.thread_cases present with ⟨-, rfl, rfl⟩ | ⟨-, old⟩
    · exact stands
    · exact standing.stands old

theorem Standing.step {step : AuthStep}
    (standing : Standing hash before organisationID appName pool)
    (unregistered : Unregistered engine before organisationID appName)
    (isCall : IsCall hash before.identity organisationID appName step)
    (taken : pool.step (performAuth engine) (authenticate hash true appName) step =
      some after) : Standing hash before organisationID appName after := by
  rcases Hub.step_cases isCall taken with ⟨key, rfl, valid, state, moved⟩ |
    ⟨mover, drawn, key, request, next, rfl, running, state, moved⟩
  · refine standing.moved moved (congrArg AuthTables.identity state) valid ?_
    exact Or.inl (waits_authenticate
      (ne_empty_of_isApplicationName unregistered.accepted) valid.1)
  · refine standing.moved moved ?_ (standing.valid running)
      (standing.advance unregistered drawn running).stands
    rw [state]
    exact identity_performAuth engine _ request pool.state

/-- A call which still waits changes nothing for the others. -/
theorem InTurn.waits {mover : Nat} {key : String} {rest : AuthProgram}
    (inTurn : InTurn before organisationID appName pool)
    (moved : Moved pool after mover key rest) (state : after.state = pool.state)
    (waits : Waits hash organisationID appName key rest) :
    InTurn before organisationID appName after := by
  have returned {result : Except AuthError UUID}
      (ended : Returned after result) : Returned pool result :=
    (moved.returned ended).resolve_left (waits.ne_done result)
  have creates {thread : Nat}
      (creating : Creates organisationID appName after thread) :
      Creates organisationID appName pool thread := by
    rcases moved.creates creating with ⟨-, now⟩ | ⟨-, old⟩
    · exact absurd now waits.ne_createMissing
    · exact old
  rcases inTurn with ⟨rows, none, one⟩ | ⟨id, registers, none, all⟩
  · refine Or.inl ⟨?_, fun result ended => none result (returned ended),
      fun first second left right => one first second (creates left) (creates right)⟩
    rw [state]
    exact rows
  · refine Or.inr ⟨id, ?_, fun thread creating => none thread (creates creating),
      fun result ended => all result (returned ended)⟩
    rw [Registers, state]
    exact registers

theorem InTurn.missing (inTurn : InTurn before organisationID appName pool)
    (unregistered : Unregistered engine before organisationID appName)
    {thread : Nat} (creating : Creates organisationID appName pool thread) :
    pool.state.applications.rows.lookup (organisationID, appName) = none := by
  rcases inTurn with ⟨rows, -, -⟩ | ⟨id, -, none, -⟩
  · rw [rows]
    exact unregistered.missing
  · exact absurd creating (none thread)

theorem Registers.lookup {id : UUID}
    (registers : Registers organisationID appName before pool id) :
    pool.state.applications.rows.lookup (organisationID, appName) =
      some ⟨id, organisationID, appName, "\x7b\x7d"⟩ := by
  rw [registers, lookup_insert_eq, if_pos rfl]

/-- The call which finds the application returns the one which was created. -/
theorem InTurn.finds {mover : Nat} {key : String} {app : Application}
    (inTurn : InTurn before organisationID appName pool)
    (unregistered : Unregistered engine before organisationID appName)
    (moved : Moved pool after mover key (.done (.ok app.id)))
    (state : after.state = pool.state)
    (present : pool.state.applications.rows.lookup (organisationID, appName) =
      some app) : InTurn before organisationID appName after := by
  rcases inTurn with ⟨rows, -, -⟩ | ⟨id, registers, none, all⟩
  · rw [rows, unregistered.missing] at present
    cases present
  · rw [registers.lookup] at present
    cases present
    refine Or.inr ⟨id, ?_, fun thread creating => ?_, fun result ended => ?_⟩
    · rw [Registers, state]
      exact registers
    · rcases moved.creates creating with ⟨-, now⟩ | ⟨-, old⟩
      · cases now
      · exact none thread old
    · rcases moved.returned ended with now | old
      · cases now
        rfl
      · exact all result old

/-- The call which looks in vain is the only one about to create. -/
theorem InTurn.misses {mover : Nat} {key : String}
    (inTurn : InTurn before organisationID appName pool)
    (moved : Moved pool after mover key (createMissing organisationID appName))
    (state : after.state = pool.state)
    (missing : pool.state.applications.rows.lookup (organisationID, appName) = none)
    (alone : ∀ thread, ¬ Creates organisationID appName pool thread) :
    InTurn before organisationID appName after := by
  have own {thread : Nat}
      (creating : Creates organisationID appName after thread) :
      thread = mover := by
    rcases moved.creates creating with ⟨same, -⟩ | ⟨-, old⟩
    · exact same
    · exact absurd old (alone thread)
  rcases inTurn with ⟨rows, none, -⟩ | ⟨id, registers, -, -⟩
  · refine Or.inl ⟨?_, fun result ended => ?_,
      fun first second left right => (own left).trans (own right).symm⟩
    · rw [state]
      exact rows
    · rcases moved.returned ended with now | old
      · cases now
      · exact none result old
  · rw [registers.lookup] at missing
    cases missing

/-- The only call about to create has created the application. -/
theorem InTurn.creates {mover : Nat} {key : String} {drawn : UUID}
    (inTurn : InTurn before organisationID appName pool)
    (moved : Moved pool after mover key (.done (.ok drawn)))
    (creating : Creates organisationID appName pool mover)
    (rows : after.state.applications.rows =
      pool.state.applications.rows.insert (organisationID, appName)
        ⟨drawn, organisationID, appName, "\x7b\x7d"⟩) :
    InTurn before organisationID appName after := by
  rcases inTurn with ⟨unchanged, none, one⟩ | ⟨id, -, never, -⟩
  · refine Or.inr ⟨drawn, ?_, fun thread creates => ?_, fun result ended => ?_⟩
    · rw [Registers, rows, unchanged]
    · rcases moved.creates creates with ⟨-, now⟩ | ⟨different, old⟩
      · cases now
      · exact different (one thread mover old creating)
    · rcases moved.returned ended with now | old
      · cases now
        rfl
      · exact absurd old (none result)
  · exact absurd creating (never mover)

/-- A step in order leaves at most one call which is about to create. -/
theorem InTurn.step {step : AuthStep}
    (inTurn : InTurn before organisationID appName pool)
    (standing : Standing hash before organisationID appName pool)
    (unregistered : Unregistered engine before organisationID appName)
    (isCall : IsCall hash before.identity organisationID appName step)
    (orderly : Orderly organisationID appName pool step)
    (taken : pool.step (performAuth engine) (authenticate hash true appName) step =
      some after) : InTurn before organisationID appName after := by
  rcases standing.step_cases unregistered isCall taken with
    ⟨key, rfl, waits, state, moved⟩ |
    ⟨mover, drawn, key, request, next, rest, left, rfl, running, state, moved,
      advance⟩
  · exact inTurn.waits moved state waits
  have standsAt := standing.stands running
  cases advance with
  | identified lookup waits => exact inTurn.waits moved state waits
  | touched id waits => exact inTurn.waits moved state waits
  | finds present => exact inTurn.finds unregistered moved state present
  | misses missing =>
      exact inTurn.misses moved state missing
        (orderly.alone ⟨key, next, running⟩)
  | creates missing isFree =>
      refine inTurn.creates moved
        ⟨key, eq_createMissing_of_stands standsAt ▸ running⟩ ?_
      rw [state]
      rfl
  | conflicts error refused =>
      have creating : Creates organisationID appName pool mover :=
        ⟨key, eq_createMissing_of_stands standsAt ▸ running⟩
      have used := refused (inTurn.missing unregistered creating)
      have isFree := orderly.fresh _ drawn rfl ⟨key, next, running⟩
      rw [isFree] at used
      cases used

end Order

/-! ## Runs out of order -/

/--
A call has failed, or one is about to create an application which is there or
which another one is about to create, too.
-/
def Doomed (organisationID : ID) (appName : String) (pool : AuthPool) : Prop :=
  (∃ error, Returned pool (.error error)) ∨
    ∃ thread, Creates organisationID appName pool thread ∧
      ((pool.state.applications.rows.lookup (organisationID, appName)).isSome =
          true ∨
        ∃ other, other ≠ thread ∧ Creates organisationID appName pool other)

section Disorder

variable {engine : Engine} {hash : String → String} {before : AuthTables}
variable {organisationID : ID} {appName key : String} {pool after : AuthPool}
variable {mover : Nat} {drawn : UUID} {request : AuthStatement}
variable {next : request.Answer → AuthProgram}

/-- Out of order a call fails, or a second one is about to create. -/
theorem doomed_of_disorder {step : AuthStep}
    (inTurn : InTurn before organisationID appName pool)
    (standing : Standing hash before organisationID appName pool)
    (unregistered : Unregistered engine before organisationID appName)
    (isCall : IsCall hash before.identity organisationID appName step)
    (disorder : ¬ Orderly organisationID appName pool step)
    (taken : pool.step (performAuth engine) (authenticate hash true appName) step =
      some after) : Doomed organisationID appName after := by
  rcases standing.step_cases unregistered isCall taken with
    ⟨key, rfl, -, -, -⟩ |
    ⟨mover, drawn, key, request, next, rest, left, rfl, running, -, moved, advance⟩
  · exact absurd ⟨fun issues => issues.elim, fun _ _ _ issues => issues.elim⟩
      disorder
  have issues {other : AuthStatement}
      (issued : pool.Issues (.advance mover (.answered drawn) : AuthStep)
        other) :
      request = other := by
    obtain ⟨label, resume, present⟩ := issued
    rw [running] at present
    cases present
    rfl
  cases advance with
  | identified lookup waits =>
      exact absurd ⟨fun issued => (nomatch issues issued),
        fun _ _ _ issued => (nomatch issues issued)⟩ disorder
  | touched id waits =>
      exact absurd ⟨fun issued => (nomatch issues issued),
        fun _ _ _ issued => (nomatch issues issued)⟩ disorder
  | finds present =>
      refine absurd ⟨fun _ thread creating => ?_,
        fun _ _ _ issued => (nomatch issues issued)⟩ disorder
      rw [inTurn.missing unregistered creating] at present
      cases present
  | misses missing =>
      by_cases alone : ∀ thread, ¬ Creates organisationID appName pool thread
      · exact absurd ⟨fun _ => alone, fun _ _ _ issued => (nomatch issues issued)⟩
          disorder
      · obtain ⟨thread, creating⟩ := not_forall_not.mp alone
        have different : thread ≠ mover := by
          rintro rfl
          obtain ⟨other, present⟩ := creating
          rw [running] at present
          cases present
        exact Or.inr ⟨thread, moved.keeps_creates different creating,
          Or.inr ⟨mover, different.symm, key, moved.own⟩⟩
  | creates missing isFree =>
      refine absurd ⟨fun issued => (nomatch issues issued),
        fun _ other same _ => ?_⟩ disorder
      cases same
      exact isFree
  | conflicts error refused =>
      exact Or.inl ⟨.store error, mover, key, moved.own⟩

/-- Of two calls which create the application one fails. -/
theorem doomed_of_creation
    (moved : Moved pool after mover key
      (next (performAuth engine (.answered drawn) request pool.state).1))
    (running : pool.threads[mover]? = some (key, .call request next))
    (state : after.state =
      (performAuth engine (.answered drawn) request pool.state).2)
    (creating : Creates organisationID appName pool mover)
    (crowded :
      (pool.state.applications.rows.lookup (organisationID, appName)).isSome =
          true ∨
        ∃ other, other ≠ mover ∧ Creates organisationID appName pool other) :
    Doomed organisationID appName after := by
  obtain ⟨label, present⟩ := creating
  rw [running] at present
  obtain ⟨rfl, rfl⟩ := present
  rcases createApplication_cases engine pool.state drawn organisationID appName
    "\x7b\x7d" with ⟨error, failed⟩ | ⟨missing, isFree, done⟩
  · refine Or.inl ⟨.store error, mover, key, ?_⟩
    rw [moved.own]
    simp only [performAuth, AuthTables.answer, failed, created]
  · rcases crowded with taken | ⟨other, different, creating⟩
    · rw [missing] at taken
      cases taken
    · refine Or.inr ⟨other, moved.keeps_creates different creating, Or.inl ?_⟩
      simp only [state, performAuth, AuthTables.answer, done, Applications.insert,
        lookup_insert_eq, if_true, Option.isSome_some]

/-- From there on some call fails. -/
theorem Doomed.step {step : AuthStep} (doomed : Doomed organisationID appName pool)
    (isCall : IsCall hash before.identity organisationID appName step)
    (taken : pool.step (performAuth engine) (authenticate hash true appName) step =
      some after) : Doomed organisationID appName after := by
  rcases step_cases isCall taken with ⟨key, rfl, -, state, moved⟩ |
    ⟨mover, drawn, key, request, next, rfl, running, state, moved⟩
  · have beyond {other : String} {rest : AuthProgram} :
        pool.threads[pool.threads.length]? ≠ some (other, rest) := by
      rw [List.getElem?_eq_none (Nat.le_refl _)]
      exact nofun
    have keeps {thread : Nat}
        (creating : Creates organisationID appName pool thread) :
        Creates organisationID appName after thread := by
      refine moved.keeps_creates ?_ creating
      rintro rfl
      obtain ⟨other, present⟩ := creating
      exact beyond present
    rcases doomed with ⟨error, ended⟩ | ⟨thread, creating, crowded⟩
    · exact Or.inl ⟨error, moved.keeps_returned (fun _ => beyond) ended⟩
    · refine Or.inr ⟨thread, keeps creating, ?_⟩
      rw [state]
      exact crowded.imp_right fun ⟨other, different, creating⟩ =>
        ⟨other, different, keeps creating⟩
  · rcases doomed with ⟨error, ended⟩ | ⟨thread, creating, crowded⟩
    · refine Or.inl ⟨error, moved.keeps_returned (fun other same => ?_) ended⟩
      rw [running] at same
      cases same
    by_cases own : thread = mover
    · subst own
      exact doomed_of_creation moved running state creating crowded
    · have keeps := moved.keeps_creates own creating
      rcases crowded with taken | ⟨other, different, creating'⟩
      · obtain ⟨app, present⟩ := Option.isSome_iff_exists.mp taken
        refine Or.inr ⟨thread, keeps, Or.inl ?_⟩
        rw [state, lookup_performAuth engine _ request present]
        rfl
      · by_cases second : other = mover
        · subst second
          exact doomed_of_creation moved running state creating'
            (Or.inr ⟨thread, different.symm, creating⟩)
        · exact Or.inr ⟨thread, keeps, Or.inr ⟨other, different,
            moved.keeps_creates second creating'⟩⟩

/-- When every call has come to an end, one of them has failed. -/
theorem Doomed.not_allConnected (doomed : Doomed organisationID appName pool)
    (complete : Complete pool) :
    ¬ AllConnected organisationID appName before pool := by
  rintro ⟨id, -, connected⟩
  rcases doomed with ⟨error, thread, key, ended⟩ | ⟨thread, ⟨key, present⟩, -⟩
  · cases connected thread key _ ended
  · obtain ⟨result, ended⟩ := complete thread key _ present
    cases ended

end Disorder

/-! ## The first connections -/

section FirstConnections

variable {engine : Engine} {hash : String → String} {before : AuthTables}
variable {organisationID : ID} {appName : String} {pool : AuthPool}
variable {steps : List AuthStep}

theorem inTurn_of_orderly
    (unregistered : Unregistered engine before organisationID appName)
    (calls : ∀ step ∈ steps,
      IsCall hash before.identity organisationID appName step)
    (orderly : GuardedRun
      (Pool.step (performAuth engine) (authenticate hash true appName))
      (Orderly organisationID appName) (Pool.idle before) steps pool) :
    InTurn before organisationID appName pool := by
  have both := (orderly.restrict calls).invariant
    (fun pool => InTurn before organisationID appName pool ∧
      Standing hash before organisationID appName pool)
    (fun {before after label} met taken good =>
      ⟨good.1.step good.2 unregistered met.2 met.1 taken,
        good.2.step unregistered met.2 taken⟩)
    ⟨.idle, .idle⟩
  exact both.1

theorem orderly_or_doomed
    (unregistered : Unregistered engine before organisationID appName)
    (calls : ∀ step ∈ steps,
      IsCall hash before.identity organisationID appName step)
    (ran : run (Pool.step (performAuth engine) (authenticate hash true appName))
      (Pool.idle before) steps = some pool) :
    GuardedRun (Pool.step (performAuth engine) (authenticate hash true appName))
        (Orderly organisationID appName) (Pool.idle before) steps pool ∨
      Doomed organisationID appName pool := by
  apply ((guardedRun_true_iff.mpr ran).restrict calls).meets_or_doomed
    (fun pool => InTurn before organisationID appName pool ∧
      Standing hash before organisationID appName pool)
    (Doomed organisationID appName)
  · exact fun met orderly taken good =>
      ⟨good.1.step good.2 unregistered met.2 orderly taken,
        good.2.step unregistered met.2 taken⟩
  · exact fun met disorder taken good =>
      doomed_of_disorder good.1 good.2 unregistered met.2 disorder taken
  · exact fun met taken doomed => doomed.step met.2 taken
  · exact ⟨.idle, .idle⟩

/-- When every call has come to an end, they have all succeeded. -/
theorem InTurn.allConnected (inTurn : InTurn before organisationID appName pool)
    (called : pool.threads ≠ []) (complete : Complete pool) :
    AllConnected organisationID appName before pool := by
  obtain ⟨⟨key, rest⟩, others, called⟩ := List.exists_cons_of_ne_nil called
  have first : pool.threads[0]? = some (key, rest) := by
    rw [called]
    rfl
  obtain ⟨result, rfl⟩ := complete 0 key rest first
  rcases inTurn with ⟨-, none, -⟩ | ⟨id, registers, -, all⟩
  · exact absurd ⟨0, key, first⟩ (none result)
  · refine ⟨id, registers, fun thread other rest present => ?_⟩
    obtain ⟨result, rfl⟩ := complete thread other rest present
    rw [all result ⟨thread, other, present⟩]

/--
Calls with valid keys of an organisation, for a valid name which it has no
application of, in any interleaving.  As long as they are in order, at most one
application has been created and every call which has come to an end has
succeeded with it.  When all calls have come to an end, one application has been
created and all have succeeded with it exactly when they were in order.
-/
theorem firstConnection_iff
    (unregistered : Unregistered engine before organisationID appName)
    (calls : ∀ step ∈ steps,
      IsCall hash before.identity organisationID appName step)
    (ran : run (Pool.step (performAuth engine) (authenticate hash true appName))
      (Pool.idle before) steps = some pool) :
    (GuardedRun (Pool.step (performAuth engine) (authenticate hash true appName))
        (Orderly organisationID appName) (Pool.idle before) steps pool →
      AtMostOne organisationID appName before pool) ∧
      (pool.threads ≠ [] → Complete pool →
        (AllConnected organisationID appName before pool ↔
          GuardedRun
            (Pool.step (performAuth engine) (authenticate hash true appName))
            (Orderly organisationID appName) (Pool.idle before) steps pool)) := by
  refine ⟨fun orderly => ?_, fun called complete => ⟨fun connected => ?_,
    fun orderly => ?_⟩⟩
  · rcases inTurn_of_orderly unregistered calls orderly with
      ⟨rows, none, -⟩ | ⟨id, registers, -, all⟩
    · exact Or.inl ⟨rows, none⟩
    · exact Or.inr ⟨id, registers, all⟩
  · rcases orderly_or_doomed unregistered calls ran with orderly | doomed
    · exact orderly
    · exact absurd connected (doomed.not_allConnected complete)
  · exact (inTurn_of_orderly unregistered calls orderly).allConnected called
      complete

end FirstConnections

/-! ## A fleet which starts at once -/

/-- An organisation with a key and without applications. -/
def fleetTables : AuthTables := ⟨acmeKeyStore [], Applications.empty⟩

/-- The next statement of a call; a row which is created gets the identifier. -/
def answers (thread drawn : Nat) : AuthStep :=
  .advance thread (.answered ⟨drawn⟩)

/-- The second call starts when the first has come to an end. -/
def oneByOne : List AuthStep :=
  .start "dbos_scraper1" :: List.replicate 4 (answers 0 7) ++
    .start "dbos_scraper1" :: List.replicate 3 (answers 1 8)

/-- Both calls look the application up before one of them creates it. -/
def atOnce : List AuthStep :=
  [.start "dbos_scraper1", .start "dbos_scraper1"] ++
    List.replicate 3 (answers 0 7) ++ List.replicate 3 (answers 1 8) ++
      [answers 0 7, answers 1 8]

theorem unregistered_shop : Unregistered .sqlite fleetTables 1 "shop" where
  organisation := by decide
  accepted := by decide
  missing := rfl

theorem validKey_scraper :
    ValidKey id fleetTables.identity 1 "shop" "dbos_scraper1" :=
  ⟨by decide, _, rfl, rfl, rfl, rfl⟩

theorem isCall_start :
    IsCall id fleetTables.identity 1 "shop" (.start "dbos_scraper1") :=
  validKey_scraper

theorem isCall_answers {thread drawn count : Nat} :
    ∀ step ∈ List.replicate count (answers thread drawn),
      IsCall id fleetTables.identity 1 "shop" step := by
  intro step member
  rw [List.eq_of_mem_replicate member]
  trivial

/-- The creation of the second call is refused. -/
theorem authenticate_atOnce :
    ∃ pool : AuthPool,
      Unregistered .sqlite fleetTables 1 "shop" ∧
        (∀ step ∈ atOnce, IsCall id fleetTables.identity 1 "shop" step) ∧
          run (Pool.step (performAuth .sqlite) (authenticate id true "shop"))
              (Pool.idle fleetTables) atOnce = some pool ∧
            Complete pool ∧
              pool.threads[1]? = some ("dbos_scraper1",
                .done (.error (.store .uniqueViolation))) ∧
                ¬ AllConnected 1 "shop" fleetTables pool := by
  have refused : ∃ pool : AuthPool,
      run (Pool.step (performAuth .sqlite) (authenticate id true "shop"))
          (Pool.idle fleetTables) atOnce = some pool ∧
        pool.threads = [("dbos_scraper1", .done (.ok ⟨7⟩)), ("dbos_scraper1",
          .done (.error (.store .uniqueViolation)))] := ⟨_, rfl, rfl⟩
  obtain ⟨pool, ran, threads⟩ := refused
  refine ⟨pool, unregistered_shop, ?_, ran, ?_, ?_, ?_⟩
  · unfold atOnce
    simp only [List.forall_mem_append, List.forall_mem_cons]
    exact ⟨⟨⟨⟨isCall_start, isCall_start, nofun⟩, isCall_answers⟩,
      isCall_answers⟩, trivial, trivial, nofun⟩
  · apply complete_of_mem
    rw [threads]
    simp
  · rw [threads]
    rfl
  · rintro ⟨id, -, connected⟩
    have failed := connected 1 "dbos_scraper1" _ (by rw [threads]; rfl)
    cases failed

/-- One after the other, both calls get the application which the first created. -/
theorem firstConnection_iff_oneByOne :
    ∃ pool : AuthPool,
      AllConnected 1 "shop" fleetTables pool ∧
        GuardedRun
          (Pool.step (performAuth .sqlite) (authenticate id true "shop"))
          (Orderly 1 "shop") (Pool.idle fleetTables) oneByOne pool := by
  have served : ∃ pool : AuthPool,
      run (Pool.step (performAuth .sqlite) (authenticate id true "shop"))
          (Pool.idle fleetTables) oneByOne = some pool ∧
        pool.threads = [("dbos_scraper1", .done (.ok ⟨7⟩)),
            ("dbos_scraper1", .done (.ok ⟨7⟩))] ∧
          Registers 1 "shop" fleetTables pool ⟨7⟩ := ⟨_, rfl, rfl, rfl⟩
  obtain ⟨pool, ran, threads, registers⟩ := served
  have calls : ∀ step ∈ oneByOne,
      IsCall id fleetTables.identity 1 "shop" step := by
    unfold oneByOne
    simp only [List.forall_mem_append, List.forall_mem_cons]
    exact ⟨⟨isCall_start, isCall_answers⟩, isCall_start, isCall_answers⟩
  have ends : ∀ found ∈ pool.threads, found.2 = .done (.ok ⟨7⟩) := by
    rw [threads]
    simp
  have connected : AllConnected 1 "shop" fleetTables pool :=
    ⟨⟨7⟩, registers, fun _ _ _ present => ends _ (List.mem_of_getElem? present)⟩
  have complete : Complete pool :=
    complete_of_mem fun found member => ⟨_, ends found member⟩
  have called : pool.threads ≠ [] := by
    rw [threads]
    exact nofun
  exact ⟨pool, connected,
    ((firstConnection_iff unregistered_shop calls ran).2 called complete).mp
      connected⟩

end DbosRelay.Hub
