import DbosRelay.Declarative.Store
import DbosRelay.Identity.Tokens

/-!
# Authentication of a connecting executor

`Authenticate` of `internal/hub/auth.go` with the statements of its store.  The
key comes from the tables of the identity model; the application is looked up by
its name, and created under it when there is none.  The schema declares the name
unique in an organisation and the identifier unique altogether, and the
statement which creates an application is refused what would break either.
-/

namespace DbosRelay.Hub

open DbosRelay.Basic
open DbosRelay.Declarative (Engine)
open DbosRelay.Identity
open DbosRelay.Library.Programs
open DbosRelay.Library.Tables

/-! ## The applications table -/

/-- `Application`. -/
structure Application where
  id : UUID
  organisationID : ID
  name : String
  settings : String
deriving DecidableEq, Repr

/-- The rows of `applications` by organisation and name. -/
structure Applications where
  rows : Table (ID × String) Application
  unique : ∀ {first second row other}, rows.lookup first = some row →
    rows.lookup second = some other → row.id = other.id → first = second

namespace Applications

/-- No applications. -/
def empty : Applications where
  rows := ∅
  unique := by
    intro first second row other present
    cases present

/-- No row has the identifier. -/
def free (applications : Applications) (id : UUID) : Bool :=
  applications.rows.entries.all fun entry => entry.2.id ≠ id

theorem ne_of_free {applications : Applications} {id : UUID}
    {key : ID × String} {row : Application}
    (isFree : applications.free id = true)
    (present : applications.rows.lookup key = some row) : row.id ≠ id := by
  have all := List.all_eq_true.mp isFree _ (mem_entries_iff.mpr present)
  exact of_decide_eq_true all

/-- A new row, under an identifier which is free. -/
def insert (applications : Applications) (row : Application)
    (isFree : applications.free row.id = true) : Applications where
  rows := applications.rows.insert (row.organisationID, row.name) row
  unique := by
    intro first second found other present₁ present₂ same
    rcases lookup_insert_cases rfl present₁ with ⟨rfl, rfl⟩ | ⟨-, old₁⟩
    · rcases lookup_insert_cases rfl present₂ with ⟨rfl, -⟩ | ⟨-, old₂⟩
      · rfl
      · exact absurd same.symm (ne_of_free isFree old₂)
    · rcases lookup_insert_cases rfl present₂ with ⟨-, rfl⟩ | ⟨-, old₂⟩
      · exact absurd same (ne_of_free isFree old₁)
      · exact applications.unique old₁ old₂ same

end Applications

/-! ## Statements -/

/-- The tables behind `AuthStore`. -/
structure AuthTables where
  identity : Store
  applications : Applications

/-- The methods of `AuthStore` which `Authenticate` calls. -/
inductive AuthStatement where
  | getAPIKeyByLookup (lookup : String)
  | touchAPIKeyLastUsed (id : ID)
  | getApplicationByName (organisationID : ID) (name : String)
  | createApplication (organisationID : ID) (name settings : String)
deriving DecidableEq, Repr

/-- The row a statement answers with. -/
@[reducible]
def AuthStatement.Row : AuthStatement → Type
  | .getAPIKeyByLookup _ => APIKey
  | .touchAPIKeyLastUsed _ => Unit
  | .getApplicationByName _ _ | .createApplication _ _ _ => Application

/-- The answer to a statement. -/
abbrev AuthStatement.Answer (statement : AuthStatement) : Type :=
  Except StoreError statement.Row

namespace AuthTables

/-- `CreateApplication`, with the identifier the database draws. -/
def createApplication (engine : Engine) (tables : AuthTables) (drawn : UUID)
    (organisationID : ID) (name settings : String) :
    Except StoreError Application × AuthTables :=
  if (tables.identity.organisations.byID organisationID).isNone then
    (.error (.failed "FOREIGN KEY constraint failed"), tables)
  else if !engine.isApplicationName name then
    (.error (.failed "CHECK constraint failed"), tables)
  else if (tables.applications.rows.lookup (organisationID, name)).isSome then
    (.error .uniqueViolation, tables)
  else if isFree : tables.applications.free drawn = true then
    (.ok ⟨drawn, organisationID, name, settings⟩,
      { tables with
        applications := tables.applications.insert
          ⟨drawn, organisationID, name, settings⟩ isFree })
  else (.error .uniqueViolation, tables)

/-- What a statement does when nothing goes wrong. -/
def answer (engine : Engine) (tables : AuthTables) (drawn : UUID) :
    (statement : AuthStatement) → statement.Answer × AuthTables
  | .getAPIKeyByLookup lookup =>
      (tables.identity.getAPIKeyByLookup lookup, tables)
  -- `last_used_at` is not modelled.
  | .touchAPIKeyLastUsed _ => (.ok (), tables)
  | .getApplicationByName organisationID name =>
      (Store.found (tables.applications.rows.lookup (organisationID, name)), tables)
  | .createApplication organisationID name settings =>
      tables.createApplication engine drawn organisationID name settings

end AuthTables

/-- What becomes of a statement; a row which is created gets the identifier. -/
inductive AuthFate where
  | answered (drawn : UUID)
  | refused (error : StoreError)
  | lost (drawn : UUID) (error : StoreError)
deriving DecidableEq, Repr

/-- Perform a statement. -/
def performAuth (engine : Engine) (fate : AuthFate) (statement : AuthStatement)
    (tables : AuthTables) : statement.Answer × AuthTables :=
  match fate with
  | .answered drawn => tables.answer engine drawn statement
  | .refused error => (.error error, tables)
  | .lost drawn error =>
      (.error error, (tables.answer engine drawn statement).2)

/-! ## The function -/

/-- Why a connection is turned away. -/
inductive AuthError where
  | message (text : String)
  | store (error : StoreError)
deriving DecidableEq, Repr

/-- Code which uses the store. -/
abbrev AuthProgram := Program AuthStatement AuthStatement.Answer
  (Except AuthError UUID)

/-- What is left when the missing application has been created, or has not. -/
def created : Except StoreError Application → Except AuthError UUID
  | .ok app => .ok app.id
  | .error error => .error (.store error)

/-- The application is missing. -/
def createMissing (organisationID : ID) (appName : String) : AuthProgram :=
  .call (.createApplication organisationID appName "\x7b\x7d") fun answer =>
    .done (created answer)

/-- The last part of `Authenticate`, which resolves the application. -/
def getOrCreate (organisationID : ID) (appName : String) : AuthProgram :=
  .call (.getApplicationByName organisationID appName) fun
    | .ok app => .done (.ok app.id)
    | .error .noRows => createMissing organisationID appName
    | .error error => .done (.error (.store error))

/--
`Authenticate`, less `authEnabled`, which it does not read; `hasStore` is false
for a `nil` store.
-/
def authenticate (hash : String → String) (hasStore : Bool)
    (appName conductorKey : String) : AuthProgram :=
  if appName = "" ∨ conductorKey = "" then
    .done (.error (.message "missing app name or conductor key"))
  else if !hasStore then .done (.ok ⟨1 <<< 120⟩)
  else
    .call (.getAPIKeyByLookup (lookupOf conductorKey)) fun
      | .error .noRows => .done (.error (.message "invalid conductor key"))
      | .error error => .done (.error (.store error))
      | .ok keyRecord =>
          if hash conductorKey ≠ keyRecord.keyHash then
            .done (.error (.message "invalid conductor key"))
          else
            match hubRefusal keyRecord appName with
            | some text => .done (.error (.message text))
            | none =>
                .call (.touchAPIKeyLastUsed keyRecord.id) fun _ =>
                  getOrCreate keyRecord.organisationID appName

end DbosRelay.Hub
