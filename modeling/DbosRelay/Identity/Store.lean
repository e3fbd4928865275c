import DbosRelay.Library.Programs
import DbosRelay.Library.Tables
import Mathlib.Data.List.Sort

/-!
# Organisations, users, members, roles and keys

The tables of the identity migrations with the statements of
`internal/store/queries/identity.sql`, `organisations.sql` and `api_keys.sql`.
A table is keyed by what its schema declares unique, so that a second row under
the same key cannot exist.  The remaining constraints are checked by the
statements, as the database does.

A statement is atomic.  It may fail before it has an effect, and its answer may
be lost after it had one; where several rows match a `LIMIT 1` without an
order, any of them is the answer.  Identifiers are fresh UUIDs in the source
and fresh numbers here; zero is the identifier which is not valid.
-/

namespace DbosRelay.Identity

open DbosRelay.Library.Programs
open DbosRelay.Library.Tables

/-! ## Rows -/

/-- Identifiers of organisations, users and keys. -/
abbrev ID := Nat

/-- `Organisation`. -/
structure Organisation where
  id : ID
  name : String
deriving DecidableEq, Repr

/-- `User`, less its subject. -/
structure User where
  id : ID
  username : String
  email : String
  isAdmin : Bool
deriving DecidableEq, Repr

/-- The zero `User`, which a failed query leaves behind. -/
def zeroUser : User := ⟨0, "", "", false⟩

/-- A row of `organisation_members`, less its key. -/
structure Member where
  roleName : String
  createdAt : Nat
deriving DecidableEq, Repr

/-- `GetMemberRow`. -/
structure MemberRow where
  userID : ID
  username : String
  email : String
  roleName : String
deriving DecidableEq, Repr

/-- `GetUserPrimaryOrganisationRow`. -/
structure PrimaryOrganisation where
  id : ID
  name : String
  roleName : String
deriving DecidableEq, Repr

/-- A row of `roles`, less its key. -/
structure Role where
  permissions : List String
  isGlobal : Bool
deriving DecidableEq, Repr

/-- `ApiKey`, less its lookup. -/
structure APIKey where
  id : ID
  organisationID : ID
  name : String
  keyHash : String
  applicationNames : List String
  permissions : List String
  revoked : Bool
deriving DecidableEq, Repr

/-! ## The organisations table -/

/-- The rows of `organisations` by name, with their identifiers. -/
structure Organisations where
  rows : Table String ID
  next : ID
  below : ∀ {name id}, rows.lookup name = some id → id < next
  unique : ∀ {name other id}, rows.lookup name = some id →
    rows.lookup other = some id → name = other

namespace Organisations

/-- No organisations. -/
def empty : Organisations where
  rows := ∅
  next := 1
  below := by
    intro name id present
    cases present
  unique := by
    intro name other id present
    cases present

/-- A new organisation. -/
def create (organisations : Organisations) (name : String) : Organisations where
  rows := organisations.rows.insert name organisations.next
  next := organisations.next + 1
  below := by
    intro other id present
    rcases lookup_insert_cases rfl present with ⟨-, rfl⟩ | ⟨-, present⟩
    · exact Nat.lt_succ_self _
    · exact Nat.lt_succ_of_lt (organisations.below present)
  unique := by
    intro first second id present₁ present₂
    rcases lookup_insert_cases rfl present₁ with ⟨rfl, rfl⟩ | ⟨-, old₁⟩
    · rcases lookup_insert_cases rfl present₂ with ⟨rfl, -⟩ | ⟨-, old₂⟩
      · rfl
      · exact absurd (organisations.below old₂) (Nat.lt_irrefl _)
    · rcases lookup_insert_cases rfl present₂ with ⟨rfl, rfl⟩ | ⟨-, old₂⟩
      · exact absurd (organisations.below old₁) (Nat.lt_irrefl _)
      · exact organisations.unique old₁ old₂

/-- The organisation called `old` is called `new` from now on. -/
def rename (organisations : Organisations) (old new : String) (id : ID)
    (present : organisations.rows.lookup old = some id) : Organisations where
  rows := (organisations.rows.erase old).insert new id
  next := organisations.next
  below := by
    intro other found lookup
    rcases lookup_insert_cases rfl lookup with ⟨-, rfl⟩ | ⟨-, lookup⟩
    · exact organisations.below present
    · rw [lookup_erase_eq] at lookup
      split_ifs at lookup
      exact organisations.below lookup
  unique := by
    have kept : ∀ {name found},
        (organisations.rows.erase old).lookup name = some found →
          name ≠ old ∧ organisations.rows.lookup name = some found := by
      intro name found lookup
      rw [lookup_erase_eq] at lookup
      split_ifs at lookup with same
      exact ⟨same, lookup⟩
    intro first second found present₁ present₂
    rcases lookup_insert_cases rfl present₁ with ⟨rfl, rfl⟩ | ⟨-, old₁⟩
    · rcases lookup_insert_cases rfl present₂ with ⟨rfl, -⟩ | ⟨-, old₂⟩
      · rfl
      · obtain ⟨different, lookup⟩ := kept old₂
        exact absurd (organisations.unique lookup present) different
    · rcases lookup_insert_cases rfl present₂ with ⟨rfl, rfl⟩ | ⟨-, old₂⟩
      · obtain ⟨different, lookup⟩ := kept old₁
        exact absurd (organisations.unique lookup present) different
      · exact organisations.unique (kept old₁).2 (kept old₂).2

/-- The organisation with an identifier. -/
def byID (organisations : Organisations) (id : ID) : Option Organisation :=
  (organisations.rows.entries.find? fun entry => entry.2 = id).map fun entry =>
    ⟨entry.2, entry.1⟩

theorem byID_eq_some {organisations : Organisations} {id : ID}
    {organisation : Organisation}
    (found : organisations.byID id = some organisation) :
    organisation.id = id ∧
      organisations.rows.lookup organisation.name = some id := by
  obtain ⟨⟨name, other⟩, present, rfl⟩ := Option.map_eq_some_iff.mp found
  have matched := List.find?_some present
  have same := decide_eq_true_iff.mp matched
  refine ⟨same, ?_⟩
  rw [← same]
  exact mem_entries_iff.mp (List.mem_of_find?_eq_some present)

end Organisations

/-! ## The users table -/

/-- The rows of `users` by subject; a username belongs to one of them only. -/
structure Users where
  rows : Table String User
  named : ∀ {subject user}, rows.lookup subject = some user →
    user.username ≠ ""
  unique : ∀ {subject other user second},
    rows.lookup subject = some user → rows.lookup other = some second →
      user.username = second.username → subject = other

namespace Users

/-- No users. -/
def empty : Users where
  rows := ∅
  named := by
    intro subject user present
    cases present
  unique := by
    intro subject other user second present
    cases present

/-- No other subject has the username. -/
def free (users : Users) (subject username : String) : Bool :=
  users.rows.entries.all fun entry =>
    entry.1 = subject || entry.2.username ≠ username

theorem ne_of_free {users : Users} {subject other username : String}
    {user : User} (isFree : users.free subject username = true)
    (present : users.rows.lookup other = some user) (different : other ≠ subject) :
    user.username ≠ username := by
  have all := List.all_eq_true.mp isFree _ (mem_entries_iff.mpr present)
  simpa [different] using all

/-- Write a row, if the username is not empty and not another's. -/
def put (users : Users) (subject : String) (user : User)
    (named : user.username ≠ "")
    (isFree : users.free subject user.username = true) : Users where
  rows := users.rows.insert subject user
  named := by
    intro other found present
    rcases lookup_insert_cases rfl present with ⟨-, rfl⟩ | ⟨-, present⟩
    · exact named
    · exact users.named present
  unique := by
    intro first second user₁ user₂ present₁ present₂ same
    rcases lookup_insert_cases rfl present₁ with ⟨rfl, rfl⟩ | ⟨ne₁, old₁⟩
    · rcases lookup_insert_cases rfl present₂ with ⟨rfl, -⟩ | ⟨ne₂, old₂⟩
      · rfl
      · exact absurd same.symm (ne_of_free isFree old₂ ne₂)
    · rcases lookup_insert_cases rfl present₂ with ⟨rfl, rfl⟩ | ⟨ne₂, old₂⟩
      · exact absurd same (ne_of_free isFree old₁ ne₁)
      · exact users.unique old₁ old₂ same

/-- The row with a username. -/
def byUsername (users : Users) (username : String) : Option User :=
  (users.rows.entries.find? fun entry => entry.2.username = username).map
    Sigma.snd

theorem byUsername_eq_some {users : Users} {username : String} {user : User} :
    users.byUsername username = some user ↔
      ∃ subject, users.rows.lookup subject = some user ∧
        user.username = username := by
  constructor
  · intro found
    obtain ⟨⟨subject, row⟩, present, rfl⟩ := Option.map_eq_some_iff.mp found
    have named := List.find?_some present
    exact ⟨subject, mem_entries_iff.mp (List.mem_of_find?_eq_some present),
      decide_eq_true_iff.mp named⟩
  · rintro ⟨subject, present, named⟩
    have member := mem_entries_iff.mpr present
    cases found : users.rows.entries.find? fun entry =>
        entry.2.username = username with
    | none =>
        have none := List.find?_eq_none.mp found _ member
        exact absurd (decide_eq_true named) none
    | some entry =>
        have matched := List.find?_some found
        have same := decide_eq_true_iff.mp matched
        have other := mem_entries_iff.mp (List.mem_of_find?_eq_some found)
        have subjects := users.unique other present (same.trans named.symm)
        rw [byUsername, found]
        obtain ⟨otherSubject, row⟩ := entry
        simp only at other subjects
        rw [subjects, present] at other
        exact other.symm

end Users

/-! ## Statements -/

/-- The identity tables. -/
structure Store where
  organisations : Organisations
  users : Users
  members : Table (ID × ID) Member
  roles : Table (Option ID × String) Role
  apiKeys : Table String APIKey
  domainClaims : Table String ID
  nextID : ID

/-- The statements over the identity tables. -/
inductive Statement where
  | getOrganisationByName (name : String)
  | getOrganisationByID (id : ID)
  | upsertOrganisation (name : String)
  | updateOrganisation (id : ID) (name : Option String)
  | getUserBySubject (subject : String)
  | getUserByUsername (username : String)
  | upsertUser (subject username email : String) (isAdmin : Bool)
  | getMember (organisationID : ID) (username : String)
  | upsertMemberRole (organisationID userID : ID) (roleName : String)
  | removeMember (organisationID userID : ID)
  | getUserPrimaryOrganisation (userID : ID)
  | getRole (organisationID : ID) (name : String)
  | createRole (organisationID : ID) (name : String) (permissions : List String)
  | deleteRole (organisationID : ID) (name : String)
  | getDomainClaim (domain : String)
  | createDomainClaim (organisationID : ID) (domain : String)
  | deleteDomainClaim (organisationID : ID) (domain : String)
  | getAPIKeyByLookup (lookup : String)
  | createAPIKey (organisationID : ID) (name lookup keyHash : String)
      (applicationNames permissions : List String)
  | revokeAPIKey (lookup : String)
  | touchAPIKeyLastUsed (id : ID)
deriving DecidableEq, Repr

/-- How a statement fails. -/
inductive StoreError where
  | noRows
  | uniqueViolation
  | failed (message : String)
deriving DecidableEq, Repr

/-- The row a statement answers with. -/
@[reducible]
def Statement.Row : Statement → Type
  | .getOrganisationByName _ | .getOrganisationByID _ | .upsertOrganisation _
  | .updateOrganisation _ _ => Organisation
  | .getUserBySubject _ | .getUserByUsername _ | .upsertUser _ _ _ _ => User
  | .getMember _ _ => MemberRow
  | .getUserPrimaryOrganisation _ => PrimaryOrganisation
  | .getRole _ _ | .createRole _ _ _ | .deleteRole _ _ => Role
  | .getDomainClaim _ => ID
  | .getAPIKeyByLookup _ => APIKey
  | .upsertMemberRole _ _ _ | .removeMember _ _ | .createDomainClaim _ _
  | .deleteDomainClaim _ _ | .createAPIKey _ _ _ _ _ _ | .revokeAPIKey _
  | .touchAPIKeyLastUsed _ => Unit

/-- The answer to a statement. -/
abbrev Statement.Answer (statement : Statement) : Type :=
  Except StoreError statement.Row

namespace Store

/-- The names the schema accepts for an organisation. -/
def acceptsOrganisationName (name : String) : Bool :=
  3 ≤ name.length && name.length ≤ 30

/-- `UpsertOrganisation`. -/
def upsertOrganisation (store : Store) (name : String) :
    Except StoreError Organisation × Store :=
  match store.organisations.rows.lookup name with
  | some id => (.ok ⟨id, name⟩, store)
  | none =>
      if acceptsOrganisationName name then
        (.ok ⟨store.organisations.next, name⟩,
          { store with organisations := store.organisations.create name })
      else (.error (.failed "CHECK constraint failed"), store)

/-- `UpdateOrganisation`, as far as the name goes. -/
def updateOrganisation (store : Store) (id : ID) (name : Option String) :
    Except StoreError Organisation × Store :=
  match found : store.organisations.byID id with
  | none => (.error .noRows, store)
  | some organisation =>
      match name with
      | none => (.ok organisation, store)
      | some name =>
          if organisation.name = name then (.ok organisation, store)
          else if (store.organisations.rows.lookup name).isSome then
            (.error .uniqueViolation, store)
          else if acceptsOrganisationName name then
            (.ok ⟨id, name⟩,
              { store with
                organisations := store.organisations.rename organisation.name
                  name id (Organisations.byID_eq_some found).2 })
          else (.error (.failed "CHECK constraint failed"), store)

/-- The row `UpsertUser` leaves for a subject. -/
def upsertedUser (store : Store) (subject username email : String)
    (isAdmin : Bool) : User :=
  match store.users.rows.lookup subject with
  | some user => { user with username := username, email := email }
  | none => ⟨store.nextID, username, email, isAdmin⟩

theorem username_upsertedUser (store : Store) (subject username email : String)
    (isAdmin : Bool) :
    (store.upsertedUser subject username email isAdmin).username = username := by
  unfold upsertedUser
  split <;> rfl

/-- `UpsertUser`. -/
def upsertUser (store : Store) (subject username email : String)
    (isAdmin : Bool) : Except StoreError User × Store :=
  let user := store.upsertedUser subject username email isAdmin
  if named : user.username ≠ "" then
    if 64 < username.length then
      (.error (.failed "CHECK constraint failed"), store)
    else if isFree : store.users.free subject user.username = true then
      (.ok user,
        { store with
          users := store.users.put subject user named isFree
          nextID := store.nextID + 1 })
    else (.error .uniqueViolation, store)
  else (.error (.failed "CHECK constraint failed"), store)

/-- `GetMember`. -/
def getMember (store : Store) (organisationID : ID) (username : String) :
    Except StoreError MemberRow :=
  match store.users.byUsername username with
  | none => .error .noRows
  | some user =>
      match store.members.lookup (organisationID, user.id) with
      | none => .error .noRows
      | some member =>
          .ok ⟨user.id, user.username, user.email, member.roleName⟩

/-- The foreign keys of `organisation_members` and the role triggers. -/
def acceptsMember (store : Store) (organisationID userID : ID)
    (roleName : String) : Bool :=
  (store.organisations.byID organisationID).isSome &&
    store.users.rows.entries.any (fun entry => entry.2.id = userID) &&
      ((store.roles.lookup (some organisationID, roleName)).isSome ||
        (store.roles.lookup (none, roleName)).isSome)

/-- `UpsertMemberRole`. -/
def upsertMemberRole (store : Store) (organisationID userID : ID)
    (roleName : String) : Except StoreError Unit × Store :=
  if store.acceptsMember organisationID userID roleName then
    let createdAt :=
      ((store.members.lookup (organisationID, userID)).map
        Member.createdAt).getD store.nextID
    (.ok (),
      { store with
        members := store.members.insert (organisationID, userID)
          ⟨roleName, createdAt⟩
        nextID := store.nextID + 1 })
  else
    (.error (.failed "role does not exist in organisation or globally"), store)

/-- The memberships of a user, the oldest first. -/
def membershipsOf (store : Store) (userID : ID) : List (ID × Member) :=
  (store.members.entries.filterMap fun entry =>
    if entry.1.2 = userID then some (entry.1.1, entry.2) else none).insertionSort
      fun first second => first.2.createdAt ≤ second.2.createdAt

/-- `GetUserPrimaryOrganisation`. -/
def getUserPrimaryOrganisation (store : Store) (userID : ID) :
    Except StoreError PrimaryOrganisation :=
  match (store.membershipsOf userID).filterMap fun membership =>
      (store.organisations.byID membership.1).map fun organisation =>
        (⟨organisation.id, organisation.name, membership.2.roleName⟩ :
          PrimaryOrganisation) with
  | [] => .error .noRows
  | primary :: _ => .ok primary

/-- `GetRole`: of the organisation's role and the built-in one, either. -/
def getRole (store : Store) (ownFirst : Bool) (organisationID : ID)
    (name : String) : Except StoreError Role :=
  let own := store.roles.lookup (some organisationID, name)
  let builtIn := store.roles.lookup (none, name)
  match if ownFirst then own.orElse fun _ => builtIn
      else builtIn.orElse fun _ => own with
  | some role => .ok role
  | none => .error .noRows

/-- `CreateRole`. -/
def createRole (store : Store) (organisationID : ID) (name : String)
    (permissions : List String) : Except StoreError Role × Store :=
  if (store.organisations.byID organisationID).isNone then
    (.error (.failed "FOREIGN KEY constraint failed"), store)
  else if (store.roles.lookup (some organisationID, name)).isSome then
    (.error .uniqueViolation, store)
  else if 3 ≤ name.length && name.length ≤ 30 then
    (.ok ⟨permissions, false⟩,
      { store with
        roles := store.roles.insert (some organisationID, name)
          ⟨permissions, false⟩ })
  else (.error (.failed "CHECK constraint failed"), store)

/-- Some member of the organisation has the role. -/
def roleInUse (store : Store) (organisationID : ID) (name : String) : Bool :=
  store.members.entries.any fun entry =>
    entry.1.1 = organisationID && entry.2.roleName = name

/-- `DeleteRole`. -/
def deleteRole (store : Store) (organisationID : ID) (name : String) :
    Except StoreError Role × Store :=
  match store.roles.lookup (some organisationID, name) with
  | none => (.error .noRows, store)
  | some role =>
      if role.isGlobal then (.error .noRows, store)
      else if store.roleInUse organisationID name then
        (.error (.failed
          "cannot delete role because it is still referenced by organisation members"),
          store)
      else
        (.ok role,
          { store with roles := store.roles.erase (some organisationID, name) })

/-- `GetAPIKeyByLookup`. -/
def getAPIKeyByLookup (store : Store) (lookup : String) :
    Except StoreError APIKey :=
  match store.apiKeys.lookup lookup with
  | some key => if key.revoked then .error .noRows else .ok key
  | none => .error .noRows

/-- `CreateAPIKey`. -/
def createAPIKey (store : Store) (organisationID : ID)
    (name lookup keyHash : String) (applicationNames permissions : List String) :
    Except StoreError Unit × Store :=
  if (store.organisations.byID organisationID).isNone then
    (.error (.failed "FOREIGN KEY constraint failed"), store)
  else if (store.apiKeys.lookup lookup).isSome ||
      store.apiKeys.entries.any (fun entry =>
        entry.2.organisationID = organisationID && entry.2.name = name &&
          !entry.2.revoked) then
    (.error .uniqueViolation, store)
  else
    (.ok (),
      { store with
        apiKeys := store.apiKeys.insert lookup
          ⟨store.nextID, organisationID, name, keyHash, applicationNames,
            permissions, false⟩
        nextID := store.nextID + 1 })

/-- Answer from a table. -/
def found {Row : Type} (row : Option Row) : Except StoreError Row :=
  match row with
  | some row => .ok row
  | none => .error .noRows

theorem found_eq_ok {Row : Type} {row : Option Row} {value : Row} :
    found row = .ok value ↔ row = some value := by
  cases row with
  | none => simp [found]
  | some other => simp [found]

/-- What a statement does when nothing goes wrong. -/
def answer (store : Store) (ownFirst : Bool) :
    (statement : Statement) → statement.Answer × Store
  | .getOrganisationByName name =>
      (found ((store.organisations.rows.lookup name).map fun id => ⟨id, name⟩),
        store)
  | .getOrganisationByID id => (found (store.organisations.byID id), store)
  | .upsertOrganisation name => store.upsertOrganisation name
  | .updateOrganisation id name => store.updateOrganisation id name
  | .getUserBySubject subject =>
      (found (store.users.rows.lookup subject), store)
  | .getUserByUsername username =>
      (found (store.users.byUsername username), store)
  | .upsertUser subject username email isAdmin =>
      store.upsertUser subject username email isAdmin
  | .getMember organisationID username =>
      (store.getMember organisationID username, store)
  | .upsertMemberRole organisationID userID roleName =>
      store.upsertMemberRole organisationID userID roleName
  | .removeMember organisationID userID =>
      (found ((store.members.lookup (organisationID, userID)).map fun _ => ()),
        { store with members := store.members.erase (organisationID, userID) })
  | .getUserPrimaryOrganisation userID =>
      (store.getUserPrimaryOrganisation userID, store)
  | .getRole organisationID name =>
      (store.getRole ownFirst organisationID name, store)
  | .createRole organisationID name permissions =>
      store.createRole organisationID name permissions
  | .deleteRole organisationID name => store.deleteRole organisationID name
  | .getDomainClaim domain => (found (store.domainClaims.lookup domain), store)
  | .createDomainClaim organisationID domain =>
      if (store.domainClaims.lookup domain).isSome then
        (.error .uniqueViolation, store)
      else
        (.ok (),
          { store with
            domainClaims := store.domainClaims.insert domain organisationID })
  | .deleteDomainClaim organisationID domain =>
      if store.domainClaims.lookup domain = some organisationID then
        (.ok (), { store with domainClaims := store.domainClaims.erase domain })
      else (.error .noRows, store)
  | .getAPIKeyByLookup lookup => (store.getAPIKeyByLookup lookup, store)
  | .createAPIKey organisationID name lookup keyHash applicationNames
      permissions =>
      store.createAPIKey organisationID name lookup keyHash applicationNames
        permissions
  | .revokeAPIKey lookup =>
      (found ((store.apiKeys.lookup lookup).map fun _ => ()),
        { store with
          apiKeys := modify store.apiKeys lookup fun key =>
            { key with revoked := true } })
  -- `last_used_at` is not modelled.
  | .touchAPIKeyLastUsed _ => (.ok (), store)

end Store

/-- What becomes of a statement. -/
inductive Fate where
  | answered (ownFirst : Bool)
  | refused (error : StoreError)
  | lost (error : StoreError)
deriving DecidableEq, Repr

/-- Perform a statement. -/
def perform (fate : Fate) (statement : Statement) (store : Store) :
    statement.Answer × Store :=
  match fate with
  | .answered ownFirst => store.answer ownFirst statement
  | .refused error => (.error error, store)
  | .lost error => (.error error, (store.answer true statement).2)

/-- Code which uses the store. -/
abbrev StoreProgram (Value : Type) := Program Statement Statement.Answer Value

/-- Issue a statement. -/
def issue (statement : Statement) : StoreProgram statement.Answer :=
  Program.ask statement

/-- The first statement of a program. -/
theorem ends_issue {Value : Type} {statement : Statement}
    {next : statement.Answer → StoreProgram Value} {store after : Store}
    {value : Value} :
    (issue statement >>= next).Ends perform store value after ↔
      ∃ fate answer middle,
        perform fate statement store = (answer, middle) ∧
          (next answer).Ends perform middle value after := by
  rw [issue, Program.ask_bind, Program.ends_call]
  constructor
  · rintro ⟨fate, ends⟩
    exact ⟨fate, _, _, rfl, ends⟩
  · rintro ⟨fate, answer, middle, done, ends⟩
    refine ⟨fate, ?_⟩
    rw [done]
    exact ends

theorem only_issue {Value : Type} {allowed : Statement → Prop}
    {statement : Statement} {next : statement.Answer → StoreProgram Value}
    (first : allowed statement) (rest : ∀ answer, (next answer).Only allowed) :
    (issue statement >>= next).Only allowed :=
  ⟨first, rest⟩

theorem yields_issue {Value : Type} {right : Value → Prop}
    {statement : Statement} {next : statement.Answer → StoreProgram Value}
    (rest : ∀ answer, (next answer).Yields right) :
    (issue statement >>= next).Yields right :=
  rest

/-- What a statement answered is what it had answered if nothing went wrong. -/
theorem perform_ok {fate : Fate} {statement : Statement} {store after : Store}
    {row : statement.Row} (done : perform fate statement store = (.ok row, after)) :
    ∃ ownFirst, store.answer ownFirst statement = (.ok row, after) := by
  cases fate with
  | answered ownFirst => exact ⟨ownFirst, done⟩
  | refused error => cases done
  | lost error => cases done

/-- The tables are as before, or as the statement leaves them. -/
theorem perform_store (fate : Fate) (statement : Statement) (store : Store) :
    (perform fate statement store).2 = store ∨
      ∃ ownFirst, (perform fate statement store).2 =
        (store.answer ownFirst statement).2 := by
  cases fate with
  | answered ownFirst => exact Or.inr ⟨ownFirst, rfl⟩
  | refused error => exact Or.inl rfl
  | lost error => exact Or.inr ⟨true, rfl⟩

/-! ## What the statements leave alone -/

/-- The identity tables by name. -/
inductive IdentityTable where
  | organisations
  | users
  | members
  | roles
  | apiKeys
  | domainClaims
deriving DecidableEq, Repr

/-- The table a statement writes. -/
def Statement.writes : Statement → Option IdentityTable
  | .upsertOrganisation _ | .updateOrganisation _ _ => some .organisations
  | .upsertUser _ _ _ _ => some .users
  | .upsertMemberRole _ _ _ | .removeMember _ _ => some .members
  | .createRole _ _ _ | .deleteRole _ _ => some .roles
  | .createAPIKey _ _ _ _ _ _ | .revokeAPIKey _ => some .apiKeys
  | .createDomainClaim _ _ | .deleteDomainClaim _ _ => some .domainClaims
  | _ => none

namespace Store

theorem upsertOrganisation_frame (store : Store) (name : String) :
    ∃ organisations, (store.upsertOrganisation name).2 =
      { store with organisations := organisations } := by
  unfold upsertOrganisation
  split
  · exact ⟨store.organisations, rfl⟩
  · split_ifs
    · exact ⟨_, rfl⟩
    · exact ⟨store.organisations, rfl⟩

theorem updateOrganisation_frame (store : Store) (id : ID)
    (name : Option String) :
    ∃ organisations, (store.updateOrganisation id name).2 =
      { store with organisations := organisations } := by
  unfold updateOrganisation
  split
  · exact ⟨store.organisations, rfl⟩
  · split
    · exact ⟨store.organisations, rfl⟩
    · split_ifs
      · exact ⟨store.organisations, rfl⟩
      · exact ⟨store.organisations, rfl⟩
      · exact ⟨_, rfl⟩
      · exact ⟨store.organisations, rfl⟩

theorem upsertUser_frame (store : Store) (subject username email : String)
    (isAdmin : Bool) :
    ∃ users nextID, (store.upsertUser subject username email isAdmin).2 =
      { store with users := users, nextID := nextID } := by
  unfold upsertUser
  simp only
  split_ifs
  · exact ⟨store.users, store.nextID, rfl⟩
  · exact ⟨_, _, rfl⟩
  · exact ⟨store.users, store.nextID, rfl⟩
  · exact ⟨store.users, store.nextID, rfl⟩

theorem upsertMemberRole_frame (store : Store) (organisationID userID : ID)
    (roleName : String) :
    ∃ members nextID,
      (store.upsertMemberRole organisationID userID roleName).2 =
        { store with members := members, nextID := nextID } := by
  unfold upsertMemberRole
  split_ifs
  · exact ⟨_, _, rfl⟩
  · exact ⟨store.members, store.nextID, rfl⟩

theorem createRole_frame (store : Store) (organisationID : ID) (name : String)
    (permissions : List String) :
    ∃ roles, (store.createRole organisationID name permissions).2 =
      { store with roles := roles } := by
  unfold createRole
  split_ifs
  · exact ⟨store.roles, rfl⟩
  · exact ⟨store.roles, rfl⟩
  · exact ⟨_, rfl⟩
  · exact ⟨store.roles, rfl⟩

theorem deleteRole_frame (store : Store) (organisationID : ID) (name : String) :
    ∃ roles, (store.deleteRole organisationID name).2 =
      { store with roles := roles } := by
  unfold deleteRole
  split
  · exact ⟨store.roles, rfl⟩
  · split_ifs
    · exact ⟨store.roles, rfl⟩
    · exact ⟨store.roles, rfl⟩
    · exact ⟨_, rfl⟩

theorem createAPIKey_frame (store : Store) (organisationID : ID)
    (name lookup keyHash : String) (applicationNames permissions : List String) :
    ∃ apiKeys nextID,
      (store.createAPIKey organisationID name lookup keyHash applicationNames
        permissions).2 = { store with apiKeys := apiKeys, nextID := nextID } := by
  unfold createAPIKey
  split_ifs
  · exact ⟨store.apiKeys, store.nextID, rfl⟩
  · exact ⟨store.apiKeys, store.nextID, rfl⟩
  · exact ⟨_, _, rfl⟩

/-- A statement leaves every table but the one it writes. -/
structure Leaves (written : Option IdentityTable) (store after : Store) :
    Prop where
  organisations : written ≠ some .organisations →
    after.organisations = store.organisations
  users : written ≠ some .users → after.users = store.users
  members : written ≠ some .members → after.members = store.members
  roles : written ≠ some .roles → after.roles = store.roles
  apiKeys : written ≠ some .apiKeys → after.apiKeys = store.apiKeys

theorem leaves_refl (written : Option IdentityTable) (store : Store) :
    Leaves written store store :=
  ⟨fun _ => rfl, fun _ => rfl, fun _ => rfl, fun _ => rfl, fun _ => rfl⟩

theorem leaves_answer (store : Store) (ownFirst : Bool) (statement : Statement) :
    Leaves statement.writes store (store.answer ownFirst statement).2 := by
  cases statement with
  | upsertOrganisation name =>
      obtain ⟨organisations, frame⟩ := store.upsertOrganisation_frame name
      rw [answer, frame]
      exact ⟨fun other => (other rfl).elim, fun _ => rfl, fun _ => rfl,
        fun _ => rfl, fun _ => rfl⟩
  | updateOrganisation id name =>
      obtain ⟨organisations, frame⟩ := store.updateOrganisation_frame id name
      rw [answer, frame]
      exact ⟨fun other => (other rfl).elim, fun _ => rfl, fun _ => rfl,
        fun _ => rfl, fun _ => rfl⟩
  | upsertUser subject username email isAdmin =>
      obtain ⟨users, nextID, frame⟩ :=
        store.upsertUser_frame subject username email isAdmin
      rw [answer, frame]
      exact ⟨fun _ => rfl, fun other => (other rfl).elim, fun _ => rfl,
        fun _ => rfl, fun _ => rfl⟩
  | upsertMemberRole organisationID userID roleName =>
      obtain ⟨members, nextID, frame⟩ :=
        store.upsertMemberRole_frame organisationID userID roleName
      rw [answer, frame]
      exact ⟨fun _ => rfl, fun _ => rfl, fun other => (other rfl).elim,
        fun _ => rfl, fun _ => rfl⟩
  | removeMember organisationID userID =>
      exact ⟨fun _ => rfl, fun _ => rfl, fun other => (other rfl).elim,
        fun _ => rfl, fun _ => rfl⟩
  | createRole organisationID name permissions =>
      obtain ⟨roles, frame⟩ :=
        store.createRole_frame organisationID name permissions
      rw [answer, frame]
      exact ⟨fun _ => rfl, fun _ => rfl, fun _ => rfl,
        fun other => (other rfl).elim, fun _ => rfl⟩
  | deleteRole organisationID name =>
      obtain ⟨roles, frame⟩ := store.deleteRole_frame organisationID name
      rw [answer, frame]
      exact ⟨fun _ => rfl, fun _ => rfl, fun _ => rfl,
        fun other => (other rfl).elim, fun _ => rfl⟩
  | createAPIKey organisationID name lookup keyHash applicationNames
      permissions =>
      obtain ⟨apiKeys, nextID, frame⟩ := store.createAPIKey_frame organisationID
        name lookup keyHash applicationNames permissions
      rw [answer, frame]
      exact ⟨fun _ => rfl, fun _ => rfl, fun _ => rfl, fun _ => rfl,
        fun other => (other rfl).elim⟩
  | revokeAPIKey lookup =>
      exact ⟨fun _ => rfl, fun _ => rfl, fun _ => rfl, fun _ => rfl,
        fun other => (other rfl).elim⟩
  | createDomainClaim organisationID domain =>
      rw [answer]
      split_ifs
      · exact leaves_refl _ _
      · exact ⟨fun _ => rfl, fun _ => rfl, fun _ => rfl, fun _ => rfl,
          fun _ => rfl⟩
  | deleteDomainClaim organisationID domain =>
      rw [answer]
      split_ifs
      · exact ⟨fun _ => rfl, fun _ => rfl, fun _ => rfl, fun _ => rfl,
          fun _ => rfl⟩
      · exact leaves_refl _ _
  | _ => exact leaves_refl _ _

end Store

theorem leaves_perform (fate : Fate) (statement : Statement) (store : Store) :
    Store.Leaves statement.writes store (perform fate statement store).2 := by
  rcases perform_store fate statement store with same | ⟨ownFirst, same⟩
  · rw [same]
    exact Store.leaves_refl _ _
  · rw [same]
    exact store.leaves_answer ownFirst statement

/-- A statement which writes no table leaves the store as it is. -/
theorem perform_of_reads {fate : Fate} {statement : Statement} {store : Store}
    (reads : statement.writes = none) :
    (perform fate statement store).2 = store := by
  rcases perform_store fate statement store with same | ⟨ownFirst, same⟩
  · exact same
  · rw [same]
    cases statement <;> first | rfl | cases reads

/-- A statement which reads leaves the store to the rest of the program. -/
theorem ends_read {Value : Type} {statement : Statement}
    {next : statement.Answer → StoreProgram Value} {store after : Store}
    {value : Value} (reads : statement.writes = none)
    (ends : (issue statement >>= next).Ends perform store value after) :
    ∃ fate answer, perform fate statement store = (answer, store) ∧
      (next answer).Ends perform store value after := by
  obtain ⟨fate, answer, middle, done, rest⟩ := ends_issue.mp ends
  have same : (perform fate statement store).2 = store := perform_of_reads reads
  rw [done] at same
  simp only at same
  rw [same] at done rest
  exact ⟨fate, answer, done, rest⟩

/-- What ends when it does not find a row changes nothing, or finds one. -/
theorem unchanged_or_found {Value : Type} {statement : Statement}
    {next : statement.Answer → StoreProgram Value} {store after : Store}
    {value : Value} (reads : statement.writes = none)
    (ends : (issue statement >>= next).Ends perform store value after)
    (stops : ∀ error, ∃ last, next (.error error) = .done last) :
    after = store ∨ ∃ fate row, perform fate statement store = (.ok row, store) ∧
      (next (.ok row)).Ends perform store value after := by
  obtain ⟨fate, answer, done, ends⟩ := ends_read reads ends
  cases answer with
  | error error =>
      obtain ⟨last, stopped⟩ := stops error
      rw [stopped] at ends
      exact Or.inl (Program.ends_done.mp ends).2
  | ok row => exact Or.inr ⟨fate, row, done, ends⟩

/-! ## What the statements answer -/

section Answers

variable {fate : Fate} {store after : Store}

theorem getOrganisationByName_ok {name : String} {organisation : Organisation}
    (done : perform fate (.getOrganisationByName name) store =
      (.ok organisation, after)) :
    store.organisations.rows.lookup name = some organisation.id ∧
      organisation.name = name ∧ store = after := by
  obtain ⟨ownFirst, answered⟩ := perform_ok done
  simp only [Store.answer] at answered
  cases present : store.organisations.rows.lookup name with
  | none =>
      rw [present] at answered
      cases answered
  | some id =>
      rw [present] at answered
      cases answered
      exact ⟨rfl, rfl, rfl⟩

theorem upsertOrganisation_ok {name : String} {organisation : Organisation}
    (done : perform fate (.upsertOrganisation name) store =
      (.ok organisation, after)) :
    organisation.name = name ∧
      (store.organisations.rows.lookup name = some organisation.id ∨
        store.organisations.rows.lookup name = none ∧
          organisation.id = store.organisations.next) := by
  obtain ⟨ownFirst, answered⟩ := perform_ok done
  simp only [Store.answer, Store.upsertOrganisation] at answered
  cases present : store.organisations.rows.lookup name with
  | some id =>
      simp only [present] at answered
      cases answered
      exact ⟨rfl, Or.inl rfl⟩
  | none =>
      simp only [present] at answered
      split_ifs at answered
      · cases answered
        exact ⟨rfl, Or.inr ⟨rfl, rfl⟩⟩
      · cases answered

theorem getUserBySubject_ok {subject : String} {user : User}
    (done : perform fate (.getUserBySubject subject) store =
      (.ok user, after)) :
    store.users.rows.lookup subject = some user ∧ store = after := by
  obtain ⟨ownFirst, answered⟩ := perform_ok done
  obtain ⟨present, same⟩ := Prod.mk.inj answered
  exact ⟨Store.found_eq_ok.mp present, same⟩

theorem getUserByUsername_ok {username : String} {user : User}
    (done : perform fate (.getUserByUsername username) store =
      (.ok user, after)) :
    store.users.byUsername username = some user ∧ store = after := by
  obtain ⟨ownFirst, answered⟩ := perform_ok done
  obtain ⟨present, same⟩ := Prod.mk.inj answered
  exact ⟨Store.found_eq_ok.mp present, same⟩

theorem upsertUser_ok {subject username email : String} {isAdmin : Bool}
    {user : User}
    (done : perform fate (.upsertUser subject username email isAdmin) store =
      (.ok user, after)) :
    user.username = username ∧
      after.users.rows = store.users.rows.insert subject user := by
  obtain ⟨ownFirst, answered⟩ := perform_ok done
  simp only [Store.answer, Store.upsertUser] at answered
  split_ifs at answered with named long isFree
  · cases answered
  · cases answered
    exact ⟨store.username_upsertedUser subject username email isAdmin, rfl⟩
  · cases answered
  · cases answered

theorem getMember_ok {organisationID : ID} {username : String}
    {row : MemberRow}
    (done : perform fate (.getMember organisationID username) store =
      (.ok row, after)) :
    ∃ subject user member,
      store.users.rows.lookup subject = some user ∧ user.username = username ∧
        store.members.lookup (organisationID, user.id) = some member ∧
          row.userID = user.id ∧ row.roleName = member.roleName ∧
            store = after := by
  obtain ⟨ownFirst, answered⟩ := perform_ok done
  simp only [Store.answer, Store.getMember] at answered
  cases found : store.users.byUsername username with
  | none =>
      rw [found] at answered
      cases answered
  | some user =>
      rw [found] at answered
      obtain ⟨subject, present, named⟩ := Users.byUsername_eq_some.mp found
      cases joined : store.members.lookup (organisationID, user.id) with
      | none =>
          simp only [joined] at answered
          cases answered
      | some member =>
          simp only [joined] at answered
          cases answered
          exact ⟨subject, user, member, present, named, joined, rfl, rfl, rfl⟩

theorem getRole_ok {organisationID : ID} {name : String} {role : Role}
    (done : perform fate (.getRole organisationID name) store =
      (.ok role, after)) :
    (store.roles.lookup (some organisationID, name) = some role ∨
        store.roles.lookup (none, name) = some role) ∧
      store = after := by
  obtain ⟨ownFirst, answered⟩ := perform_ok done
  simp only [Store.answer, Store.getRole] at answered
  split at answered
  · rename_i found chosen
    cases answered
    refine ⟨?_, rfl⟩
    cases ownFirst with
    | true =>
        rw [if_pos rfl, Option.orElse_eq_or,
          Option.or_eq_some_iff] at chosen
        exact chosen.imp id And.right
    | false =>
        rw [if_neg nofun, Option.orElse_eq_or,
          Option.or_eq_some_iff] at chosen
        exact (chosen.imp id And.right).symm
  · cases answered

theorem getAPIKeyByLookup_ok {lookup : String} {key : APIKey}
    (done : perform fate (.getAPIKeyByLookup lookup) store =
      (.ok key, after)) :
    store.apiKeys.lookup lookup = some key ∧ key.revoked = false ∧
      store = after := by
  obtain ⟨ownFirst, answered⟩ := perform_ok done
  simp only [Store.answer, Store.getAPIKeyByLookup] at answered
  cases present : store.apiKeys.lookup lookup with
  | none =>
      rw [present] at answered
      cases answered
  | some found =>
      rw [present] at answered
      simp only at answered
      split_ifs at answered with revoked
      · cases answered
      · cases answered
        exact ⟨rfl, Bool.eq_false_of_not_eq_true revoked, rfl⟩

theorem createRole_ok {organisationID : ID} {name : String}
    {permissions : List String} {role : Role}
    (done : perform fate (.createRole organisationID name permissions) store =
      (.ok role, after)) :
    store.roles.lookup (some organisationID, name) = none ∧
      role.permissions = permissions ∧
        after = { store with
          roles := store.roles.insert (some organisationID, name)
            ⟨permissions, false⟩ } := by
  obtain ⟨ownFirst, answered⟩ := perform_ok done
  simp only [Store.answer, Store.createRole] at answered
  split_ifs at answered with unknown present accepted
  · cases answered
  · cases answered
  · cases answered
    exact ⟨Option.not_isSome_iff_eq_none.mp present, rfl, rfl⟩
  · cases answered

theorem deleteRole_ok {organisationID : ID} {name : String} {role : Role}
    (done : perform fate (.deleteRole organisationID name) store =
      (.ok role, after)) :
    after = { store with
      roles := store.roles.erase (some organisationID, name) } := by
  obtain ⟨ownFirst, answered⟩ := perform_ok done
  simp only [Store.answer, Store.deleteRole] at answered
  split at answered
  · cases answered
  · split_ifs at answered
    · cases answered
    · cases answered
    · cases answered
      rfl

theorem createAPIKey_ok {organisationID : ID} {name lookup keyHash : String}
    {applicationNames permissions : List String} {row : Unit}
    (done : perform fate (.createAPIKey organisationID name lookup keyHash
      applicationNames permissions) store = (.ok row, after)) :
    store.apiKeys.lookup lookup = none ∧
      after = { store with
        apiKeys := store.apiKeys.insert lookup
          ⟨store.nextID, organisationID, name, keyHash, applicationNames,
            permissions, false⟩
        nextID := store.nextID + 1 } := by
  obtain ⟨ownFirst, answered⟩ := perform_ok done
  simp only [Store.answer, Store.createAPIKey] at answered
  split_ifs at answered with unknown taken
  · cases answered
  · cases answered
  · cases answered
    refine ⟨?_, rfl⟩
    by_contra present
    refine taken (Bool.or_eq_true_iff.mpr (Or.inl ?_))
    exact Option.isSome_iff_ne_none.mpr present

/-- An organisation is created, or the organisations stay as they are. -/
theorem upsertOrganisation_cases (fate : Fate) (name : String) (store : Store) :
    (perform fate (.upsertOrganisation name) store).2 = store ∨
      store.organisations.rows.lookup name = none ∧
        (perform fate (.upsertOrganisation name) store).2 =
          { store with organisations := store.organisations.create name } := by
  rcases perform_store fate (.upsertOrganisation name) store with
    same | ⟨ownFirst, same⟩
  · exact Or.inl same
  · rw [same, Store.answer, Store.upsertOrganisation]
    cases present : store.organisations.rows.lookup name with
    | some id => exact Or.inl rfl
    | none =>
        by_cases accepted : Store.acceptsOrganisationName name = true
        · rw [if_pos accepted]
          exact Or.inr ⟨rfl, rfl⟩
        · rw [if_neg accepted]
          exact Or.inl rfl

/-- A user's row is written under a free name, or the store stays as it is. -/
theorem upsertUser_cases (fate : Fate) (subject username email : String)
    (isAdmin : Bool) (store : Store) :
    (perform fate (.upsertUser subject username email isAdmin) store).2 =
        store ∨
      store.users.free subject username = true ∧
        ∃ user, user.username = username ∧
          (perform fate (.upsertUser subject username email isAdmin)
              store).2.users.rows =
            store.users.rows.insert subject user := by
  rcases perform_store fate (.upsertUser subject username email isAdmin)
      store with same | ⟨ownFirst, same⟩
  · exact Or.inl same
  · have named :=
      store.username_upsertedUser subject username email isAdmin
    rw [same, Store.answer, Store.upsertUser]
    split_ifs with given long isFree
    · exact Or.inl rfl
    · rw [named] at isFree
      exact Or.inr ⟨isFree, _, named, rfl⟩
    · exact Or.inl rfl
    · exact Or.inl rfl

/-- A role is created, or the store stays as it is. -/
theorem createRole_cases (fate : Fate) (organisationID : ID) (name : String)
    (permissions : List String) (store : Store) :
    (perform fate (.createRole organisationID name permissions) store).2 =
        store ∨
      (perform fate (.createRole organisationID name permissions) store).2 =
        { store with
          roles := store.roles.insert (some organisationID, name)
            ⟨permissions, false⟩ } := by
  rcases perform_store fate (.createRole organisationID name permissions)
      store with same | ⟨ownFirst, same⟩
  · exact Or.inl same
  · rw [same, Store.answer, Store.createRole]
    split_ifs
    · exact Or.inl rfl
    · exact Or.inl rfl
    · exact Or.inr rfl
    · exact Or.inl rfl

/-- A membership is written, or the store stays as it is. -/
theorem upsertMemberRole_cases (fate : Fate) (organisationID userID : ID)
    (roleName : String) (store : Store) :
    (perform fate (.upsertMemberRole organisationID userID roleName) store).2 =
        store ∨
      ∃ createdAt,
        (perform fate (.upsertMemberRole organisationID userID roleName)
            store).2 =
          { store with
            members := store.members.insert (organisationID, userID)
              ⟨roleName, createdAt⟩
            nextID := store.nextID + 1 } := by
  rcases perform_store fate (.upsertMemberRole organisationID userID roleName)
      store with same | ⟨ownFirst, same⟩
  · exact Or.inl same
  · rw [same, Store.answer, Store.upsertMemberRole]
    split_ifs
    · exact Or.inr ⟨_, rfl⟩
    · exact Or.inl rfl

/-- A key is created, or the store stays as it is. -/
theorem createAPIKey_cases (fate : Fate) (organisationID : ID)
    (name lookup keyHash : String) (applicationNames permissions : List String)
    (store : Store) :
    (perform fate (.createAPIKey organisationID name lookup keyHash
        applicationNames permissions) store).2 = store ∨
      (perform fate (.createAPIKey organisationID name lookup keyHash
          applicationNames permissions) store).2 =
        { store with
          apiKeys := store.apiKeys.insert lookup
            ⟨store.nextID, organisationID, name, keyHash, applicationNames,
              permissions, false⟩
          nextID := store.nextID + 1 } := by
  rcases perform_store fate (.createAPIKey organisationID name lookup keyHash
      applicationNames permissions) store with same | ⟨ownFirst, same⟩
  · exact Or.inl same
  · rw [same, Store.answer, Store.createAPIKey]
    split_ifs
    · exact Or.inl rfl
    · exact Or.inl rfl
    · exact Or.inr rfl

/-- An organisation is renamed, or the organisations stay as they are. -/
theorem updateOrganisation_cases (fate : Fate) (id : ID) (name : Option String)
    (store : Store) :
    (perform fate (.updateOrganisation id name) store).2 = store ∨
      ∃ old new, name = some new ∧
        store.organisations.rows.lookup old = some id ∧
          store.organisations.rows.lookup new = none ∧
            (perform fate (.updateOrganisation id name)
                store).2.organisations.rows =
              (store.organisations.rows.erase old).insert new id := by
  rcases perform_store fate (.updateOrganisation id name) store with
    same | ⟨ownFirst, same⟩
  · exact Or.inl same
  · rw [same, Store.answer, Store.updateOrganisation]
    split
    · exact Or.inl rfl
    · rename_i organisation found
      cases name with
      | none => exact Or.inl rfl
      | some new =>
          simp only
          split_ifs with unchanged taken accepted
          · exact Or.inl rfl
          · exact Or.inl rfl
          · exact Or.inr ⟨organisation.name, new, rfl,
              (Organisations.byID_eq_some found).2,
              Option.not_isSome_iff_eq_none.mp taken, rfl⟩
          · exact Or.inl rfl

end Answers

end DbosRelay.Identity
