import DbosRelay.Identity.Handlers
import DbosRelay.Library.Runs
import Mathlib.Data.List.ReduceOption

/-!
# Role names

`GetRole` looks a name up among the organisation's own roles and the built-in
ones.  The migrations write the built-in roles; `handleCreateRole` and
`handleDeleteRole` write the others.
-/

namespace DbosRelay.Identity

open DbosRelay.Library.Programs
open DbosRelay.Library.Runs
open DbosRelay.Library.Tables

/-! ## The migrated roles -/

/-- The rows `0003_identity` writes, with the permissions of `0007`. -/
def migratedRoles : Table (Option ID × String) Role :=
  (((∅ : Table (Option ID × String) Role).insert (none, roleAdmin)
    ⟨rolePermissions roleAdmin, true⟩).insert (none, roleOperator)
      ⟨rolePermissions roleOperator, true⟩).insert (none, roleViewer)
        ⟨rolePermissions roleViewer, true⟩

theorem lookup_migratedRoles {organisation : Option ID} {name : String} :
    migratedRoles.lookup (organisation, name) ≠ none ↔
      organisation = none ∧ isGlobalRole name = true := by
  unfold migratedRoles isGlobalRole
  simp only [lookup_insert_eq, Prod.mk.injEq]
  by_cases builtIn : organisation = none
  · subst builtIn
    by_cases viewer : name = roleViewer
    · simp [viewer]
    · by_cases operator : name = roleOperator
      · simp [operator, roleOperator, roleViewer]
      · by_cases admin : name = roleAdmin
        · simp [admin, roleAdmin, roleOperator, roleViewer]
        · simp [viewer, operator, admin]
  · simp [builtIn]

/-! ## Requests -/

/-- A request about roles, with the identity it is made with. -/
inductive RoleRequest where
  | create (identity : Option UserIdentity) (request : CreateRoleRequest)
  | delete (identity : Option UserIdentity) (request : DeleteRoleRequest)

/-- The name a request creates a role under. -/
def RoleRequest.creates : RoleRequest → Option String
  | .create _ request => request.body.map CreateRoleBody.name
  | .delete _ _ => none

/-- The handler of a request; what it answers with is not looked at. -/
def RoleRequest.handle : RoleRequest → StoreProgram (Except Problem Unit)
  | .create identity request => do
      return (← handleCreateRole identity request).map fun _ => ()
  | .delete identity request => handleDeleteRole identity request

/-- A request the API accepts, and how its statements come out. -/
def serveRole (store : Store) (request : RoleRequest × List Fate) :
    Option Store :=
  match request.1.handle.run perform request.2 store with
  | some (.ok (), after) => some after
  | _ => none

/-- The rows `GetRole` chooses from. -/
def Store.matchingRoles (store : Store) (organisationID : ID)
    (name : String) : List Role :=
  [store.roles.lookup (some organisationID, name),
    store.roles.lookup (none, name)].reduceOption

theorem mem_matchingRoles {store : Store} {organisationID : ID} {name : String}
    {role : Role} :
    role ∈ store.matchingRoles organisationID name ↔
      store.roles.lookup (some organisationID, name) = some role ∨
        store.roles.lookup (none, name) = some role := by
  unfold Store.matchingRoles
  rw [List.reduceOption_mem_iff]
  simp [eq_comm]

/-- A role name means one role. -/
def Store.RolesUnambiguous (store : Store) : Prop :=
  ∀ organisationID name, (store.matchingRoles organisationID name).length ≤ 1

/-! ## What an accepted request does -/

theorem handleCreateRole_ok {identity : Option UserIdentity}
    {request : CreateRoleRequest} {store after : Store}
    {output : CreateRoleOutput}
    (ends : (handleCreateRole identity request).Ends perform store
      (.ok output) after) :
    ∃ organisationID body, request.body = some body ∧
      requireOrgWrite identity = true ∧
      store.organisations.rows.lookup request.orgName = some organisationID ∧
        after = { store with
          roles := store.roles.insert (some organisationID, body.name)
            ⟨body.permissions.getD [], false⟩ } := by
  unfold handleCreateRole at ends
  obtain ⟨permitted, ends⟩ := ends_unless ends
  obtain ⟨fate, answer, middle, found, ends⟩ := ends_issue.mp ends
  cases answer with
  | error error => exact (not_ends_fail ends).elim
  | ok organisation =>
      obtain ⟨present, -, rfl⟩ := getOrganisationByName_ok found
      cases given : request.body with
      | none =>
          rw [given] at ends
          exact (not_ends_fail ends).elim
      | some body =>
          rw [given] at ends
          obtain ⟨-, ends⟩ := ends_unless ends
          obtain ⟨-, ends⟩ := ends_unless ends
          obtain ⟨fate, answer, last, created, ends⟩ := ends_issue.mp ends
          cases answer with
          | error error => exact (not_ends_fail ends).elim
          | ok role =>
              obtain ⟨-, -, rfl⟩ := createRole_ok created
              obtain ⟨-, rfl⟩ := Program.ends_done.mp ends
              exact ⟨organisation.id, body, rfl,
                Bool.eq_true_of_not_eq_false permitted, present, rfl⟩

theorem handleDeleteRole_ok {identity : Option UserIdentity}
    {request : DeleteRoleRequest} {store after : Store}
    (ends : (handleDeleteRole identity request).Ends perform store (.ok ())
      after) :
    ∃ organisationID, isGlobalRole request.roleName = false ∧
      after = { store with
        roles := store.roles.erase
          (some organisationID, request.roleName) } := by
  unfold handleDeleteRole at ends
  obtain ⟨-, ends⟩ := ends_unless ends
  obtain ⟨fate, answer, middle, found, ends⟩ := ends_issue.mp ends
  cases answer with
  | error error => exact (not_ends_fail ends).elim
  | ok organisation =>
      obtain ⟨-, -, rfl⟩ := getOrganisationByName_ok found
      obtain ⟨notBuiltIn, ends⟩ := ends_unless ends
      obtain ⟨fate, answer, last, deleted, ends⟩ := ends_issue.mp ends
      cases answer with
      | error error => exact (not_ends_fail ends).elim
      | ok role =>
          have gone := deleteRole_ok deleted
          obtain ⟨-, rfl⟩ := Program.ends_done.mp ends
          exact ⟨organisation.id, Bool.eq_false_of_not_eq_true notBuiltIn, gone⟩

/-- Everything an accepted request can do to the roles. -/
theorem serveRole_cases {store after : Store} {request : RoleRequest × List Fate}
    (served : serveRole store request = some after) :
    (∃ organisationID name permissions, request.1.creates = some name ∧
        after.roles = store.roles.insert (some organisationID, name)
          ⟨permissions, false⟩) ∨
      ∃ organisationID name, request.1.creates = none ∧
        isGlobalRole name = false ∧
          after.roles = store.roles.erase (some organisationID, name) := by
  obtain ⟨request, fates⟩ := request
  unfold serveRole at served
  split at served
  · rename_i result ran
    cases served
    cases request with
    | create identity request =>
        have ends : ((handleCreateRole identity request) >>= fun answer =>
            pure (answer.map fun _ => ())).Ends perform store (.ok ()) after :=
          ⟨fates, ran⟩
        obtain ⟨answer, middle, created, ended⟩ := Program.ends_bind.mp ends
        obtain ⟨mapped, rfl⟩ := Program.ends_done.mp ended
        cases answer with
        | error problem => cases mapped
        | ok output =>
            obtain ⟨organisationID, body, given, -, -, rfl⟩ :=
              handleCreateRole_ok created
            refine Or.inl ⟨organisationID, body.name, _, ?_, rfl⟩
            rw [RoleRequest.creates, given]
            rfl
    | delete identity request =>
        obtain ⟨organisationID, notBuiltIn, rfl⟩ :=
          handleDeleteRole_ok ⟨fates, ran⟩
        exact Or.inr ⟨organisationID, request.roleName, rfl, notBuiltIn, rfl⟩
  · cases served

/-! ## Role resolution -/

/--
After accepted requests the built-in roles are the migrated ones, and an
organisation has a role of its own under a built-in name exactly if one was
created.
-/
structure RolesAfter (requests : List (RoleRequest × List Fate))
    (store : Store) : Prop where
  builtIn : ∀ name, store.roles.lookup (none, name) =
    migratedRoles.lookup (none, name)
  created : (∃ organisationID name, isGlobalRole name = true ∧
      store.roles.lookup (some organisationID, name) ≠ none) ↔
    ∃ request ∈ requests, ∃ name, request.1.creates = some name ∧
      isGlobalRole name = true

theorem RolesAfter.step {requests : List (RoleRequest × List Fate)}
    {request : RoleRequest × List Fate} {store after : Store}
    (roles : RolesAfter requests store)
    (served : serveRole store request = some after) :
    RolesAfter (requests ++ [request]) after := by
  rcases serveRole_cases served with
    ⟨organisationID, name, permissions, creates, inserted⟩ |
      ⟨organisationID, name, creates, notBuiltIn, erased⟩
  · refine ⟨fun other => ?_, ?_⟩
    · rw [inserted, lookup_insert_eq, if_neg nofun]
      exact roles.builtIn other
    · simp only [inserted, lookup_insert_eq, List.mem_append,
        List.mem_singleton, or_and_right, exists_or, exists_eq_left, creates,
        Option.some.injEq, exists_eq_left']
      rw [← roles.created]
      constructor
      · rintro ⟨other, otherName, isBuiltIn, present⟩
        split_ifs at present with same
        · obtain ⟨-, rfl⟩ := Prod.mk.inj same
          exact Or.inr isBuiltIn
        · exact Or.inl ⟨other, otherName, isBuiltIn, present⟩
      · rintro (⟨other, otherName, isBuiltIn, present⟩ | isBuiltIn)
        · refine ⟨other, otherName, isBuiltIn, ?_⟩
          split_ifs
          · exact Option.some_ne_none _
          · exact present
        · refine ⟨organisationID, name, isBuiltIn, ?_⟩
          rw [if_pos rfl]
          exact Option.some_ne_none _
  · refine ⟨fun other => ?_, ?_⟩
    · rw [erased, lookup_erase_eq, if_neg nofun]
      exact roles.builtIn other
    · simp only [erased, lookup_erase_eq, List.mem_append,
        List.mem_singleton, or_and_right, exists_or, exists_eq_left, creates,
        reduceCtorEq, false_and, exists_false, or_false]
      rw [← roles.created]
      -- The erased role has no built-in name.
      constructor
      · rintro ⟨other, otherName, isBuiltIn, present⟩
        split_ifs at present with same
        · exact (present rfl).elim
        · exact ⟨other, otherName, isBuiltIn, present⟩
      · rintro ⟨other, otherName, isBuiltIn, present⟩
        refine ⟨other, otherName, isBuiltIn, ?_⟩
        split_ifs with same
        · obtain ⟨-, rfl⟩ := Prod.mk.inj same
          rw [notBuiltIn] at isBuiltIn
          cases isBuiltIn
        · exact present

theorem rolesAfter_run {store after : Store}
    {requests : List (RoleRequest × List Fate)}
    (migrated : store.roles = migratedRoles)
    (ran : run serveRole store requests = some after) :
    RolesAfter requests after := by
  apply run_history RolesAfter (fun _ served roles => roles.step served) ran
  refine ⟨fun name => by rw [migrated], ?_⟩
  rw [migrated]
  refine iff_of_false ?_ ?_
  · rintro ⟨organisationID, name, -, present⟩
    cases (lookup_migratedRoles.mp present).1
  · rintro ⟨request, member, -⟩
    cases member

/-- Two rows match a name exactly if it is built in and the organisation's own. -/
theorem rolesUnambiguous_iff {store : Store}
    (builtIn : ∀ name, store.roles.lookup (none, name) =
      migratedRoles.lookup (none, name)) :
    store.RolesUnambiguous ↔
      ¬∃ organisationID name, isGlobalRole name = true ∧
        store.roles.lookup (some organisationID, name) ≠ none := by
  have isBuiltIn : ∀ name, store.roles.lookup (none, name) ≠ none ↔
      isGlobalRole name = true := by
    intro name
    rw [builtIn, lookup_migratedRoles]
    simp
  unfold Store.RolesUnambiguous Store.matchingRoles
  constructor
  · rintro unambiguous ⟨organisationID, name, global, present⟩
    have few := unambiguous organisationID name
    obtain ⟨own, ownEq⟩ := Option.ne_none_iff_exists'.mp present
    obtain ⟨other, otherEq⟩ :=
      Option.ne_none_iff_exists'.mp ((isBuiltIn name).mpr global)
    rw [ownEq, otherEq] at few
    exact absurd few (Nat.not_succ_le_self 1)
  · intro none organisationID name
    cases own : store.roles.lookup (some organisationID, name) with
    | none =>
        cases store.roles.lookup ((Option.none : Option ID), name) with
        | none => exact Nat.zero_le 1
        | some role => exact Nat.le_refl 1
    | some role =>
        have notGlobal : store.roles.lookup ((Option.none : Option ID), name) =
            Option.none := by
          by_contra present
          exact none ⟨organisationID, name, (isBuiltIn name).mp present,
            by rw [own]; exact Option.some_ne_none role⟩
        rw [notGlobal]
        exact Nat.le_refl 1

/--
After accepted requests role names are unambiguous exactly if none of them
created a role under a built-in name.
-/
theorem rolesUnambiguous_iff_noBuiltInCreated {store after : Store}
    {requests : List (RoleRequest × List Fate)}
    (migrated : store.roles = migratedRoles)
    (ran : run serveRole store requests = some after) :
    after.RolesUnambiguous ↔
      ∀ request ∈ requests, ∀ name, request.1.creates = some name →
        isGlobalRole name = false := by
  have roles := rolesAfter_run migrated ran
  rw [rolesUnambiguous_iff roles.builtIn, roles.created]
  constructor
  · intro none request member name creates
    by_contra notFalse
    exact none ⟨request, member, name, creates, Bool.not_eq_false _ ▸ notFalse⟩
  · rintro none ⟨request, member, name, creates, global⟩
    rw [none request member name creates] at global
    cases global

/-- A migrated store with one organisation. -/
def acmeStore : Store where
  organisations := Organisations.empty.create "acme"
  users := Users.empty
  members := ∅
  roles := migratedRoles
  apiKeys := ∅
  domainClaims := ∅
  nextID := 1

/-- Create a role of the organisation, with nothing going wrong. -/
def createsAcmeRole (name : String) : RoleRequest × List Fate :=
  (.create (some localIdentity) ⟨"acme", some ⟨name, some [permOrgWrite]⟩⟩,
    [.answered true, .answered true])

theorem rolesUnambiguous_createsAuditors :
    ∃ after, run serveRole acmeStore [createsAcmeRole "auditors"] = some after ∧
      after.RolesUnambiguous := by
  have migrated : acmeStore.roles = migratedRoles := rfl
  obtain ⟨after, ran⟩ : ∃ after,
      run serveRole acmeStore [createsAcmeRole "auditors"] = some after :=
    ⟨_, rfl⟩
  refine ⟨after, ran, (rolesUnambiguous_iff_noBuiltInCreated migrated ran).mpr ?_⟩
  intro request member name creates
  rw [List.mem_singleton] at member
  subst member
  cases creates
  decide

/-- The organisation's own viewers and the built-in ones have one name. -/
theorem createsViewer_ambiguous :
    ∃ after, run serveRole acmeStore [createsAcmeRole "viewer"] = some after ∧
      ¬after.RolesUnambiguous := by
  refine ⟨_, rfl, fun unambiguous => ?_⟩
  have few := unambiguous 1 "viewer"
  revert few
  decide

end DbosRelay.Identity
