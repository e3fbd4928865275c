import DbosRelay.Identity.Escalation
import DbosRelay.Identity.JoinSecrets
import Mathlib.Data.Fintype.EquivFin

/-!
# Joining an organisation again

A join with a valid secret writes the caller's membership with the role viewer,
unless the membership read before says admin.  What a member held before is
kept exactly if viewer grants it too, or nothing is written.
-/

namespace DbosRelay.Identity

open DbosRelay.Basic
open DbosRelay.Library.Programs
open DbosRelay.Library.Tables

/-! ## The statements of a join -/

/-- The statement was performed and its answer arrived. -/
def Fate.arrives : Fate → Bool
  | .answered _ => true
  | _ => false

/-- The statement was performed. -/
def Fate.performed : Fate → Bool
  | .refused _ => false
  | _ => true

/-- The name under which the caller joins. -/
def joinUsername (identity : Option UserIdentity) : String :=
  match identity with
  | none => "user"
  | some identity =>
      if identity.username = "" then "user" else identity.username

/-- The secret of the request is the one stored under the name, and in time. -/
def JoinOrgRequest.Valid (request : JoinOrgRequest) (now : Time)
    (secrets : OrgSecrets) : Prop :=
  request.secret ≠ "" ∧ ∃ entry, secrets.lookup request.orgName = some entry ∧
    entry.secret = request.secret ∧ now ≤ entry.expiresAt

/--
How the statements of a join come out lets it write the membership: the
organisation and the user are found, an admin's membership is not, and the
write itself is performed.
-/
def ReachesWrite (member : Member) (fates : List Fate) : Prop :=
  ∃ organisation membership account write rest,
    fates = organisation :: membership :: account :: write :: rest ∧
      organisation.arrives = true ∧
        ¬(membership.arrives = true ∧ member.roleName = roleAdmin) ∧
          account.arrives = true ∧ write.performed = true

/-- The role viewer grants everything the member's role grants. -/
def Store.ViewerGrantsAll (store : Store) (organisationID : ID)
    (member : Member) : Prop :=
  member.roleName ≠ roleAdmin ∧
    ∀ role ∈ store.matchingRoles organisationID member.roleName,
      ∀ permission ∈ role.permissions,
        ∃ viewer ∈ store.matchingRoles organisationID roleViewer,
          permission ∈ viewer.permissions

/-! ## What a join leaves -/

section Joins

variable {store after : Store} {organisationID : ID} {user : User}
variable {member : Member} {fates : List Fate}
variable {answer : Except Problem Unit}

theorem run_issue {Value : Type} (statement : Statement)
    (next : statement.Answer → StoreProgram Value) (fate : Fate)
    (fates : List Fate) (store : Store) :
    (issue statement >>= next).run perform (fate :: fates) store =
      (next (perform fate statement store).1).run perform fates
        (perform fate statement store).2 :=
  rfl

/-- A statement gives its answer if that arrives, and fails otherwise. -/
theorem perform_cases (fate : Fate) {statement : Statement}
    {row : statement.Row}
    (answers : ∀ ownFirst, (store.answer ownFirst statement).1 = .ok row) :
    fate.arrives = true ∧ (perform fate statement store).1 = .ok row ∨
      fate.arrives = false ∧
        ∃ error, (perform fate statement store).1 = .error error := by
  cases fate with
  | answered ownFirst => exact Or.inl ⟨rfl, answers ownFirst⟩
  | refused error => exact Or.inr ⟨rfl, error, rfl⟩
  | lost error => exact Or.inr ⟨rfl, error, rfl⟩

/-- The membership is written exactly if the statement was performed. -/
theorem perform_upsertMemberRole (fate : Fate) (userID : ID)
    (roleName : String) :
    (perform fate (.upsertMemberRole organisationID userID roleName) store).2 =
      if fate.performed then
        (store.upsertMemberRole organisationID userID roleName).2
      else store := by
  cases fate with
  | answered ownFirst => rfl
  | refused error => rfl
  | lost error => rfl

/-- The membership which was read says admin. -/
theorem readsAdmin_iff {username : String} (fate : Fate)
    (named : store.users.byUsername username = some user)
    (joined : store.members.lookup (organisationID, user.id) = some member) :
    ((perform fate (.getMember organisationID username) store).1.toOption.map
        MemberRow.roleName) = some roleAdmin ↔
      fate.arrives = true ∧ member.roleName = roleAdmin := by
  have found : store.getMember organisationID username =
      .ok ⟨user.id, user.username, user.email, member.roleName⟩ := by
    simp only [Store.getMember, named, joined]
  cases fate with
  | answered ownFirst =>
      simp only [perform, Store.answer, found, Fate.arrives]
      simp [Except.toOption]
  | refused error => simp [perform, Except.toOption, Fate.arrives]
  | lost error => simp [perform, Except.toOption, Fate.arrives]

/-- What the last part of a join leaves for a member. -/
theorem after_finishJoinOrg {username : String} {org : Organisation}
    (named : store.users.byUsername username = some user)
    (joined : store.members.lookup (org.id, user.id) = some member)
    {organisation : Fate} (arrived : organisation.arrives = true)
    (ran : (finishJoinOrg username org).run perform fates store =
      some (answer, after)) :
    ReachesWrite member (organisation :: fates) ∧
        after = (store.upsertMemberRole org.id user.id roleViewer).2 ∨
      ¬ReachesWrite member (organisation :: fates) ∧ after = store := by
  cases fates with
  | nil => cases ran
  | cons membership fates =>
      rw [finishJoinOrg, run_issue, perform_of_reads rfl] at ran
      by_cases admin : membership.arrives = true ∧ member.roleName = roleAdmin
      · rw [if_pos ((readsAdmin_iff membership named joined).mpr admin)] at ran
        cases ran
        refine Or.inr ⟨?_, rfl⟩
        rintro ⟨_, _, _, _, _, same, -, notAdmin, -⟩
        cases same
        exact notAdmin admin
      · rw [if_neg fun read =>
          admin ((readsAdmin_iff membership named joined).mp read)] at ran
        cases fates with
        | nil => cases ran
        | cons account fates =>
            rw [run_issue, perform_of_reads rfl] at ran
            have found (ownFirst : Bool) : (store.answer ownFirst
                (.getUserByUsername username)).1 = .ok user :=
              Store.found_eq_ok.mpr named
            obtain ⟨arrives, answered⟩ | ⟨lost, error, failed⟩ :=
              perform_cases account found
            · rw [answered] at ran
              cases fates with
              | nil => cases ran
              | cons write fates =>
                  have left : after = (perform write (.upsertMemberRole org.id
                      user.id roleViewer) store).2 := by
                    simp only at ran
                    rw [run_issue] at ran
                    split at ran
                    · cases ran
                      rfl
                    · cases ran
                      rfl
                  rw [perform_upsertMemberRole] at left
                  split_ifs at left with performed
                  · exact Or.inl ⟨⟨_, _, _, _, _, rfl, arrived, admin, arrives,
                      performed⟩, left⟩
                  · refine Or.inr ⟨?_, left⟩
                    rintro ⟨_, _, _, _, _, same, -, -, -, reached⟩
                    cases same
                    exact performed reached
            · rw [failed] at ran
              cases ran
              refine Or.inr ⟨?_, rfl⟩
              rintro ⟨_, _, _, _, _, same, -, -, reached, -⟩
              cases same
              cases lost.symm.trans reached

/-- What a join with a valid secret leaves for a member. -/
theorem after_handleJoinOrg {identity : Option UserIdentity}
    {request : JoinOrgRequest} {now : Time} {secrets : OrgSecrets}
    (named : store.users.byUsername (joinUsername identity) = some user)
    (present : store.organisations.rows.lookup request.orgName =
      some organisationID)
    (joined : store.members.lookup (organisationID, user.id) = some member)
    (valid : request.Valid now secrets)
    (ran : (handleJoinOrg identity request now secrets).run perform fates store =
      some (answer, after)) :
    ReachesWrite member fates ∧
        after = (store.upsertMemberRole organisationID user.id roleViewer).2 ∨
      ¬ReachesWrite member fates ∧ after = store := by
  obtain ⟨given, entry, stored, same, unexpired⟩ := valid
  cases fates with
  | nil => cases ran
  | cons organisation fates =>
      unfold handleJoinOrg at ran
      rw [run_issue, perform_of_reads rfl] at ran
      have found (ownFirst : Bool) : (store.answer ownFirst
          (.getOrganisationByName request.orgName)).1 =
            .ok ⟨organisationID, request.orgName⟩ := by
        refine Store.found_eq_ok.mpr ?_
        rw [present]
        rfl
      obtain ⟨arrives, answered⟩ | ⟨lost, error, failed⟩ :=
        perform_cases organisation found
      · rw [answered] at ran
        simp only [if_neg given, stored, ne_eq, same, not_true_eq_false,
          if_false, if_neg (not_lt.mpr unexpired)] at ran
        exact after_finishJoinOrg named joined arrives ran
      · rw [failed] at ran
        cases ran
        refine Or.inr ⟨?_, rfl⟩
        rintro ⟨_, _, _, _, _, same, reached, -⟩
        cases same
        cases lost.symm.trans reached

/-! ## What a member holds -/

theorem holds_member {permission : String}
    (joined : store.members.lookup (organisationID, user.id) = some member) :
    store.Holds organisationID (.user user.id) permission ↔
      member.roleName = roleAdmin ∨
        ∃ role ∈ store.matchingRoles organisationID member.roleName,
          permission ∈ role.permissions := by
  constructor
  · rintro ⟨other, found, held⟩
    rw [joined] at found
    cases found
    exact held
  · intro held
    exact ⟨member, joined, held⟩

/-- Once the membership is written, the member holds what viewer grants. -/
theorem holds_upsertMemberRole {permission : String}
    (accepted : store.acceptsMember organisationID user.id roleViewer = true) :
    (store.upsertMemberRole organisationID user.id roleViewer).2.Holds
        organisationID (.user user.id) permission ↔
      ∃ viewer ∈ store.matchingRoles organisationID roleViewer,
        permission ∈ viewer.permissions := by
  rw [Store.upsertMemberRole, if_pos accepted]
  rw [holds_member (by rw [lookup_insert_eq, if_pos rfl])]
  have notAdmin : roleViewer ≠ roleAdmin := by decide
  exact or_iff_right notAdmin

/-- No finite list of permissions is everything an admin holds. -/
theorem exists_not_granted (roles : List Role) :
    ∃ permission, ∀ role ∈ roles, permission ∉ role.permissions := by
  obtain ⟨permission, ungranted⟩ := Infinite.exists_notMem_finset
    (roles.flatMap Role.permissions).toFinset
  rw [List.mem_toFinset, List.mem_flatMap] at ungranted
  exact ⟨permission, fun role member listed => ungranted ⟨role, member, listed⟩⟩

/-- The membership with viewer keeps what was held exactly if viewer grants it. -/
theorem keeps_upsertMemberRole_iff
    (joined : store.members.lookup (organisationID, user.id) = some member)
    (accepted : store.acceptsMember organisationID user.id roleViewer = true) :
    (∀ permission, store.Holds organisationID (.user user.id) permission →
        (store.upsertMemberRole organisationID user.id roleViewer).2.Holds
          organisationID (.user user.id) permission) ↔
      store.ViewerGrantsAll organisationID member := by
  simp only [holds_member joined, holds_upsertMemberRole accepted]
  constructor
  · intro kept
    refine ⟨fun admin => ?_, fun role listed permission granted =>
      kept permission (Or.inr ⟨role, listed, granted⟩)⟩
    obtain ⟨permission, ungranted⟩ :=
      exists_not_granted (store.matchingRoles organisationID roleViewer)
    obtain ⟨viewer, listed, granted⟩ := kept permission (Or.inl admin)
    exact ungranted viewer listed granted
  · rintro ⟨notAdmin, grants⟩ permission (admin | ⟨role, listed, granted⟩)
    · exact absurd admin notAdmin
    · exact grants role listed permission granted

/--
A join with a valid secret keeps every permission the caller held in the
organisation exactly if the caller is no member yet, or viewer grants them all,
or the membership is not written: a statement before it fails or finds an
admin, or the tables do not accept the row.
-/
theorem handleJoinOrg_keeps_iff {identity : Option UserIdentity}
    {request : JoinOrgRequest} {now : Time} {secrets : OrgSecrets}
    (named : store.users.byUsername (joinUsername identity) = some user)
    (present : store.organisations.rows.lookup request.orgName =
      some organisationID)
    (valid : request.Valid now secrets)
    (ran : (handleJoinOrg identity request now secrets).run perform fates store =
      some (answer, after)) :
    (∀ permission, store.Holds organisationID (.user user.id) permission →
        after.Holds organisationID (.user user.id) permission) ↔
      ∀ member,
        store.members.lookup (organisationID, user.id) = some member →
          ReachesWrite member fates →
            store.acceptsMember organisationID user.id roleViewer = true →
              store.ViewerGrantsAll organisationID member := by
  cases joined : store.members.lookup (organisationID, user.id) with
  | none =>
      refine iff_of_true ?_ (fun member found => by cases found)
      rintro permission ⟨member, found, -⟩
      rw [joined] at found
      cases found
  | some member =>
      simp only [Option.some.injEq, forall_eq']
      rcases after_handleJoinOrg named present joined valid ran with
        ⟨reached, left⟩ | ⟨unreached, left⟩
      · by_cases accepted :
            store.acceptsMember organisationID user.id roleViewer = true
        · rw [left, keeps_upsertMemberRole_iff joined accepted]
          exact ⟨fun grants _ _ => grants, fun grants => grants reached accepted⟩
        · rw [left, Store.upsertMemberRole, if_neg accepted]
          exact iff_of_true (fun _ held => held)
            fun _ accepts => absurd accepts accepted
      · rw [left]
        exact iff_of_true (fun _ held => held)
          fun reached => absurd reached unreached

end Joins

/-- A user who is no admin has a role in the organisation. -/
def adaMemberStore (roleName : String) : Store :=
  (perform (.answered true) (.upsertMemberRole 1 1 roleName)
    (perform (.answered true) (.upsertUser "ada" "ada" "ada@acme" false)
      acmeStore).2).2

/-- The identity of that user on the way to join. -/
def adaIdentity : UserIdentity where
  subject := "ada"
  username := "ada"
  email := "ada@acme"
  isAdmin := false
  isAPIKey := false
  orgID := 1
  orgName := "acme"
  role := roleOperator
  applicationNames := []
  permissions := rolePermissions roleOperator

/-- The secret of the organisation. -/
def acmeSecrets : OrgSecrets :=
  (∅ : OrgSecrets).insert "acme" ⟨"k", joinSecretTTL⟩

/-- The organisation has a role of its own, which grants less than viewer. -/
def auditorStore : Store :=
  let user := (perform (.answered true)
    (.upsertUser "ada" "ada" "ada@acme" false) acmeStore).2
  let role := (perform (.answered true) (.createRole 1 "auditor"
    [permApplicationRead, permMetricRead]) user).2
  (perform (.answered true) (.upsertMemberRole 1 1 "auditor") role).2

/-- Somebody with that role becomes a viewer and loses nothing. -/
theorem handleJoinOrg_keeps_auditor :
    ∃ after, (handleJoinOrg (some adaIdentity) joinsAcme 0 acmeSecrets).run
        perform (List.replicate 4 (.answered true)) auditorStore =
          some (.ok (), after) ∧
      auditorStore.Holds 1 (.user 1) permMetricRead ∧
        ∀ permission, auditorStore.Holds 1 (.user 1) permission →
          after.Holds 1 (.user 1) permission := by
  obtain ⟨after, ran⟩ : ∃ after,
      (handleJoinOrg (some adaIdentity) joinsAcme 0 acmeSecrets).run perform
        (List.replicate 4 (.answered true)) auditorStore =
          some (.ok (), after) := ⟨_, rfl⟩
  have named : auditorStore.users.byUsername (joinUsername (some adaIdentity)) =
      some ⟨1, "ada", "ada@acme", false⟩ := rfl
  have valid : joinsAcme.Valid 0 acmeSecrets :=
    ⟨by decide, _, rfl, rfl, by decide⟩
  refine ⟨after, ran, ⟨_, rfl, Or.inr (by decide)⟩,
    (handleJoinOrg_keeps_iff named rfl valid ran).mpr ?_⟩
  rintro member found - -
  cases found
  exact ⟨by decide, by decide⟩

/-- An operator who joins again becomes a viewer. -/
theorem handleJoinOrg_operator :
    ∃ after, (handleJoinOrg (some adaIdentity) joinsAcme 0 acmeSecrets).run
        perform (List.replicate 4 (.answered true))
          (adaMemberStore roleOperator) = some (.ok (), after) ∧
      joinsAcme.Valid 0 acmeSecrets ∧
        (adaMemberStore roleOperator).Holds 1 (.user 1)
          permApplicationWrite ∧
        ¬after.Holds 1 (.user 1) permApplicationWrite := by
  refine ⟨_, rfl, ⟨by decide, _, rfl, rfl, by decide⟩, ?_, ?_⟩
  · exact ⟨_, rfl, Or.inr (by decide)⟩
  · rintro ⟨member, found, held⟩
    cases found
    revert held
    decide

end DbosRelay.Identity
