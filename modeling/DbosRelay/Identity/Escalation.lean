import DbosRelay.Identity.Tokens

/-!
# Role escalation

Authority is spread over the definitions of roles, memberships and keys.
`CreateToken` stays within the permissions of a caller who is no admin;
`CreateRole` and `GrantRole` ask for `organization.write` only.
-/

namespace DbosRelay.Identity

open DbosRelay.Library.Programs
open DbosRelay.Library.Runs
open DbosRelay.Library.Tables
open Segment

/-! ## Authority -/

/-- Who may hold permissions in an organisation. -/
inductive Principal where
  | user (id : ID)
  | key (lookup : String)
deriving DecidableEq, Repr

/-- A principal holds a permission in the organisation; an admin holds all. -/
def Store.Holds (store : Store) (organisationID : ID) :
    Principal → String → Prop
  | .user id, permission =>
      ∃ member, store.members.lookup (organisationID, id) = some member ∧
        (member.roleName = roleAdmin ∨
          ∃ role ∈ store.matchingRoles organisationID member.roleName,
            permission ∈ role.permissions)
  | .key lookup, permission =>
      ∃ key, store.apiKeys.lookup lookup = some key ∧ key.revoked = false ∧
        key.organisationID = organisationID ∧ permission ∈ key.permissions

/-! ## The requests of a caller -/

/-- The route of `CreateRole`. -/
def createRoleRoute : OrgRoute := ⟨methodPost, [literal "roles"]⟩

/-- The route of `GrantRole`. -/
def grantRoleRoute : OrgRoute :=
  ⟨"PUT", [literal "members", wildcard "username", literal "roles",
    wildcard "roleName"]⟩

/-- What a request asks for. -/
inductive Demand where
  | role (body : Option CreateRoleBody)
  | grant (username roleName : String)
  | token (tokenName : String) (appNames permissions : Option (List String))
      (minted : Except String MintedKey)

namespace Demand

/-- The route of the request. -/
def route : Demand → OrgRoute
  | .role _ => createRoleRoute
  | .grant _ _ => grantRoleRoute
  | .token _ _ _ _ => createTokenRoute

/-- The values of the wildcards other than the organisation's. -/
def value (demand : Demand) (name : String) : String :=
  match demand with
  | .role _ => ""
  | .grant username roleName =>
      if name = "username" then username else roleName
  | .token tokenName _ _ _ => tokenName

/-- The handler of the request; the body of its answer is not looked at. -/
def handle (demand : Demand) (identity : UserIdentity) (orgName : String) :
    StoreProgram (Except Problem Unit) :=
  match demand with
  | .role body => do
      return (← handleCreateRole (some identity) ⟨orgName, body⟩).map fun _ => ()
  | .grant username roleName =>
      handleGrantRole (some identity) ⟨orgName, username, roleName⟩
  | .token tokenName appNames permissions minted =>
      createToken (some identity) ⟨orgName, tokenName, appNames, permissions⟩
        minted

/-- The key the caller is given with the answer. -/
def given (demand : Demand) (answer : Except Problem Unit) : List String :=
  match demand, answer with
  | .token _ _ _ (.ok key), .ok () => [key.lookup]
  | _, _ => []

theorem route_mem (demand : Demand) :
    demand.route ∈ orgRoutes ∧ demand.route ≠ OrgRoute.joinOrg := by
  have roles : createRoleRoute ∈ orgRoutes ∧
      createRoleRoute ≠ OrgRoute.joinOrg := by decide
  have grants : grantRoleRoute ∈ orgRoutes ∧
      grantRoleRoute ≠ OrgRoute.joinOrg := by decide
  have tokens : createTokenRoute ∈ orgRoutes ∧
      createTokenRoute ≠ OrgRoute.joinOrg := by decide
  cases demand with
  | role body => exact roles
  | grant username roleName => exact grants
  | token tokenName appNames permissions minted => exact tokens

end Demand

/-- A request, and how the statements of its two parts come out. -/
structure CallerRequest where
  orgName : String
  named : orgName ≠ ""
  authorization : String
  tokenParameter : String
  demand : Demand
  loginFates : List Fate
  fates : List Fate

/-- The request as the middleware sees it. -/
def CallerRequest.http (request : CallerRequest) : HTTPRequest :=
  request.demand.route.request
    (fun name =>
      if name = "orgName" then request.orgName else request.demand.value name)
    request.authorization request.tokenParameter

/-- The store and the keys the caller has. -/
structure CallerSystem where
  store : Store
  keys : List String

/-- A request of a caller who is no global admin. -/
def CallerSystem.step (server : Server) (system : CallerSystem)
    (request : CallerRequest) : Option CallerSystem :=
  match (authMiddleware server request.http).run perform request.loginFates
      system.store with
  | some (.ok (some identity), before) =>
      if identity.isAdmin then none
      else
        ((request.demand.handle identity request.orgName).run perform
          request.fates before).map fun result =>
            ⟨result.2, request.demand.given result.1 ++ system.keys⟩
  | some (_, before) => some ⟨before, system.keys⟩
  | none => none

/-- The principals a caller controls: the users, and the keys it has. -/
def CallerSystem.Controls (system : CallerSystem) (users : ID → Prop) :
    Principal → Prop
  | .user id => users id
  | .key lookup => lookup ∈ system.keys

/-! ## Requests which stay within an authority -/

/-- The credentials of the request are those of a controlled principal. -/
def IssuedBy (server : Server) (users : ID → Prop) (keys : List String)
    (before : Store) (request : HTTPRequest) : Prop :=
  ∀ token, bearerToken request = .ok token →
    (keyPrefix.toList.isPrefixOf token.toList = true →
        lookupOf token ∈ keys) ∧
      ∀ validate claims user, server.validator = some validate →
        validate token = .ok claims →
          before.users.rows.lookup claims.subject = some user → users user.id

/--
A role granted to a controlled user is not the admin's and lies within the
authority; so does a created role whose name a controlled member has.
-/
def Demand.StaysWithin (demand : Demand) (authority : String → Prop)
    (users : ID → Prop) (organisationID : ID) (before : Store) : Prop :=
  match demand with
  | .grant username roleName =>
      ∀ user, before.users.byUsername username = some user → users user.id →
        roleName ≠ roleAdmin ∧
          ∀ role ∈ before.matchingRoles organisationID roleName,
            ∀ permission ∈ role.permissions, authority permission
  | .role (some body) =>
      (∀ permission ∈ body.permissions.getD [], authority permission) ∨
        ∀ id, users id → ∀ member,
          before.members.lookup (organisationID, id) = some member →
            member.roleName ≠ body.name
  | _ => True

/--
A request with the credentials of a controlled principal: logging in writes no
membership of a controlled user in the organisation, and what is asked for stays
within the authority.
-/
structure WithinAuthority (server : Server) (organisationID : ID)
    (users : ID → Prop) (authority : String → Prop) (system : CallerSystem)
    (request : CallerRequest) (before : Store) : Prop where
  issued : IssuedBy server users system.keys before request.http
  settled : ∀ id, users id →
    before.members.lookup (organisationID, id) =
      system.store.members.lookup (organisationID, id)
  stays : before.organisations.rows.lookup request.orgName =
      some organisationID →
    request.demand.StaysWithin authority users organisationID before

/-- The condition on a request: it holds of the store after logging in. -/
def StaysWithin (server : Server) (organisationID : ID) (users : ID → Prop)
    (authority : String → Prop) (system : CallerSystem)
    (request : CallerRequest) : Prop :=
  ∀ answer before,
    (authMiddleware server request.http).run perform request.loginFates
        system.store = some (answer, before) →
      WithinAuthority server organisationID users authority system request
        before

/-! ## What the handlers write -/

theorem handleCreateRole_store {identity : Option UserIdentity}
    {request : CreateRoleRequest} {store after : Store}
    {answer : Except Problem CreateRoleOutput}
    (ends : (handleCreateRole identity request).Ends perform store answer
      after) :
    after = store ∨ ∃ fate organisationID body, request.body = some body ∧
      store.organisations.rows.lookup request.orgName = some organisationID ∧
        after = (perform fate (.createRole organisationID body.name
          (body.permissions.getD [])) store).2 := by
  unfold handleCreateRole at ends
  rcases unchanged_or_ends ends with same | ⟨-, ends⟩
  · exact Or.inl same
  · rcases unchanged_or_found rfl ends fun _ => ⟨_, rfl⟩ with
      same | ⟨fate, org, looked, ends⟩
    · exact Or.inl same
    obtain ⟨present, -, -⟩ := getOrganisationByName_ok looked
    cases given : request.body with
    | none =>
        rw [given] at ends
        exact Or.inl (unchanged_of_fail ends)
    | some body =>
        rw [given] at ends
        rcases unchanged_or_ends ends with same | ⟨-, ends⟩
        · exact Or.inl same
        · rcases unchanged_or_ends ends with same | ⟨-, ends⟩
          · exact Or.inl same
          · obtain ⟨fate, reply, last, created, ends⟩ := ends_issue.mp ends
            refine Or.inr ⟨fate, org.id, body, rfl, present, ?_⟩
            rw [created]
            cases reply with
            | error error => exact unchanged_of_fail ends
            | ok role => exact (Program.ends_done.mp ends).2

theorem handleGrantRole_store {identity : Option UserIdentity}
    {request : GrantRoleRequest} {store after : Store}
    {answer : Except Problem Unit}
    (ends : (handleGrantRole identity request).Ends perform store answer
      after) :
    after = store ∨ ∃ fate organisationID user,
      store.organisations.rows.lookup request.orgName = some organisationID ∧
        store.users.byUsername request.username = some user ∧
          after = (perform fate (.upsertMemberRole organisationID user.id
            request.roleName) store).2 := by
  unfold handleGrantRole at ends
  rcases unchanged_or_ends ends with same | ⟨-, ends⟩
  · exact Or.inl same
  · rcases unchanged_or_found rfl ends fun _ => ⟨_, rfl⟩ with
      same | ⟨fate, org, looked, ends⟩
    · exact Or.inl same
    obtain ⟨present, -, -⟩ := getOrganisationByName_ok looked
    rcases unchanged_or_found rfl ends fun _ => ⟨_, rfl⟩ with
      same | ⟨fate, user, found, ends⟩
    · exact Or.inl same
    obtain ⟨named, -⟩ := getUserByUsername_ok found
    obtain ⟨fate, reply, last, granted, ends⟩ := ends_issue.mp ends
    refine Or.inr ⟨fate, org.id, user, present, named, ?_⟩
    rw [granted]
    cases reply with
    | error error => exact unchanged_of_fail ends
    | ok row => exact (Program.ends_done.mp ends).2

/-! ## The invariant -/

/-- What the controlled principals hold lies within the authority. -/
structure HoldsWithin (organisationID : ID) (users : ID → Prop)
    (authority : String → Prop) (store : Store) (keys : List String) :
    Prop where
  users : ∀ id, users id → ∀ permission,
    store.Holds organisationID (.user id) permission → authority permission
  keys : ∀ lookup ∈ keys, ∀ permission,
    store.Holds organisationID (.key lookup) permission → authority permission

section Invariant

variable {server : Server} {organisationID : ID} {users : ID → Prop}
variable {authority : String → Prop} {store after : Store}
variable {keys : List String}

/-- Nothing but the memberships, the roles and the keys counts. -/
theorem HoldsWithin.congr
    (within : HoldsWithin organisationID users authority store keys)
    (members : ∀ id, users id → after.members.lookup (organisationID, id) =
      store.members.lookup (organisationID, id))
    (roles : after.roles = store.roles)
    (apiKeys : after.apiKeys = store.apiKeys) :
    HoldsWithin organisationID users authority after keys := by
  refine ⟨fun id controlled permission holds => ?_,
    fun lookup given permission holds => ?_⟩
  · refine within.users id controlled permission ?_
    simp only [Store.Holds, members id controlled, Store.matchingRoles, roles]
      at holds
    exact holds
  · refine within.keys lookup given permission ?_
    rwa [Store.Holds, apiKeys] at holds

/-- A role is created. -/
theorem HoldsWithin.createRole {ownerID : ID} {name : String}
    {permissions : List String}
    (within : HoldsWithin organisationID users authority store keys)
    (stays : ownerID = organisationID →
      (∀ permission ∈ permissions, authority permission) ∨
        ∀ id, users id → ∀ member,
          store.members.lookup (organisationID, id) = some member →
            member.roleName ≠ name) :
    HoldsWithin organisationID users authority
      { store with
        roles := store.roles.insert (some ownerID, name)
          ⟨permissions, false⟩ } keys := by
  refine ⟨fun id controlled permission holds => ?_, within.keys⟩
  obtain ⟨member, joined, admin | ⟨role, matching, granted⟩⟩ := holds
  · exact within.users id controlled permission ⟨member, joined, Or.inl admin⟩
  · rw [mem_matchingRoles, lookup_insert_eq, lookup_insert_eq] at matching
    rw [if_neg (show ((none : Option ID), member.roleName) ≠
      (some ownerID, name) from nofun)] at matching
    by_cases created : (some organisationID, member.roleName) =
        (some ownerID, name)
    · rw [if_pos created] at matching
      obtain ⟨owner, named⟩ := Prod.mk.inj created
      rcases matching with new | builtIn
      · cases new
        rcases stays (Option.some.inj owner).symm with inside | unused
        · exact inside permission granted
        · exact absurd named (unused id controlled member joined)
      · exact within.users id controlled permission ⟨member, joined, Or.inr
          ⟨role, mem_matchingRoles.mpr (Or.inr builtIn), granted⟩⟩
    · rw [if_neg created] at matching
      exact within.users id controlled permission ⟨member, joined, Or.inr
        ⟨role, mem_matchingRoles.mpr matching, granted⟩⟩

/-- A role is granted. -/
theorem HoldsWithin.grant {ownerID userID createdAt nextID : Nat}
    {roleName : String}
    (within : HoldsWithin organisationID users authority store keys)
    (stays : ownerID = organisationID → users userID →
      roleName ≠ roleAdmin ∧
        ∀ role ∈ store.matchingRoles organisationID roleName,
          ∀ permission ∈ role.permissions, authority permission) :
    HoldsWithin organisationID users authority
      { store with
        members := store.members.insert (ownerID, userID)
          ⟨roleName, createdAt⟩
        nextID := nextID } keys := by
  refine ⟨fun id controlled permission holds => ?_, within.keys⟩
  obtain ⟨member, joined, held⟩ := holds
  rcases lookup_insert_cases rfl joined with ⟨same, rfl⟩ | ⟨-, old⟩
  · obtain ⟨owner, rfl⟩ := Prod.mk.inj same
    obtain ⟨notAdmin, inside⟩ := stays owner.symm controlled
    rcases held with admin | ⟨role, matching, granted⟩
    · exact absurd admin notAdmin
    · exact inside role matching permission granted
  · exact within.users id controlled permission ⟨member, old, held⟩

/-- A key is created, and the caller has it from now on. -/
theorem HoldsWithin.mint {lookup : String} {key : APIKey} {nextID : ID}
    (within : HoldsWithin organisationID users authority store keys)
    (stays : key.organisationID = organisationID →
      ∀ permission ∈ key.permissions, authority permission) :
    HoldsWithin organisationID users authority
      { store with
        apiKeys := store.apiKeys.insert lookup key
        nextID := nextID } (lookup :: keys) := by
  refine ⟨within.users, fun other given permission holds => ?_⟩
  obtain ⟨found, present, active, owner, granted⟩ := holds
  rcases lookup_insert_cases rfl present with ⟨-, rfl⟩ | ⟨different, old⟩
  · exact stays owner permission granted
  · have had := (List.mem_cons.mp given).resolve_left different
    exact within.keys other had permission ⟨found, old, active, owner, granted⟩

theorem HoldsWithin.mono {fewer : List String}
    (within : HoldsWithin organisationID users authority store keys)
    (subset : fewer ⊆ keys) :
    HoldsWithin organisationID users authority store fewer :=
  ⟨within.users, fun lookup given => within.keys lookup (subset given)⟩

/-- What a controlled caller has lies within the authority. -/
theorem authority_of_gives {request : HTTPRequest} {caller : UserIdentity}
    (within : HoldsWithin organisationID users authority store keys)
    (issued : IssuedBy server users keys store request)
    (gives : store.Gives server request organisationID caller) :
    (caller.role = roleAdmin → ∀ permission, authority permission) ∧
      ∀ permission ∈ caller.permissions, authority permission := by
  obtain ⟨token, bearer, ⟨key, isKey, ⟨present, active, -⟩, owner, ofKey⟩ |
    ⟨validate, claims, user, member, configured, valid, own, joined, role, -,
      permissions⟩⟩ := gives
  · constructor
    · intro admin
      rw [ofKey.role] at admin
      exact absurd admin (by decide)
    · intro permission granted
      rw [ofKey.permissions] at granted
      exact within.keys _ ((issued token bearer).1 isKey) permission
        ⟨key, present, active, owner, granted⟩
  · have controlled := (issued token bearer).2 validate claims user configured
      valid own
    constructor
    · intro admin permission
      exact within.users user.id controlled permission
        ⟨member, joined, Or.inl (role ▸ admin)⟩
    · intro permission granted
      exact within.users user.id controlled permission
        ⟨member, joined, Or.inr (permissions permission granted)⟩

/-- What `CreateToken` writes for a controlled caller. -/
theorem HoldsWithin.handleToken {tokenName orgName : String}
    {appNames permissions : Option (List String)}
    {minted : Except String MintedKey} {caller : UserIdentity}
    {answer : Except Problem Unit} {ownerID : ID} (named : orgName ≠ "")
    (within : HoldsWithin organisationID users authority store keys)
    (notGlobal : caller.isAdmin = false)
    (present : store.organisations.rows.lookup orgName = some ownerID)
    (held : ownerID = organisationID →
      (caller.role = roleAdmin → ∀ permission, authority permission) ∧
        ∀ permission ∈ caller.permissions, authority permission)
    (ends : (createToken (some caller)
      ⟨orgName, tokenName, appNames, permissions⟩ minted).Ends perform store
        answer after) :
    HoldsWithin organisationID users authority after
      (Demand.given (.token tokenName appNames permissions minted) answer ++
        keys) := by
  rcases createToken_store ends with
    ⟨failed, rfl⟩ | ⟨fate, reply, mintedID, mintedKey, rfl, owner, checked,
      replied, created⟩
  · have none : Demand.given (.token tokenName appNames permissions minted)
        answer = [] := by
      cases answer with
      | error problem => cases minted <;> rfl
      | ok body => exact absurd rfl failed
    rw [none]
    exact within
  · have normal : normalizeOrg orgName = orgName := if_neg named
    have owner : store.organisations.rows.lookup (normalizeOrg orgName) =
        some mintedID := owner
    rw [normal, present] at owner
    cases owner
    -- The new key has what the caller has, or the caller has everything.
    have granted : ownerID = organisationID → ∀ permission ∈ tokenPermissions
        (some caller) (permissions.getD []), authority permission := by
      intro isOwner permission listed
      obtain ⟨everything, own⟩ := held isOwner
      by_cases admin : caller.role = roleAdmin
      · exact everything admin permission
      · have notAdmin : isAdmin (some caller) = false := by
          simp [isAdmin, notGlobal, admin]
        exact own permission ((tokenPermissions_of_refusal notAdmin
          (checked notAdmin)).2 permission listed)
    cases answer with
    | ok body =>
        cases replied rfl
        obtain ⟨-, rfl⟩ := createAPIKey_ok created
        exact within.mint granted
    | error problem =>
        have written := createAPIKey_cases fate ownerID tokenName
          mintedKey.lookup mintedKey.hash (appNames.getD [])
            (tokenPermissions (some caller) (permissions.getD [])) store
        simp only [created] at written
        rcases written with rfl | rfl
        · exact within
        · exact (within.mint granted).mono (List.subset_cons_self _ _)

/-- What a handler writes for a controlled caller stays within the authority. -/
theorem HoldsWithin.handle {demand : Demand} {caller : UserIdentity}
    {orgName : String} {answer : Except Problem Unit} {request : HTTPRequest}
    {ownerID : ID} (named : orgName ≠ "")
    (within : HoldsWithin organisationID users authority store keys)
    (notAdmin : caller.isAdmin = false)
    (issued : IssuedBy server users keys store request)
    (present : store.organisations.rows.lookup orgName = some ownerID)
    (gives : store.Gives server request ownerID caller)
    (stays : store.organisations.rows.lookup orgName = some organisationID →
      demand.StaysWithin authority users organisationID store)
    (ends : (demand.handle caller orgName).Ends perform store answer after) :
    HoldsWithin organisationID users authority after
      (demand.given answer ++ keys) := by
  cases demand with
  | role body =>
      obtain ⟨output, middle, created, ends⟩ := Program.ends_bind.mp ends
      obtain ⟨-, rfl⟩ := Program.ends_done.mp ends
      rcases handleCreateRole_store created with
        rfl | ⟨fate, createdID, given, isGiven, owner, rfl⟩
      · exact within
      · rcases createRole_cases fate createdID given.name
            (given.permissions.getD []) store with same | same
        · rw [same]
          exact within
        · rw [same]
          refine within.createRole fun isOwner => ?_
          have isGiven : body = some given := isGiven
          subst isOwner isGiven
          exact stays owner
  | grant username roleName =>
      rcases handleGrantRole_store ends with
        rfl | ⟨fate, grantedID, user, owner, found, rfl⟩
      · exact within
      · rcases upsertMemberRole_cases fate grantedID user.id roleName store with
          same | ⟨createdAt, same⟩
        · rw [same]
          exact within
        · rw [same]
          refine within.grant fun isOwner controlled => ?_
          subst isOwner
          exact stays owner user found controlled
  | token tokenName appNames permissions minted =>
      refine within.handleToken named notAdmin present ?_ ends
      rintro rfl
      exact authority_of_gives within issued gives

theorem HoldsWithin.step {system after : CallerSystem}
    {request : CallerRequest}
    (within : HoldsWithin organisationID users authority system.store
      system.keys)
    (condition : StaysWithin server organisationID users authority system
      request)
    (taken : system.step server request = some after) :
    HoldsWithin organisationID users authority after.store after.keys := by
  unfold CallerSystem.step at taken
  cases login : (authMiddleware server request.http).run perform
      request.loginFates system.store with
  | none =>
      rw [login] at taken
      cases taken
  | some result =>
      obtain ⟨answer, before⟩ := result
      have stays := condition answer before login
      have only := authMiddleware_only server request.http
      have roles : before.roles = system.store.roles :=
        only.preserves Store.roles
          (fun fate statement store allowed =>
            (leaves_perform fate statement store).roles allowed.1)
          ⟨_, login⟩
      have loggedIn : HoldsWithin organisationID users authority before
          system.keys :=
        within.congr stays.settled roles (apiKeys_authMiddleware ⟨_, login⟩)
      rw [login] at taken
      rcases answer with problem | identity
      · cases taken
        exact loggedIn
      · cases identity with
        | none =>
            cases taken
            exact loggedIn
        | some caller =>
            simp only at taken
            split_ifs at taken with global
            obtain ⟨⟨result, last⟩, handled, rfl⟩ :=
              Option.map_eq_some_iff.mp taken
            have notAdmin := Bool.eq_false_of_not_eq_true global
            obtain ⟨member, notJoin⟩ := request.demand.route_mem
            obtain ⟨ownerID, present, gives⟩ := gives_of_authMiddleware member
              notJoin request.named notAdmin ⟨_, login⟩
            exact loggedIn.handle request.named notAdmin stays.issued present
              gives stays.stays ⟨_, handled⟩

end Invariant

/--
In every run whose requests stay within what the caller had at the start, no
controlled principal holds a permission the caller did not have then.
-/
theorem callerRun_noEscalation {server : Server} {organisationID : ID}
    {users : ID → Prop} {caller : Principal} {start system : CallerSystem}
    {requests : List CallerRequest}
    (initially : ∀ principal, start.Controls users principal → ∀ permission,
      start.store.Holds organisationID principal permission →
        start.store.Holds organisationID caller permission)
    (ran : GuardedRun (CallerSystem.step server)
      (StaysWithin server organisationID users
        (start.store.Holds organisationID caller)) start requests system) :
    ∀ principal, system.Controls users principal → ∀ permission,
      system.store.Holds organisationID principal permission →
        start.store.Holds organisationID caller permission := by
  have within := ran.invariant
    (fun system => HoldsWithin organisationID users
      (start.store.Holds organisationID caller) system.store system.keys)
    (fun condition taken within => within.step condition taken)
    ⟨fun id controlled => initially (.user id) controlled,
      fun lookup given => initially (.key lookup) given⟩
  intro principal controlled
  cases principal with
  | user id => exact within.users id controlled
  | key lookup => exact within.keys lookup controlled

/-- A server with an identity provider which knows one subject. -/
def adaServer : Server :=
  { keyServer with
    validator := some fun token =>
      if token = "ada" then .ok ⟨"ada", "ada", "ada@acme"⟩
      else .error "unknown" }

/-- The subject is a member who may manage the organisation and nothing else. -/
def managersStore : Store :=
  let known := (perform (.answered true)
    (.upsertUser "ada" "ada" "ada@acme" false) acmeStore).2
  let defined := (perform (.answered true)
    (.createRole 1 "managers" [permOrgWrite]) known).2
  (perform (.answered true) (.upsertMemberRole 1 1 "managers") defined).2

/-- A request of the subject, with nothing going wrong. -/
def adaAsks (demand : Demand) : CallerRequest where
  orgName := "acme"
  named := acme_ne_empty
  authorization := "Bearer ada"
  tokenParameter := ""
  demand := demand
  loginFates := List.replicate 6 (.answered true)
  fates := List.replicate 3 (.answered true)

theorem adaAsks_issued {demand : Demand} {keys : List String} {before : Store}
    (known : ∀ user, before.users.rows.lookup "ada" = some user →
      user.id = 1) :
    IssuedBy adaServer (· = 1) keys before (adaAsks demand).http := by
  intro token bearer
  have given : bearerToken (adaAsks demand).http = .ok "ada" := by
    simp only [bearerToken, CallerRequest.http, OrgRoute.request, adaAsks]
    rfl
  rw [given] at bearer
  cases bearer
  refine ⟨fun isKey => absurd isKey (by decide), ?_⟩
  intro validate claims user configured valid own
  cases configured
  cases valid
  exact known user own

theorem callerRun_noEscalation_definesRole :
    ∃ system,
      GuardedRun (CallerSystem.step adaServer)
          (StaysWithin adaServer 1 (· = 1) (managersStore.Holds 1 (.user 1)))
          ⟨managersStore, []⟩
          [adaAsks (.role (some ⟨"auditors", some [permOrgWrite]⟩)),
            adaAsks (.grant "ada" "auditors")] system ∧
        ∀ permission, system.store.Holds 1 (.user 1) permission →
          managersStore.Holds 1 (.user 1) permission := by
  have manages : managersStore.Holds 1 (.user 1) permOrgWrite :=
    ⟨_, rfl, Or.inr ⟨⟨[permOrgWrite], false⟩, List.mem_cons_self,
      List.mem_cons_self⟩⟩
  have initially : ∀ principal,
      CallerSystem.Controls ⟨managersStore, []⟩ (· = 1) principal →
        ∀ permission, managersStore.Holds 1 principal permission →
          managersStore.Holds 1 (.user 1) permission := by
    intro principal controlled permission holds
    cases principal with
    | user id =>
        cases controlled
        exact holds
    | key lookup => cases controlled
  have ran : ∃ system, GuardedRun (CallerSystem.step adaServer)
      (StaysWithin adaServer 1 (· = 1) (managersStore.Holds 1 (.user 1)))
      ⟨managersStore, []⟩
      [adaAsks (.role (some ⟨"auditors", some [permOrgWrite]⟩)),
        adaAsks (.grant "ada" "auditors")] system := by
    refine ⟨_, .cons ?_ rfl (.cons ?_ rfl (.nil _))⟩
    · intro answer before login
      cases login
      refine ⟨adaAsks_issued ?_, fun id own => by cases own; rfl,
        fun _ => Or.inl ?_⟩
      · intro user own
        cases own
        rfl
      · intro permission listed
        rw [List.mem_singleton.mp listed]
        exact manages
    · intro answer before login
      cases login
      refine ⟨adaAsks_issued ?_, fun id own => by cases own; rfl, fun _ => ?_⟩
      · intro user own
        cases own
        rfl
      · intro user found controlled
        refine ⟨by decide, fun role matching permission listed => ?_⟩
        rcases mem_matchingRoles.mp matching with own | builtIn
        · cases own
          rw [List.mem_singleton.mp listed]
          exact manages
        · cases builtIn
  obtain ⟨system, ran⟩ := ran
  exact ⟨system, ran, callerRun_noEscalation initially ran (.user 1) rfl⟩

/-- The subject makes herself an admin. -/
theorem grantsAdmin_escalates :
    ∃ system,
      run (CallerSystem.step adaServer) ⟨managersStore, []⟩
          [adaAsks (.grant "ada" roleAdmin)] = some system ∧
        system.store.Holds 1 (.user 1) permTokenWrite ∧
          ¬managersStore.Holds 1 (.user 1) permTokenWrite := by
  refine ⟨_, rfl, ⟨_, rfl, Or.inl rfl⟩, ?_⟩
  rintro ⟨member, joined, held⟩
  cases joined
  revert held
  decide

end DbosRelay.Identity
