import DbosRelay.Identity.Roles
import DbosRelay.Identity.Routes

/-!
# Authorisation

A request to a route of an organisation reaches the next handler only with a
key or a membership of that organisation and a permission of that route.
-/

namespace DbosRelay.Identity

open DbosRelay.Library.Programs
open Segment

/-! ## Authentication -/

/-- The key of a token, as it is stored. -/
def Store.HasKey (store : Store) (server : Server) (token : String)
    (key : APIKey) : Prop :=
  store.apiKeys.lookup (lookupOf token) = some key ∧ key.revoked = false ∧
    server.hash token = key.keyHash

/-- The identity of a key. -/
structure UserIdentity.OfKey (identity : UserIdentity) (key : APIKey) :
    Prop where
  isAPIKey : identity.isAPIKey = true
  isAdmin : identity.isAdmin = false
  role : identity.role = ""
  orgID : identity.orgID = key.organisationID
  applicationNames : identity.applicationNames = key.applicationNames
  permissions : identity.permissions = key.permissions

theorem authenticateKey_ok {server : Server} {token : String}
    {store after : Store} {identity : UserIdentity}
    (ends : (authenticateKey server token).Ends perform store (.ok identity)
      after) :
    ∃ key, after = store ∧ store.HasKey server token key ∧
      identity.OfKey key := by
  unfold authenticateKey at ends
  obtain ⟨fate, reply, middle, looked, ends⟩ := ends_issue.mp ends
  cases reply with
  | error error => exact (not_ends_fail ends).elim
  | ok key =>
      obtain ⟨present, active, rfl⟩ := getAPIKeyByLookup_ok looked
      obtain ⟨same, ends⟩ := ends_unless ends
      obtain ⟨fate, reply, -, ends⟩ := ends_read rfl ends
      obtain ⟨fate, reply, -, ends⟩ := ends_read rfl ends
      obtain ⟨ended, unchanged⟩ := Program.ends_done.mp ends
      cases ended
      exact ⟨key, unchanged, ⟨present, active, not_not.mp same⟩,
        ⟨rfl, rfl, rfl, rfl, rfl, rfl⟩⟩

/-- The user of a subject as it is stored, or no user. -/
def Store.HasUser (store : Store) (subject : String) (user : User) : Prop :=
  store.users.rows.lookup subject = some user ∨ user = zeroUser

/-- The username of a subject leads back to its own record. -/
theorem Store.HasUser.own {store : Store} {subject other : String}
    {user found : User} (known : store.HasUser subject user)
    (stored : store.users.rows.lookup other = some found)
    (named : found.username = user.username) :
    store.users.rows.lookup subject = some found ∧ found = user := by
  have own : store.users.rows.lookup subject = some user := by
    refine known.resolve_right fun zero => ?_
    rw [zero] at named
    exact store.users.named stored named
  have same := store.users.unique stored own named
  rw [same] at stored
  exact ⟨stored, Option.some.inj (stored.symm.trans own)⟩

theorem resolveUser_ends {claims : Claims} {store after : Store}
    {isNewUser : Bool} {user : User}
    (ends : (resolveUser claims).Ends perform store (isNewUser, user) after) :
    after.HasUser claims.subject user := by
  unfold resolveUser at ends
  obtain ⟨fate, existing, middle, -, ends⟩ := ends_issue.mp ends
  obtain ⟨fate, reply, last, upserted, ends⟩ := ends_issue.mp ends
  cases reply with
  | ok stored =>
      obtain ⟨-, rows⟩ := upsertUser_ok upserted
      obtain ⟨ended, rfl⟩ := Program.ends_done.mp ends
      cases ended
      left
      rw [rows, Library.Tables.lookup_insert_eq, if_pos rfl]
  | error error =>
      obtain ⟨fate, reply, final, looked, ends⟩ := ends_issue.mp ends
      cases reply with
      | error error =>
          obtain ⟨ended, -⟩ := Program.ends_done.mp ends
          cases ended
          exact Or.inr rfl
      | ok stored =>
          obtain ⟨present, rfl⟩ := getUserBySubject_ok looked
          obtain ⟨ended, rfl⟩ := Program.ends_done.mp ends
          cases ended
          exact Or.inl present

/-! ## What logging in leaves alone -/

/-- The statement reads, or writes an organisation or a membership. -/
def SettlesHome (statement : Statement) : Prop :=
  statement.writes ≠ some .users ∧ statement.writes ≠ some .roles ∧
    statement.writes ≠ some .apiKeys

theorem adoptOrganisation_only (user : User) (name : String) :
    (adoptOrganisation user name).Only SettlesHome := by
  refine only_issue ⟨nofun, nofun, nofun⟩ fun reply => ?_
  cases reply with
  | error error => trivial
  | ok org => exact only_issue ⟨nofun, nofun, nofun⟩ fun _ => trivial

theorem resolvePersonalOrg_only (server : Server) (user : User) :
    (resolvePersonalOrg server user).Only SettlesHome := by
  refine only_issue ⟨nofun, nofun, nofun⟩ fun reply => ?_
  cases reply with
  | error error => exact adoptOrganisation_only user _
  | ok org =>
      refine only_issue ⟨nofun, nofun, nofun⟩ fun member => ?_
      split
      · trivial
      · exact adoptOrganisation_only user _

theorem homeOrganisation_only (server : Server) (user : User) :
    (homeOrganisation server user).Only SettlesHome := by
  refine only_issue ⟨nofun, nofun, nofun⟩ fun primary => ?_
  split
  · trivial
  · refine (resolvePersonalOrg_only server user).bind fun resolved => ?_
    cases resolved with
    | error error => trivial
    | ok name => trivial

theorem joinClaimedDomain_only (claims : Claims) (isNewUser : Bool)
    (user : User) :
    (joinClaimedDomain claims isNewUser user).Only SettlesHome := by
  unfold joinClaimedDomain
  split
  · trivial
  · split
    · refine only_issue ⟨nofun, nofun, nofun⟩ fun reply => ?_
      cases reply with
      | error error => trivial
      | ok organisationID => exact only_issue ⟨nofun, nofun, nofun⟩ fun _ => trivial
    · trivial

/-- The statement writes no role and no key. -/
def LogsIn (statement : Statement) : Prop :=
  statement.writes ≠ some .roles ∧ statement.writes ≠ some .apiKeys

theorem authenticateClaims_only (server : Server) (claims : Claims) :
    (authenticateClaims server claims).Only LogsIn := by
  have settles : ∀ statement, SettlesHome statement → LogsIn statement :=
    fun _ settles => settles.2
  have resolves : (resolveUser claims).Only LogsIn := by
    refine only_issue ⟨nofun, nofun⟩ fun existing => ?_
    refine only_issue ⟨nofun, nofun⟩ fun reply => ?_
    cases reply with
    | ok user => trivial
    | error error => exact only_issue ⟨nofun, nofun⟩ fun _ => trivial
  refine resolves.bind fun resolved => ?_
  refine ((joinClaimedDomain_only claims _ _).mono settles).bind fun _ => ?_
  exact ((homeOrganisation_only server _).mono settles).bind fun _ => trivial

theorem authenticate_only (server : Server) (token : String) :
    (authenticate server token).Only LogsIn := by
  unfold authenticate
  split
  · refine only_issue ⟨nofun, nofun⟩ fun reply => ?_
    cases reply with
    | error error => trivial
    | ok key =>
        refine only_unless (only_issue ⟨nofun, nofun⟩ fun _ => ?_)
        exact only_issue ⟨nofun, nofun⟩ fun _ => trivial
  · split
    · trivial
    · split
      · trivial
      · exact (authenticateClaims_only server _).bind fun _ => trivial

theorem finishAuthorisation_only (request : HTTPRequest)
    (identity : UserIdentity) {allowed : Statement → Prop} :
    (finishAuthorisation request identity).Only allowed := by
  unfold finishAuthorisation
  split
  · trivial
  · trivial

theorem authorise_only (server : Server) (request : HTTPRequest)
    (identity : UserIdentity) :
    (authorise server request identity).Only LogsIn := by
  unfold authorise authoriseGlobal
  split
  · split
    · trivial
    · refine only_unless ?_
      split
      · trivial
      · refine only_issue ⟨nofun, nofun⟩ fun reply => ?_
        cases reply with
        | error error => trivial
        | ok user =>
            refine ((homeOrganisation_only server user).mono
              fun _ settles => settles.2).bind fun home => ?_
            cases home with
            | none => trivial
            | some home => trivial
  · refine only_issue ⟨nofun, nofun⟩ fun reply => ?_
    cases reply with
    | error error => trivial
    | ok org =>
        simp only
        split
        · refine only_unless ?_
          trivial
        · split
          · refine only_unless (only_unless ?_)
            exact finishAuthorisation_only request _
          · refine only_issue ⟨nofun, nofun⟩ fun reply => ?_
            cases reply with
            | error error => trivial
            | ok member =>
                refine only_issue ⟨nofun, nofun⟩ fun _ => ?_
                exact finishAuthorisation_only request _

theorem authMiddleware_only (server : Server) (request : HTTPRequest) :
    (authMiddleware server request).Only LogsIn := by
  unfold authMiddleware
  split
  · trivial
  · split
    · trivial
    · split
      · trivial
      · refine (authenticate_only server _).bind fun answer => ?_
        cases answer with
        | error problem => trivial
        | ok identity =>
            refine (authorise_only server request identity).bind fun answer => ?_
            cases answer with
            | error problem => trivial
            | ok identity => trivial

/-- The middleware leaves the keys as they are. -/
theorem apiKeys_authMiddleware {server : Server} {request : HTTPRequest}
    {store after : Store} {answer : Except Problem (Option UserIdentity)}
    (ends : (authMiddleware server request).Ends perform store answer after) :
    after.apiKeys = store.apiKeys :=
  (authMiddleware_only server request).preserves Store.apiKeys
    (fun fate statement store allowed =>
      (leaves_perform fate statement store).apiKeys allowed.2)
    ends

theorem users_of_only {Value : Type} {program : StoreProgram Value}
    (only : program.Only SettlesHome) {store after : Store} {value : Value}
    (ends : program.Ends perform store value after) :
    after.users = store.users :=
  only.preserves Store.users
    (fun fate statement store allowed =>
      (leaves_perform fate statement store).users allowed.1)
    ends

/-- The identity of validated claims. -/
structure UserIdentity.OfUser (identity : UserIdentity) (subject : String)
    (user : User) : Prop where
  isAPIKey : identity.isAPIKey = false
  subject : identity.subject = subject
  username : identity.username = user.username
  isAdmin : identity.isAdmin = user.isAdmin
  applicationNames : identity.applicationNames = []

theorem authenticateClaims_ends {server : Server} {claims : Claims}
    {store after : Store} {identity : UserIdentity}
    (ends : (authenticateClaims server claims).Ends perform store identity
      after) :
    ∃ user, after.HasUser claims.subject user ∧
      identity.OfUser claims.subject user := by
  unfold authenticateClaims at ends
  obtain ⟨⟨isNewUser, user⟩, resolved, resolves, ends⟩ :=
    Program.ends_bind.mp ends
  obtain ⟨_, joined, joins, ends⟩ := Program.ends_bind.mp ends
  obtain ⟨home, housed, houses, ends⟩ := Program.ends_bind.mp ends
  obtain ⟨ended, rfl⟩ := Program.ends_done.mp ends
  cases ended
  have users : after.users = resolved.users :=
    (users_of_only (homeOrganisation_only server user) houses).trans
      (users_of_only (joinClaimedDomain_only claims isNewUser user) joins)
  refine ⟨user, ?_, ⟨rfl, rfl, rfl, rfl, rfl⟩⟩
  rw [Store.HasUser, users]
  exact resolveUser_ends resolves

/-- What the middleware knows of a caller it has identified. -/
theorem authenticate_ok {server : Server} {token : String}
    {store after : Store} {identity : UserIdentity}
    (ends : (authenticate server token).Ends perform store (.ok identity)
      after) :
    (keyPrefix.toList.isPrefixOf token.toList = true ∧
        ∃ key, after = store ∧ store.HasKey server token key ∧
          identity.OfKey key) ∨
      (keyPrefix.toList.isPrefixOf token.toList = false ∧
        ∃ validate claims, server.validator = some validate ∧
          validate token = .ok claims ∧
            ∃ user, after.HasUser claims.subject user ∧
              identity.OfUser claims.subject user) := by
  unfold authenticate at ends
  cases isKey : keyPrefix.toList.isPrefixOf token.toList with
  | true =>
      rw [isKey, if_pos rfl] at ends
      exact Or.inl ⟨rfl, authenticateKey_ok ends⟩
  | false =>
      rw [isKey, if_neg nofun] at ends
      cases configured : server.validator with
      | none =>
          rw [configured] at ends
          exact (not_ends_fail ends).elim
      | some validate =>
          rw [configured] at ends
          cases valid : validate token with
          | error message =>
              simp only [valid] at ends
              exact (not_ends_fail ends).elim
          | ok claims =>
              simp only [valid] at ends
              obtain ⟨found, reached, resolved, ended⟩ :=
                Program.ends_bind.mp ends
              obtain ⟨same, rfl⟩ := Program.ends_done.mp ended
              cases same
              exact Or.inr ⟨rfl, validate, claims, rfl, valid,
                authenticateClaims_ends resolved⟩

/-- The parts of a request which reaches the next handler. -/
theorem authMiddleware_ok {server : Server} {request : HTTPRequest}
    {store after : Store} {result : Option UserIdentity}
    (notPublic : isPublic request.path = false)
    (ends : (authMiddleware server request).Ends perform store (.ok result)
      after) :
    (server.authEnabled = false ∧ result = some localIdentity) ∨
      ∃ token caller middle identity, bearerToken request = .ok token ∧
        (authenticate server token).Ends perform store (.ok caller) middle ∧
          (authorise server request caller).Ends perform middle (.ok identity)
            after ∧ result = some identity := by
  unfold authMiddleware at ends
  by_cases disabled : server.authEnabled = false ∧ request.path ≠ "/v1/metrics"
  · rw [if_pos disabled] at ends
    obtain ⟨same, -⟩ := Program.ends_done.mp ends
    cases same
    exact Or.inl ⟨disabled.1, rfl⟩
  rw [if_neg disabled, notPublic, if_neg nofun] at ends
  right
  cases bearer : bearerToken request with
  | error problem =>
      rw [bearer] at ends
      exact (not_ends_fail ends).elim
  | ok token =>
      rw [bearer] at ends
      obtain ⟨answer, middle, authenticated, ends⟩ := Program.ends_bind.mp ends
      cases answer with
      | error problem => exact (not_ends_fail ends).elim
      | ok caller =>
          obtain ⟨answer, last, authorised, ends⟩ := Program.ends_bind.mp ends
          cases answer with
          | error problem => exact (not_ends_fail ends).elim
          | ok identity =>
              obtain ⟨same, rfl⟩ := Program.ends_done.mp ends
              cases same
              exact ⟨token, caller, middle, identity, rfl, authenticated,
                authorised, rfl⟩

/-! ## Authorisation -/

/-- The caller has a permission of the route, or needs none. -/
def UserIdentity.MayUse (identity : UserIdentity) (route : OrgRoute)
    (method : String) : Prop :=
  identity.isAdmin = true ∨ identity.role = roleAdmin ∨ route.isOpen = true ∨
    ∃ permission ∈ route.permissions method, permission ∈ identity.permissions

theorem appName_ne_empty {route : OrgRoute} {values : String → String}
    {request : HTTPRequest} (received : route.Receives values request)
    (namesApp : route.namesApp = true) : request.appName ≠ "" := by
  rw [received.appName, if_pos namesApp]
  intro empty
  exact (clean_appName (received.validApp namesApp)).1
    (by rw [empty]; rfl)

/-- A caller who is not refused may use the route and the application. -/
theorem mayUse_of_accessRefusal {route : OrgRoute} {values : String → String}
    {request : HTTPRequest} {identity : UserIdentity}
    (member : route ∈ orgRoutes) (received : route.Receives values request)
    (notJoin : route ≠ OrgRoute.joinOrg)
    (allowed : accessRefusal request identity = none) :
    identity.MayUse route request.method ∧
      (identity.isAPIKey = true → identity.applicationNames ≠ [] →
        request.appName ≠ "" →
          request.appName ∈ identity.applicationNames) := by
  unfold accessRefusal at allowed
  obtain ⟨inside, allowed⟩ := refusal_eq_none allowed
  refine ⟨?_, fun isKey limited named => ?_⟩
  · unfold UserIdentity.MayUse
    by_cases admin : identity.isAdmin = true
    · exact Or.inl admin
    · by_cases role : identity.role = roleAdmin
      · exact Or.inr (Or.inl role)
      · refine Or.inr (Or.inr ?_)
        have notAdmin := Bool.eq_false_of_not_eq_true admin
        cases namesApp : route.namesApp with
        | false =>
            have noApp : request.appName = "" := by
              rw [received.appName, namesApp]
              rfl
            rw [if_pos noApp, received.path] at allowed
            obtain ⟨held, -⟩ := refusal_eq_none allowed
            refine permission_of_orgLevel member notJoin namesApp
              received.validOrg fun required => ?_
            by_contra missing
            exact held ⟨notAdmin, role, required,
              Bool.eq_false_of_not_eq_true missing⟩
        | true =>
            rw [if_neg (appName_ne_empty received namesApp)] at allowed
            obtain ⟨held, -⟩ := refusal_eq_none allowed
            refine Or.inr (permission_of_app member received namesApp ?_)
            by_contra missing
            exact held ⟨Bool.eq_false_of_not_eq_true missing, notAdmin, role⟩
  · by_contra unlisted
    exact inside ⟨named, isKey, limited, unlisted⟩

theorem finishAuthorisation_ok {request : HTTPRequest}
    {identity result : UserIdentity} {store after : Store}
    (ends : (finishAuthorisation request identity).Ends perform store
      (.ok result) after) :
    accessRefusal request identity = none ∧ result = identity ∧
      after = store := by
  unfold finishAuthorisation at ends
  cases refusal : accessRefusal request identity with
  | some problem =>
      rw [refusal] at ends
      exact (not_ends_fail ends).elim
  | none =>
      rw [refusal] at ends
      obtain ⟨ended, same⟩ := Program.ends_done.mp ends
      cases ended
      exact ⟨rfl, rfl, same⟩

/-- What the authorisation of a member looks at. -/
theorem authoriseMember_ok {request : HTTPRequest}
    {identity result : UserIdentity} {org : Organisation} {store after : Store}
    (ends : (authoriseMember request identity org).Ends perform store
      (.ok result) after) :
    after = store ∧ accessRefusal request result = none ∧
      result.isAdmin = identity.isAdmin ∧
      result.applicationNames = identity.applicationNames ∧
        ∃ subject user member,
          store.users.rows.lookup subject = some user ∧
            user.username = identity.username ∧
              store.members.lookup (org.id, user.id) = some member ∧
                result.role = member.roleName ∧
                  ∀ permission ∈ result.permissions,
                    ∃ role ∈ store.matchingRoles org.id member.roleName,
                      permission ∈ role.permissions := by
  unfold authoriseMember at ends
  obtain ⟨fate, reply, middle, looked, ends⟩ := ends_issue.mp ends
  cases reply with
  | error error => exact (not_ends_fail ends).elim
  | ok row =>
      obtain ⟨subject, user, member, present, named, joined, -, role, rfl⟩ :=
        getMember_ok looked
      obtain ⟨fate, reply, resolved, ends⟩ := ends_read rfl ends
      obtain ⟨allowed, rfl, unchanged⟩ := finishAuthorisation_ok ends
      refine ⟨unchanged, allowed, rfl, rfl, subject, user, member, present,
        named, joined, role, fun permission listed => ?_⟩
      cases reply with
      | error error => cases listed
      | ok found =>
          rw [role] at resolved
          exact ⟨found, mem_matchingRoles.mpr (getRole_ok resolved).1, listed⟩

/-- What the authorisation for a route of an organisation looks at. -/
theorem authoriseOrganisation_ok {request : HTTPRequest}
    {identity result : UserIdentity} {store after : Store}
    (ends : (authoriseOrganisation request identity).Ends perform store
      (.ok result) after) :
    ∃ org : Organisation,
      store.organisations.rows.lookup request.orgName = some org.id ∧
        (isJoin request = true ∧ identity.isAPIKey = false ∧ after = store ∨
          isJoin request = false ∧ identity.isAPIKey = true ∧
            identity.orgID = org.id ∧
            (identity.applicationNames ≠ [] → request.appName ≠ "") ∧
              result = { identity with orgName := org.name } ∧
                accessRefusal request result = none ∧ after = store ∨
          isJoin request = false ∧ identity.isAPIKey = false ∧
            (authoriseMember request identity org).Ends perform store
              (.ok result) after) := by
  unfold authoriseOrganisation at ends
  obtain ⟨fate, reply, middle, looked, ends⟩ := ends_issue.mp ends
  cases reply with
  | error error => exact (not_ends_fail ends).elim
  | ok org =>
      obtain ⟨present, -, rfl⟩ := getOrganisationByName_ok looked
      refine ⟨org, present, ?_⟩
      cases joins : isJoin request with
      | true =>
          simp only [joins, if_true] at ends
          obtain ⟨notKey, ends⟩ := ends_unless ends
          obtain ⟨-, same⟩ := Program.ends_done.mp ends
          exact Or.inl ⟨rfl, Bool.eq_false_of_not_eq_true notKey, same⟩
      | false =>
          simp only [joins, Bool.false_eq_true, if_false] at ends
          cases isKey : identity.isAPIKey with
          | true =>
              simp only [isKey, if_true] at ends
              obtain ⟨same, ends⟩ := ends_unless ends
              obtain ⟨reachable, ends⟩ := ends_unless ends
              obtain ⟨allowed, rfl, unchanged⟩ := finishAuthorisation_ok ends
              exact Or.inr (Or.inl ⟨rfl, rfl, (not_not.mp same).symm,
                fun limited noApp => reachable ⟨limited, noApp⟩, rfl, allowed,
                unchanged⟩)
          | false =>
              simp only [isKey, Bool.false_eq_true, if_false] at ends
              exact Or.inr (Or.inr ⟨rfl, rfl, ends⟩)

/-! ## Soundness -/

/-- What the store gives the caller of a request in an organisation. -/
def Store.Gives (store : Store) (server : Server) (request : HTTPRequest)
    (organisationID : ID) (caller : UserIdentity) : Prop :=
  ∃ token, bearerToken request = .ok token ∧
    ((∃ key, keyPrefix.toList.isPrefixOf token.toList = true ∧
        store.HasKey server token key ∧
          key.organisationID = organisationID ∧ caller.OfKey key) ∨
      ∃ validate claims user member, server.validator = some validate ∧
        validate token = .ok claims ∧
          store.users.rows.lookup claims.subject = some user ∧
            store.members.lookup (organisationID, user.id) = some member ∧
              caller.role = member.roleName ∧ caller.applicationNames = [] ∧
                ∀ permission ∈ caller.permissions,
                  ∃ role ∈ store.matchingRoles organisationID member.roleName,
                    permission ∈ role.permissions)

/-- Who reaches a route other than the one to join has what the store gives. -/
theorem gives_of_authMiddleware {server : Server} {route : OrgRoute}
    {values : String → String} {authorization tokenParameter : String}
    {store after : Store} {caller : UserIdentity} (member : route ∈ orgRoutes)
    (notJoin : route ≠ OrgRoute.joinOrg) (named : values "orgName" ≠ "")
    (notAdmin : caller.isAdmin = false)
    (ends : (authMiddleware server
      (route.request values authorization tokenParameter)).Ends perform store
        (.ok (some caller)) after) :
    ∃ organisationID,
      after.organisations.rows.lookup (values "orgName") =
          some organisationID ∧
        after.Gives server (route.request values authorization tokenParameter)
          organisationID caller := by
  have notPublic : isPublic (route.request values authorization
      tokenParameter).path = false := isPublic_path _ _
  rcases authMiddleware_ok notPublic ends with
    ⟨-, isLocal⟩ | ⟨token, first, middle, identity, bearer, authenticated,
      authorised, result⟩
  · cases isLocal
    cases notAdmin
  · cases result
    unfold authorise at authorised
    rw [if_neg (show (route.request values authorization
      tokenParameter).orgName ≠ "" from named)] at authorised
    obtain ⟨org, present, ⟨joins, -⟩ |
      ⟨-, isKey, owner, -, rfl, -, rfl⟩ | ⟨-, notKey, ends⟩⟩ :=
        authoriseOrganisation_ok authorised
    · exact absurd ((isJoin_iff member (Or.inl rfl) rfl).mp joins) notJoin
    · refine ⟨org.id, present, token, bearer, Or.inl ?_⟩
      rcases authenticate_ok authenticated with
        ⟨starts, key, rfl, known, ofKey⟩ |
          ⟨-, validate, claims, -, -, user, -, ofUser⟩
      · exact ⟨key, starts, known, ofKey.orgID.symm.trans owner,
          ⟨ofKey.isAPIKey, ofKey.isAdmin, ofKey.role, ofKey.orgID,
            ofKey.applicationNames, ofKey.permissions⟩⟩
      · rw [ofUser.isAPIKey] at isKey
        cases isKey
    · rcases authenticate_ok authenticated with
        ⟨-, key, rfl, known, ofKey⟩ |
          ⟨-, validate, claims, configured, valid, user, known, ofUser⟩
      · rw [ofKey.isAPIKey] at notKey
        cases notKey
      · obtain ⟨rfl, -, -, applications, subject, found, membership, stored,
          same, joined, role, permissions⟩ := authoriseMember_ok ends
        obtain ⟨own, -⟩ := known.own stored (same.trans ofUser.username)
        exact ⟨org.id, present, token, bearer, Or.inr ⟨validate, claims, found,
          membership, configured, valid, own, joined, role,
          applications.trans ofUser.applicationNames, permissions⟩⟩

/-- A key of the organisation which reaches the route. -/
def KeyReaches (server : Server) (store : Store) (token : String)
    (route : OrgRoute) (request : HTTPRequest) (required : List String)
    (organisationID : ID) : Prop :=
  ∃ key, store.HasKey server token key ∧
    key.organisationID = organisationID ∧
      (key.applicationNames ≠ [] →
        route.namesApp = true ∧ request.appName ∈ key.applicationNames) ∧
        (route.isOpen = true ∨
          ∃ permission ∈ required, permission ∈ key.permissions)

/-- A member of the organisation who reaches the route. -/
def MemberReaches (store : Store) (claims : Claims) (route : OrgRoute)
    (required : List String) (organisationID : ID) : Prop :=
  ∃ user member,
    store.users.rows.lookup claims.subject = some user ∧
      store.members.lookup (organisationID, user.id) = some member ∧
        (user.isAdmin = true ∨ member.roleName = roleAdmin ∨
          route.isOpen = true ∨
            ∃ permission ∈ required,
              ∃ role ∈ store.matchingRoles organisationID member.roleName,
                permission ∈ role.permissions)

/--
The caller joins the organisation and is no API key, or is a key or a member of
it who reaches the route with one of the required permissions.
-/
def Authorised (server : Server) (store : Store) (route : OrgRoute)
    (request : HTTPRequest) (required : List String) : Prop :=
  ∃ organisationID token,
    store.organisations.rows.lookup request.orgName = some organisationID ∧
      bearerToken request = .ok token ∧
        (keyPrefix.toList.isPrefixOf token.toList = true ∧
            route ≠ OrgRoute.joinOrg ∧
              KeyReaches server store token route request required
                organisationID ∨
          keyPrefix.toList.isPrefixOf token.toList = false ∧
            ∃ validate claims, server.validator = some validate ∧
              validate token = .ok claims ∧
                (route = OrgRoute.joinOrg ∨
                  MemberReaches store claims route required organisationID))

theorem keyReaches_of_authorise {server : Server} {route : OrgRoute}
    {values : String → String} {request : HTTPRequest}
    {identity result : UserIdentity} {key : APIKey} {token : String}
    {store after : Store} (member : route ∈ orgRoutes)
    (received : route.Receives values request)
    (known : store.HasKey server token key) (ofKey : identity.OfKey key)
    (ends : (authoriseOrganisation request identity).Ends perform store
      (.ok result) after) :
    ∃ organisationID,
      after.organisations.rows.lookup request.orgName = some organisationID ∧
        route ≠ OrgRoute.joinOrg ∧
          KeyReaches server after token route request
            (route.permissions request.method) organisationID := by
  obtain ⟨org, present, ⟨-, notKey, -⟩ |
    ⟨notJoin, -, owner, reachable, rfl, allowed, rfl⟩ | ⟨-, notKey, -⟩⟩ :=
      authoriseOrganisation_ok ends
  · rw [ofKey.isAPIKey] at notKey
    cases notKey
  · have otherRoute : route ≠ OrgRoute.joinOrg := by
      intro same
      rw [(isJoin_iff member received.method received.pattern).mpr same]
        at notJoin
      cases notJoin
    refine ⟨org.id, present, otherRoute, key, known,
      ofKey.orgID.symm.trans owner, ?_, ?_⟩
    · obtain ⟨-, listed⟩ :=
        mayUse_of_accessRefusal member received otherRoute allowed
      intro limited
      rw [← ofKey.applicationNames] at limited ⊢
      have named := reachable limited
      refine ⟨?_, listed ofKey.isAPIKey limited named⟩
      by_contra noApp
      rw [received.appName, Bool.eq_false_of_not_eq_true noApp] at named
      exact named rfl
    · obtain ⟨admin | role | rest, -⟩ :=
        mayUse_of_accessRefusal member received otherRoute allowed
      · have admin : identity.isAdmin = true := admin
        rw [ofKey.isAdmin] at admin
        cases admin
      · have role : identity.role = roleAdmin := role
        rw [ofKey.role] at role
        exact absurd role (by decide)
      · rw [← ofKey.permissions]
        exact rest
  · rw [ofKey.isAPIKey] at notKey
    cases notKey

theorem memberReaches_of_authorise {route : OrgRoute}
    {values : String → String} {request : HTTPRequest}
    {identity result : UserIdentity} {claims : Claims} {user : User}
    {store after : Store} (member : route ∈ orgRoutes)
    (received : route.Receives values request)
    (known : store.HasUser claims.subject user)
    (ofUser : identity.OfUser claims.subject user)
    (ends : (authoriseOrganisation request identity).Ends perform store
      (.ok result) after) :
    ∃ organisationID,
      after.organisations.rows.lookup request.orgName = some organisationID ∧
        (route = OrgRoute.joinOrg ∨
          MemberReaches after claims route (route.permissions request.method)
            organisationID) := by
  obtain ⟨org, present, ⟨joins, -, rfl⟩ | ⟨-, isKey, -⟩ |
    ⟨notJoin, -, ends⟩⟩ := authoriseOrganisation_ok ends
  · exact ⟨org.id, present, Or.inl
      ((isJoin_iff member received.method received.pattern).mp joins)⟩
  · rw [ofUser.isAPIKey] at isKey
    cases isKey
  · have otherRoute : route ≠ OrgRoute.joinOrg := by
      intro same
      rw [(isJoin_iff member received.method received.pattern).mpr same]
        at notJoin
      cases notJoin
    obtain ⟨rfl, allowed, admin, -, subject, found, membership, stored, named,
      joined, role, permissions⟩ := authoriseMember_ok ends
    obtain ⟨own, rfl⟩ := known.own stored (named.trans ofUser.username)
    obtain ⟨mayUse, -⟩ :=
      mayUse_of_accessRefusal member received otherRoute allowed
    refine ⟨org.id, present, Or.inr ⟨found, membership, own, joined, ?_⟩⟩
    unfold UserIdentity.MayUse at mayUse
    rw [admin, ofUser.isAdmin, role] at mayUse
    refine mayUse.imp_right (Or.imp_right (Or.imp_right ?_))
    rintro ⟨permission, required, granted⟩
    exact ⟨permission, required, permissions permission granted⟩

theorem orgName_ne_empty {route : OrgRoute} {values : String → String}
    {request : HTTPRequest} (received : route.Receives values request) :
    request.orgName ≠ "" := by
  rw [received.orgName]
  intro empty
  exact (clean_orgName received.validOrg).1 (by rw [empty]; rfl)

/--
With authentication enabled, a request to a route of an organisation reaches
the next handler only if its caller is authorised.
-/
theorem authMiddleware_authorised {server : Server} {route : OrgRoute}
    {values : String → String} {request : HTTPRequest} {store after : Store}
    {identity : Option UserIdentity} (enabled : server.authEnabled = true)
    (member : route ∈ orgRoutes) (received : route.Receives values request)
    (ends : (authMiddleware server request).Ends perform store (.ok identity)
      after) :
    Authorised server after route request
      (route.permissions request.method) := by
  have notPublic : isPublic request.path = false := by
    rw [received.path]
    exact isPublic_path route values
  obtain ⟨token, caller, middle, result, bearer, authenticated, authorised, -⟩ :=
    (authMiddleware_ok notPublic ends).resolve_left fun disabled => by
      rw [enabled] at disabled
      cases disabled.1
  unfold authorise at authorised
  rw [if_neg (orgName_ne_empty received)] at authorised
  rcases authenticate_ok authenticated with
    ⟨isKey, key, rfl, known, ofKey⟩ |
      ⟨notKey, validate, claims, configured, valid, user, known, ofUser⟩
  · obtain ⟨organisationID, present, notJoin, reaches⟩ :=
      keyReaches_of_authorise member received known ofKey authorised
    exact ⟨organisationID, token, present, bearer,
      Or.inl ⟨isKey, notJoin, reaches⟩⟩
  · obtain ⟨organisationID, present, reaches⟩ :=
      memberReaches_of_authorise member received known ofUser authorised
    exact ⟨organisationID, token, present, bearer,
      Or.inr ⟨notKey, validate, claims, configured, valid, reaches⟩⟩

/-- A server without an identity provider. -/
def keyServer : Server where
  authEnabled := true
  hash := id
  userDigest := fun _ _ => "00000000"
  validator := none

/-- The organisation with a key which is not limited to applications. -/
def acmeKeyStore (permissions : List String) : Store :=
  (perform (.answered true) (.createAPIKey 1 "scraper" "dbos_scraper"
    "dbos_scraper1" [] permissions) acmeStore).2

/-- The values of the wildcards. -/
def acmeValues (name : String) : String :=
  if name = "orgName" then "acme" else "web"

/-- The metrics of an application are asked for with the key. -/
def asksForMetrics (method : String) : HTTPRequest where
  method := method
  path := OrgRoute.metrics.path acmeValues
  pattern := OrgRoute.metrics.pattern
  orgName := "acme"
  appName := "web"
  authorization := "Bearer dbos_scraper1"
  tokenParameter := ""

theorem asksForMetrics_received {method : String}
    (matched : method = methodGet ∨ method = "HEAD") :
    OrgRoute.metrics.Receives acmeValues (asksForMetrics method) where
  method := matched.imp_right fun head => ⟨rfl, head⟩
  pattern := rfl
  path := rfl
  orgName := rfl
  appName := rfl
  validOrg := by decide
  validApp := fun _ => by decide

theorem authMiddleware_authorised_metrics :
    ∃ identity after,
      (authMiddleware keyServer (asksForMetrics methodGet)).Ends perform
          (acmeKeyStore [permMetricRead]) (.ok (some identity)) after ∧
        Authorised keyServer after OrgRoute.metrics (asksForMetrics methodGet)
          (OrgRoute.metrics.permissions methodGet) := by
  obtain ⟨identity, after, ends⟩ : ∃ identity after,
      (authMiddleware keyServer (asksForMetrics methodGet)).Ends perform
        (acmeKeyStore [permMetricRead]) (.ok (some identity)) after :=
    ⟨_, _, List.replicate 4 (.answered true), rfl⟩
  exact ⟨identity, after, ends, authMiddleware_authorised rfl (by decide)
    (asksForMetrics_received (Or.inl rfl)) ends⟩

/--
The pattern for `GET` is matched by `HEAD`, which counts as writing: a key which
may neither read metrics nor the application asks for the metrics with it.
-/
theorem asksForMetricsHead_unauthorised :
    ∃ identity after,
      (authMiddleware keyServer (asksForMetrics "HEAD")).Ends perform
          (acmeKeyStore [permApplicationWrite]) (.ok (some identity)) after ∧
        OrgRoute.metrics ∈ orgRoutes ∧
          OrgRoute.metrics.Receives acmeValues (asksForMetrics "HEAD") ∧
            ¬Authorised keyServer after OrgRoute.metrics (asksForMetrics "HEAD")
              [permMetricRead, permApplicationRead] := by
  refine ⟨_, _, ⟨List.replicate 4 (.answered true), rfl⟩, by decide,
    asksForMetrics_received (Or.inr rfl), ?_⟩
  rintro ⟨organisationID, token, -, bearer, ⟨-, -, key, ⟨present, -⟩, -, -,
    granted⟩ | ⟨notKey, -⟩⟩
  · cases bearer
    cases present
    revert granted
    decide
  · cases bearer
    revert notKey
    decide

end DbosRelay.Identity
