import DbosRelay.Identity.Authorisation

/-!
# API keys

What the three places which check a key make of its permissions and of its
applications, with their defaults for empty lists: the middleware, the
WebSocket hub (`internal/hub/auth.go`) and the metrics endpoint
(`internal/metrics/metrics.go`).  Keys mint keys; each is contained in its
minter.
-/

namespace DbosRelay.Identity

open DbosRelay.Library.Programs
open DbosRelay.Library.Runs
open DbosRelay.Library.Tables
open Segment

/-! ## What a key may do -/

/-- Why the hub does not let a key connect for an application. -/
def hubRefusal (key : APIKey) (appName : String) : Option String :=
  if key.permissions ≠ [] ∧
      hasPermission key.permissions permWebsocketConnect = false then
    some "key does not have websocket.connect permission"
  else if key.applicationNames ≠ [] ∧ appName ∉ key.applicationNames then
    some "key does not have access to this application"
  else none

/-- The permissions the metrics endpoint goes by. -/
def metricsPermissions (identity : UserIdentity) : List String :=
  if identity.permissions = [] ∧ identity.isAPIKey = true then
    rolePermissions roleViewer
  else identity.permissions

/-- A list of applications covers one of them; the empty list covers all. -/
def coversApp (applicationNames : List String) (appName : String) : Prop :=
  applicationNames = [] ∨ appName ∈ applicationNames

/-- Whatever is ascribed to the key is the minter's. -/
structure ContainedIn (key : APIKey) (minter : UserIdentity) : Prop where
  rest : ∀ permission, hasPermission key.permissions permission = true →
    hasPermission minter.permissions permission = true
  hub : ∀ appName, hubRefusal key appName = none →
    hasPermission minter.permissions permWebsocketConnect = true ∧
      coversApp minter.applicationNames appName
  metrics : ∀ identity : UserIdentity, identity.OfKey key →
    ∀ permission, hasPermission (metricsPermissions identity) permission = true →
      hasPermission minter.permissions permission = true
  applications : ∀ appName, coversApp key.applicationNames appName →
    coversApp minter.applicationNames appName

/-! ## Minting -/

/-- What is not refused lies within the caller's permissions and applications. -/
theorem tokenRefusal_none {caller : UserIdentity}
    {appNames permissions : List String}
    (allowed : tokenRefusal caller appNames permissions = none) :
    permTokenWrite ∈ caller.permissions ∧
      (∀ permission ∈ permissions, permission ∈ caller.permissions) ∧
        ∀ appName, coversApp appNames appName →
          coversApp caller.applicationNames appName := by
  unfold tokenRefusal at allowed
  obtain ⟨mayWrite, allowed⟩ := refusal_eq_none allowed
  obtain ⟨limited, allowed⟩ := refusal_eq_none allowed
  split at allowed
  · cases allowed
  · rename_i noneOutside
    split at allowed
    · cases allowed
    · rename_i noneMissing
      refine ⟨by simpa using mayWrite, fun permission listed => ?_,
        fun appName covered => ?_⟩
      · have held := List.find?_eq_none.mp noneMissing permission listed
        simpa using held
      · unfold coversApp at covered ⊢
        by_cases free : caller.applicationNames = []
        · exact Or.inl free
        · rw [if_neg free] at noneOutside
          right
          rcases covered with empty | listed
          · exact absurd ⟨free, empty⟩ limited
          · have inside := List.find?_eq_none.mp noneOutside appName listed
            simpa using inside

/-- The permissions of a new key are some of the caller's. -/
theorem tokenPermissions_of_refusal {caller : UserIdentity}
    {appNames permissions : List String}
    (notAdmin : isAdmin (some caller) = false)
    (allowed : tokenRefusal caller appNames permissions = none) :
    tokenPermissions (some caller) permissions ≠ [] ∧
      ∀ permission ∈ tokenPermissions (some caller) permissions,
        permission ∈ caller.permissions := by
  obtain ⟨canMint, held, -⟩ := tokenRefusal_none allowed
  unfold tokenPermissions
  by_cases none : permissions = []
  · simp only [none, if_true, notAdmin, Bool.false_eq_true, if_false]
    exact ⟨List.ne_nil_of_mem canMint, fun _ listed => listed⟩
  · rw [if_neg none]
    exact ⟨none, held⟩

theorem containedIn_of_refusal {caller : UserIdentity}
    {appNames permissions : List String} {key : APIKey}
    (notAdmin : isAdmin (some caller) = false)
    (allowed : tokenRefusal caller appNames permissions = none)
    (applications : key.applicationNames = appNames)
    (granted : key.permissions = tokenPermissions (some caller) permissions) :
    ContainedIn key caller := by
  obtain ⟨-, -, covers⟩ := tokenRefusal_none allowed
  obtain ⟨some, held⟩ := tokenPermissions_of_refusal notAdmin allowed
  rw [← granted] at some held
  rw [← applications] at covers
  -- The defaults for an empty list are never used.
  refine ⟨fun permission listed => ?_, fun appName connects => ?_,
    fun identity ofKey permission listed => ?_, covers⟩
  · exact hasPermission_iff.mpr (held permission (hasPermission_iff.mp listed))
  · unfold hubRefusal at connects
    obtain ⟨refused, connects⟩ := refusal_eq_none connects
    obtain ⟨outside, -⟩ := refusal_eq_none connects
    constructor
    · by_contra missing
      refine refused ⟨some, ?_⟩
      by_contra present
      rw [Bool.not_eq_false] at present
      exact missing (hasPermission_iff.mpr
        (held _ (hasPermission_iff.mp present)))
    · refine covers appName ?_
      by_cases unlimited : key.applicationNames = []
      · exact Or.inl unlimited
      · right
        by_contra unlisted
        exact outside ⟨unlimited, unlisted⟩
  · rw [metricsPermissions, ofKey.permissions, if_neg fun both => some both.1]
      at listed
    exact hasPermission_iff.mpr (held permission (hasPermission_iff.mp listed))

/-- Everything a request for a key can do. -/
theorem createToken_store {caller : UserIdentity} {request : CreateTokenRequest}
    {minted : Except String MintedKey} {store after : Store}
    {answer : Except Problem Unit}
    (ends : (createToken (some caller) request minted).Ends perform store
      answer after) :
    answer ≠ .ok () ∧ after = store ∨ ∃ fate, ∃ reply : Except StoreError Unit,
      ∃ organisationID mintedKey, minted = .ok mintedKey ∧
        store.organisations.rows.lookup (normalizeOrg request.orgName) =
          some organisationID ∧
        (isAdmin (some caller) = false →
          tokenRefusal caller (request.appNames.getD [])
            (request.permissions.getD []) = none) ∧
        (answer = .ok () → reply = .ok ()) ∧
        perform fate (.createAPIKey organisationID request.tokenName
          mintedKey.lookup mintedKey.hash (request.appNames.getD [])
            (tokenPermissions (some caller) (request.permissions.getD [])))
              store = (reply, after) := by
  have refused : ∀ {problem : Problem} {middle : Store},
      (fail problem).Ends perform middle answer after →
        answer ≠ .ok () ∧ after = middle := by
    intro problem middle ends
    obtain ⟨rfl, same⟩ := Program.ends_done.mp ends
    exact ⟨nofun, same⟩
  unfold createToken at ends
  obtain ⟨fate, reply, looked, ends⟩ := ends_read rfl ends
  cases reply with
  | error error => cases error <;> exact Or.inl (refused ends)
  | ok org =>
      obtain ⟨present, -, -⟩ := getOrganisationByName_ok looked
      cases minted with
      | error message => exact Or.inl (refused ends)
      | ok mintedKey =>
          simp only at ends
          split at ends
          · exact Or.inl (refused ends)
          · rename_i allowed
            obtain ⟨fate, reply, last, created, ends⟩ := ends_issue.mp ends
            have checked : isAdmin (some caller) = false →
                tokenRefusal caller (request.appNames.getD [])
                  (request.permissions.getD []) = none := by
              intro notAdmin
              simpa only [notAdmin, Bool.false_eq_true, if_false] using allowed
            refine Or.inr ⟨fate, reply, org.id, mintedKey, rfl, present, checked,
              ?_⟩
            cases reply with
            | error error =>
                have failed : answer ≠ .ok () ∧ after = last := by
                  cases error <;> exact refused ends
                rw [failed.2]
                exact ⟨fun ok => (failed.1 ok).elim, created⟩
            | ok row =>
                rw [(Program.ends_done.mp ends).2]
                exact ⟨fun _ => rfl, created⟩

theorem createToken_ok {caller : UserIdentity} {request : CreateTokenRequest}
    {minted : Except String MintedKey} {store after : Store}
    (notAdmin : isAdmin (some caller) = false)
    (ends : (createToken (some caller) request minted).Ends perform store
      (.ok ()) after) :
    ∃ organisationID mintedKey key,
      minted = .ok mintedKey ∧
        store.organisations.rows.lookup (normalizeOrg request.orgName) =
          some organisationID ∧
        key.organisationID = organisationID ∧ ContainedIn key caller ∧
          store.apiKeys.lookup mintedKey.lookup = none ∧
            after.apiKeys = store.apiKeys.insert mintedKey.lookup key := by
  rcases createToken_store ends with ⟨failed, -⟩ |
    ⟨fate, reply, organisationID, mintedKey, minted, present, checked, succeeds,
      created⟩
  · exact absurd rfl failed
  · rw [succeeds rfl] at created
    obtain ⟨absent, rfl⟩ := createAPIKey_ok created
    exact ⟨organisationID, mintedKey, _, minted, present, rfl,
      containedIn_of_refusal notAdmin (checked notAdmin) rfl rfl, absent, rfl⟩

/-! ## Chains -/

/-- The route of `CreateToken`. -/
def createTokenRoute : OrgRoute :=
  ⟨methodPost, [literal "tokens", wildcard "tokenName"]⟩

/-- A request to mint a key, and how the statements of its two parts come out. -/
structure Mint where
  orgName : String
  named : orgName ≠ ""
  tokenName : String
  authorization : String
  tokenParameter : String
  appNames : Option (List String)
  permissions : Option (List String)
  minted : Except String MintedKey
  loginFates : List Fate
  fates : List Fate

namespace Mint

/-- The values of the wildcards. -/
def values (mint : Mint) (name : String) : String :=
  if name = "orgName" then mint.orgName else mint.tokenName

/-- The request as the middleware sees it. -/
def http (mint : Mint) : HTTPRequest :=
  createTokenRoute.request mint.values mint.authorization mint.tokenParameter

/-- The request as the handler sees it. -/
def body (mint : Mint) : CreateTokenRequest :=
  ⟨mint.orgName, mint.tokenName, mint.appNames, mint.permissions⟩

end Mint

/-- A key which was minted: its minter, and the store the minter was judged by. -/
structure Minting where
  lookup : String
  minter : UserIdentity
  request : HTTPRequest
  before : Store

/-- The store and the keys minted so far. -/
structure TokenChain where
  store : Store
  mintings : List Minting

/-- A caller who is no admin mints a key. -/
def TokenChain.step (server : Server) (chain : TokenChain) (mint : Mint) :
    Option TokenChain :=
  match (authMiddleware server mint.http).run perform mint.loginFates
      chain.store with
  | some (.ok (some minter), before) =>
      if isAdmin (some minter) then none
      else
        match (createToken (some minter) mint.body mint.minted).run perform
            mint.fates before, mint.minted with
        | some (.ok (), after), .ok key =>
            some ⟨after, chain.mintings ++
              [⟨key.lookup, minter, mint.http, before⟩]⟩
        | _, _ => none
  | _ => none

/-- Everything a step of a chain does. -/
theorem TokenChain.step_cases {server : Server} {chain after : TokenChain}
    {mint : Mint} (taken : chain.step server mint = some after) :
    ∃ minter before key,
      (authMiddleware server mint.http).Ends perform chain.store
          (.ok (some minter)) before ∧
        isAdmin (some minter) = false ∧ mint.minted = .ok key ∧
          (createToken (some minter) mint.body mint.minted).Ends perform before
            (.ok ()) after.store ∧
            after.mintings = chain.mintings ++
              [⟨key.lookup, minter, mint.http, before⟩] := by
  unfold TokenChain.step at taken
  split at taken
  · rename_i minter before ran
    split_ifs at taken with admin
    split at taken
    · rename_i last key minted created
      cases taken
      exact ⟨minter, before, key, ⟨_, ran⟩, Bool.eq_false_of_not_eq_true admin,
        created, ⟨_, minted⟩, rfl⟩
    · cases taken
  · cases taken

/-- Every key of the chain is contained in its minter. -/
def TokenChain.Contained (server : Server) (chain : TokenChain) : Prop :=
  ∀ minting ∈ chain.mintings, ∃ organisationID key,
    minting.before.organisations.rows.lookup minting.request.orgName =
        some organisationID ∧
      minting.before.Gives server minting.request organisationID
          minting.minter ∧
        chain.store.apiKeys.lookup minting.lookup = some key ∧
          key.organisationID = organisationID ∧
            ContainedIn key minting.minter

theorem TokenChain.Contained.step {server : Server} {chain after : TokenChain}
    {mint : Mint} (contained : chain.Contained server)
    (taken : chain.step server mint = some after) :
    after.Contained server := by
  obtain ⟨minter, before, minted, ends, notAdmin, isMinted, created, mintings⟩ :=
    step_cases taken
  have keys := apiKeys_authMiddleware ends
  obtain ⟨organisationID, mintedKey, key, same, found, owner, within, absent,
    inserted⟩ := createToken_ok notAdmin created
  rw [isMinted] at same
  cases same
  intro minting member
  rw [mintings, List.mem_append, List.mem_singleton] at member
  rcases member with old | rfl
  · obtain ⟨oldID, oldKey, present, gives, stored, oldOwner, oldWithin⟩ :=
      contained minting old
    refine ⟨oldID, oldKey, present, gives, ?_, oldOwner, oldWithin⟩
    have different : minting.lookup ≠ minted.lookup := by
      intro same
      rw [same, ← keys, absent] at stored
      cases stored
    rw [inserted, lookup_insert_eq, if_neg different, keys]
    exact stored
  · have notGlobal : minter.isAdmin = false :=
      (Bool.or_eq_false_iff.mp notAdmin).1
    obtain ⟨ownerID, present, gives⟩ := gives_of_authMiddleware (by decide)
      (by decide) mint.named notGlobal ends
    have normal : normalizeOrg mint.body.orgName = mint.orgName :=
      if_neg mint.named
    rw [normal] at found
    have found := present.symm.trans found
    cases found
    refine ⟨organisationID, key, present, gives, ?_, owner, within⟩
    rw [inserted, lookup_insert_eq, if_pos rfl]

/--
In every chain of requests by callers who are no admins, what the middleware,
the hub and the metrics endpoint ascribe to a key is contained in what its
minter had in the organisation, and so are its applications.
-/
theorem tokenChain_contained {server : Server} {store : Store}
    {mints : List Mint} {chain : TokenChain}
    (ran : run (TokenChain.step server) ⟨store, []⟩ mints = some chain) :
    chain.Contained server :=
  run_invariant (TokenChain.Contained server)
    (fun taken contained => contained.step taken) ran nofun

theorem acme_ne_empty : "acme" ≠ "" := by
  decide

/-- A key of the organisation mints another one, with nothing going wrong. -/
def mintsAcmeKey (token : String) (permissions : Option (List String))
    (minted : MintedKey) : Mint where
  orgName := "acme"
  named := acme_ne_empty
  tokenName := minted.lookup
  authorization := "Bearer " ++ token
  tokenParameter := ""
  appNames := none
  permissions := permissions
  minted := .ok minted
  loginFates := List.replicate 4 (.answered true)
  fates := List.replicate 2 (.answered true)

theorem tokenChain_contained_mintsAcmeKey :
    ∃ chain, run (TokenChain.step keyServer)
        ⟨acmeKeyStore [permTokenWrite, permApplicationRead], []⟩
        [mintsAcmeKey "dbos_scraper1" none ⟨"dbos_derived", "dbos_derived1"⟩,
          mintsAcmeKey "dbos_derived1" (some [permApplicationRead])
            ⟨"dbos_another", "dbos_another1"⟩] = some chain ∧
      chain.mintings.length = 2 ∧ chain.Contained keyServer := by
  obtain ⟨chain, ran, two⟩ : ∃ chain, run (TokenChain.step keyServer)
        ⟨acmeKeyStore [permTokenWrite, permApplicationRead], []⟩
        [mintsAcmeKey "dbos_scraper1" none ⟨"dbos_derived", "dbos_derived1"⟩,
          mintsAcmeKey "dbos_derived1" (some [permApplicationRead])
            ⟨"dbos_another", "dbos_another1"⟩] = some chain ∧
      chain.mintings.length = 2 :=
    ⟨_, rfl, rfl⟩
  exact ⟨chain, ran, two, tokenChain_contained ran⟩

end DbosRelay.Identity
