import DbosRelay.Identity.Authorisation

/-!
# Personal organisations

First logins of several users at once: calls of `resolvePersonalOrg`, whose
statements are interleaved with one another and with the statements of everyone
else.  The call looks the name up first and upserts the organisation later, so
that the organisation it adopts may be somebody else's by then.
-/

namespace DbosRelay.Identity

open DbosRelay.Library.Programs
open DbosRelay.Library.Runs
open DbosRelay.Library.Tables

/-- A statement which was performed. -/
abbrev StoreEvent := Event Statement Statement.Answer Store

/-- The answer is one the statement can have. -/
def Genuine (event : StoreEvent) : Prop :=
  ∃ fate, event.reply = (perform fate event.request event.before).1

theorem perform_of_genuine {statement : Statement} {row : statement.Row}
    {before : Store} (genuine : Genuine ⟨statement, .ok row, before⟩) :
    ∃ fate after, perform fate statement before = (.ok row, after) := by
  obtain ⟨fate, answered⟩ := genuine
  exact ⟨fate, _, Prod.ext answered.symm rfl⟩

/-- The property of a program which begins with a statement. -/
theorem keeps_issue {Value Ghost : Type} {meets : StoreEvent → Prop}
    {observe : Ghost → StoreEvent → Ghost} {allowed : Ghost → Statement → Prop}
    {right : Ghost → Value → Prop} {ghost : Ghost} {statement : Statement}
    {next : statement.Answer → StoreProgram Value}
    (first : allowed ghost statement)
    (rest : ∀ reply before, meets ⟨statement, reply, before⟩ →
      (next reply).Keeps meets observe allowed right
        (observe ghost ⟨statement, reply, before⟩)) :
    (issue statement >>= next).Keeps meets observe allowed right ghost :=
  ⟨first, rest⟩

/-- Calls on one store. -/
abbrev PersonalPool :=
  Pool Statement Statement.Answer Store User (Except StoreError String)

/-! ## Whose organisation it is -/

/-- The call created the organisation: nobody had its identifier before. -/
def CreatedBy (trace : List StoreEvent) (org : Organisation) : Prop :=
  ∃ before, ⟨.upsertOrganisation org.name, .ok org, before⟩ ∈ trace ∧
    ∀ name, before.organisations.rows.lookup name ≠ some org.id

/-- The user was an admin of the organisation when the call upserted it. -/
def AdminOf (trace : List StoreEvent) (user : User) (org : Organisation) :
    Prop :=
  ∃ before member, ⟨.upsertOrganisation org.name, .ok org, before⟩ ∈ trace ∧
    before.members.lookup (org.id, user.id) = some member ∧
      member.roleName = roleAdmin

/-- The call found the organisation, and the user to be a member of it. -/
def MemberOf (trace : List StoreEvent) (user : User) (org : Organisation) :
    Prop :=
  (∃ before, ⟨.getOrganisationByName org.name, .ok org, before⟩ ∈ trace) ∧
    ∃ event ∈ trace, event.before.members.lookup (org.id, user.id) ≠ none

theorem CreatedBy.mono {trace more : List StoreEvent} {org : Organisation}
    (created : CreatedBy trace org) (subset : trace ⊆ more) :
    CreatedBy more org := by
  obtain ⟨before, seen, fresh⟩ := created
  exact ⟨before, subset seen, fresh⟩

theorem AdminOf.mono {trace more : List StoreEvent} {user : User}
    {org : Organisation} (admin : AdminOf trace user org)
    (subset : trace ⊆ more) : AdminOf more user org := by
  obtain ⟨before, member, seen, held⟩ := admin
  exact ⟨before, member, subset seen, held⟩

/-- What a call may write, with what it has seen so far. -/
def MayWrite (user : User) (trace : List StoreEvent) : Statement → Prop
  | .upsertMemberRole organisationID userID roleName =>
      userID = user.id ∧ roleName = roleAdmin ∧
        ∃ org, org.id = organisationID ∧
          (CreatedBy trace org ∨ AdminOf trace user org)
  | _ => True

theorem MayWrite.mono {user : User} {trace more : List StoreEvent}
    {statement : Statement} (may : MayWrite user trace statement)
    (subset : trace ⊆ more) : MayWrite user more statement := by
  cases statement with
  | upsertMemberRole organisationID userID roleName =>
      obtain ⟨own, admin, org, same, entitled⟩ := may
      exact ⟨own, admin, org, same,
        entitled.imp (·.mono subset) (·.mono subset)⟩
  | _ => trivial

/-- What a call may return, with what it has seen so far. -/
def MayReturn (user : User) (trace : List StoreEvent) :
    Except StoreError String → Prop
  | .ok name => ∃ org, org.name = name ∧
      (CreatedBy trace org ∨ AdminOf trace user org ∨ MemberOf trace user org)
  | .error _ => True

/-! ## Adopting an organisation -/

/--
When a call upserts an organisation, there is none of that name, or the user is
an admin of it already.
-/
def AdoptsOwn (user : User) (name : String) (store : Store) : Prop :=
  ∀ id, store.organisations.rows.lookup name = some id →
    ∃ member, store.members.lookup (id, user.id) = some member ∧
      member.roleName = roleAdmin

/-- The condition on an event of a call. -/
def Adopts (user : User) (event : StoreEvent) : Prop :=
  Genuine event ∧ ∀ name, event.request = .upsertOrganisation name →
    AdoptsOwn user name event.before

theorem adoptOrganisation_keeps (user : User) (name : String)
    (trace : List StoreEvent) :
    (adoptOrganisation user name).Keeps (Adopts user) Program.record
      (MayWrite user) (MayReturn user) trace := by
  refine keeps_issue trivial fun reply before met => ?_
  cases reply with
  | error error => trivial
  | ok org =>
      obtain ⟨fate, after, upserted⟩ := perform_of_genuine met.1
      obtain ⟨named, found⟩ := upsertOrganisation_ok upserted
      have seen : (⟨.upsertOrganisation org.name, .ok org, before⟩ :
          StoreEvent) ∈ Program.record trace
            ⟨.upsertOrganisation name, .ok org, before⟩ := by
        rw [named]
        exact List.mem_append_right _ (List.mem_singleton_self _)
      have entitled : CreatedBy (Program.record trace
            ⟨.upsertOrganisation name, .ok org, before⟩) org ∨
          AdminOf (Program.record trace
            ⟨.upsertOrganisation name, .ok org, before⟩) user org := by
        rcases found with present | ⟨absent, fresh⟩
        · obtain ⟨member, joined, admin⟩ := met.2 name rfl org.id present
          exact Or.inr ⟨before, member, seen, joined, admin⟩
        · refine Or.inl ⟨before, seen, fun other present => ?_⟩
          rw [fresh] at present
          exact absurd (before.organisations.below present) (Nat.lt_irrefl _)
      refine keeps_issue ⟨rfl, rfl, org, rfl, entitled⟩ fun reply after _ => ?_
      refine ⟨org, rfl, entitled.imp ?_ fun admin => Or.inl (admin.mono ?_)⟩
      · exact fun created => created.mono (List.subset_append_left _ _)
      · exact List.subset_append_left _ _

theorem resolvePersonalOrg_keeps (server : Server) (user : User) :
    (resolvePersonalOrg server user).Keeps (Adopts user) Program.record
      (MayWrite user) (MayReturn user) [] := by
  refine keeps_issue trivial fun reply before met => ?_
  cases reply with
  | error error => exact adoptOrganisation_keeps user _ _
  | ok org =>
      obtain ⟨fate, unchanged, looked⟩ := perform_of_genuine met.1
      obtain ⟨-, named, -⟩ := getOrganisationByName_ok looked
      refine keeps_issue trivial fun reply after met => ?_
      split_ifs with own
      · obtain ⟨row, isRow, ownRow⟩ := Option.map_eq_some_iff.mp own
        cases reply with
        | error error => cases isRow
        | ok found =>
            cases isRow
            obtain ⟨fate, unchanged, found⟩ := perform_of_genuine met.1
            obtain ⟨subject, holder, member, -, -, joined, same, -, -⟩ :=
              getMember_ok found
            refine ⟨org, rfl, Or.inr (Or.inr ⟨⟨before, ?_⟩, _,
              List.mem_append_right _ (List.mem_singleton_self _), ?_⟩)⟩
            · rw [named]
              exact List.mem_append_left _
                (List.mem_append_right _ (List.mem_singleton_self _))
            · rw [← ownRow, same, joined]
              exact Option.some_ne_none member
      · exact adoptOrganisation_keeps user _ _

/-! ## Between the lookup and the upsert -/

/--
The statement changes whose organisation the name would be: it creates an
organisation of that name, or ends the user's being an admin of it.
-/
def Disturbs (store : Store) (user : User) (name : String) : Statement → Prop
  | .upsertOrganisation other =>
      other = name ∧ store.organisations.rows.lookup name = none
  | .updateOrganisation _ other => other = some name
  | .removeMember organisationID userID =>
      userID = user.id ∧
        store.organisations.rows.lookup name = some organisationID
  | .upsertMemberRole organisationID userID roleName =>
      userID = user.id ∧ roleName ≠ roleAdmin ∧
        store.organisations.rows.lookup name = some organisationID
  | _ => False

theorem AdoptsOwn.of_eq {user : User} {name : String} {store after : Store}
    (adopts : AdoptsOwn user name store)
    (organisations : after.organisations.rows.lookup name =
      store.organisations.rows.lookup name)
    (members : after.members = store.members) : AdoptsOwn user name after := by
  intro id present
  rw [organisations] at present
  rw [members]
  exact adopts id present

/-- What a name means to a user is left alone by what does not disturb it. -/
theorem AdoptsOwn.perform {user : User} {name : String} {store : Store}
    {statement : Statement} (adopts : AdoptsOwn user name store)
    (undisturbed : ¬ Disturbs store user name statement) (fate : Fate) :
    AdoptsOwn user name (perform fate statement store).2 := by
  have leaves := leaves_perform fate statement store
  cases statement with
  | upsertOrganisation other =>
      refine adopts.of_eq ?_ (leaves.members nofun)
      rcases upsertOrganisation_cases fate other store with same | ⟨absent, same⟩
      · rw [same]
      · rw [same]
        show (store.organisations.rows.insert other _).lookup name = _
        rw [lookup_insert_eq, if_neg]
        rintro rfl
        exact undisturbed ⟨rfl, absent⟩
  | updateOrganisation id other =>
      rcases updateOrganisation_cases fate id other store with
        same | ⟨old, new, rfl, -, -, same⟩
      · rw [same]
        exact adopts
      · have different : name ≠ new := by
          rintro rfl
          exact undisturbed rfl
        intro found present
        rw [same, lookup_insert_eq, if_neg different, lookup_erase_eq] at present
        split_ifs at present
        rw [leaves.members nofun]
        exact adopts found present
  | upsertMemberRole organisationID userID roleName =>
      rcases upsertMemberRole_cases fate organisationID userID roleName store with
        same | ⟨createdAt, same⟩
      · rw [same]
        exact adopts
      · intro id present
        rw [same] at present ⊢
        show ∃ member, (store.members.insert _ _).lookup _ = some member ∧ _
        rw [lookup_insert_eq]
        split_ifs with written
        · cases written
          refine ⟨_, rfl, ?_⟩
          by_contra lower
          exact undisturbed ⟨rfl, lower, present⟩
        · exact adopts id present
  | removeMember organisationID userID =>
      rcases perform_store fate (.removeMember organisationID userID) store with
        same | ⟨ownFirst, same⟩
      · rw [same]
        exact adopts
      · intro id present
        rw [same] at present ⊢
        show ∃ member, (store.members.erase _).lookup _ = some member ∧ _
        rw [lookup_erase_eq]
        split_ifs with removed
        · cases removed
          exact absurd ⟨rfl, present⟩ undisturbed
        · exact adopts id present
  | _ =>
      refine adopts.of_eq ?_ (leaves.members nofun)
      rw [leaves.organisations nofun]

/-- Where a call of `resolvePersonalOrg` is. -/
inductive Resolves (server : Server) (user : User) :
    StoreProgram (Except StoreError String) → Prop where
  | looksUp : Resolves server user (resolvePersonalOrg server user)
  | asks (org : Organisation) :
      Resolves server user (.call (.getMember org.id user.username) fun member =>
        if (member.toOption.map MemberRow.userID) = some user.id then
          .done (.ok org.name)
        else adoptOrganisation user (disambiguated server user))
  | adopts (name : String) : Resolves server user (adoptOrganisation user name)
  | joins (org : Organisation) :
      Resolves server user
        (.call (.upsertMemberRole org.id user.id roleAdmin) fun _ =>
          .done (.ok org.name))
  | ends (answer : Except StoreError String) : Resolves server user (.done answer)

/-- The call found out whose organisation it is about to upsert. -/
def Ready (store : Store) (user : User)
    (rest : StoreProgram (Except StoreError String)) : Prop :=
  ∀ name next, rest = .call (.upsertOrganisation name) next →
    AdoptsOwn user name store

/-- A call which adopts an organisation upserts it first. -/
theorem ready_adoptOrganisation {store : Store} {user : User} {name : String}
    (adopts : AdoptsOwn user name store) :
    Ready store user (adoptOrganisation user name) := by
  rintro other next ⟨⟩
  exact adopts

/-- A call which ends upserts nothing. -/
theorem ready_done (store : Store) (user : User)
    (answer : Except StoreError String) : Ready store user (.done answer) := by
  rintro name next ⟨⟩

/-- The answer to a lookup of a call can be relied on. -/
def LooksUp (server : Server) (user : User) (store : Store) (fate : Fate) :
    Statement → Prop
  | .getOrganisationByName name =>
      store.organisations.rows.lookup name ≠ none →
        ∃ ownFirst, fate = .answered ownFirst
  | .getMember organisationID username =>
      (perform fate (.getMember organisationID username)
          store).1.toOption.map MemberRow.userID = some user.id ∨
        AdoptsOwn user (disambiguated server user) store
  | _ => True

/-- A call goes on, and knows whose organisation it upserts next. -/
theorem Resolves.step {server : Server} {user : User} {store : Store} {fate : Fate}
    {request : Statement}
    {next : request.Answer → StoreProgram (Except StoreError String)}
    (stage : Resolves server user (.call request next))
    (looksUp : LooksUp server user store fate request) :
    Resolves server user (next (perform fate request store).1) ∧
      Ready (perform fate request store).2 user
        (next (perform fate request store).1) := by
  cases stage with
  | looksUp =>
      rw [perform_of_reads rfl]
      cases reply : (perform fate (.getOrganisationByName
          (slugOrgName user.username)) store).1 with
      | ok org =>
          refine ⟨.asks org, ?_⟩
          rintro name next ⟨⟩
      | error error =>
          refine ⟨.adopts _, ready_adoptOrganisation fun id present => ?_⟩
          rcases looksUp (by rw [present]; exact Option.some_ne_none id) with ⟨ownFirst, rfl⟩
          simp only [perform, Store.answer, present, Option.map_some,
            Store.found] at reply
          cases reply
  | asks org =>
      rw [perform_of_reads rfl]
      beta_reduce
      split_ifs with own
      · exact ⟨.ends _, ready_done _ _ _⟩
      · rcases (show _ ∨ _ from looksUp) with isOwn | adopts
        · exact absurd isOwn own
        · exact ⟨.adopts _, ready_adoptOrganisation adopts⟩
  | adopts name =>
      generalize (perform fate (.upsertOrganisation name) store).1 = reply
      cases reply with
      | ok org =>
          refine ⟨.joins org, ?_⟩
          rintro other next ⟨⟩
      | error error => exact ⟨.ends _, ready_done _ _ _⟩
  | joins org => exact ⟨.ends _, ready_done _ _ _⟩

/-! ## Interleaved calls -/

/-- Whenever a call upserts an organisation, it adopts its own. -/
def CallsAdoptOwn (pool : PersonalPool) :
    PoolStep Statement Fate User → Prop
  | .advance thread _ =>
      ∀ user name next,
        pool.threads[thread]? =
            some (user, .call (.upsertOrganisation name) next) →
          AdoptsOwn user name pool.state
  | _ => True

/-- The statement disturbs no call but the one which issues it. -/
def Quiet (pool : PersonalPool) (issuer : Option Nat) (request : Statement) :
    Prop :=
  ∀ (thread : Nat) user name next, issuer ≠ some thread →
    pool.threads[thread]? = some (user, .call (.upsertOrganisation name) next) →
      ¬ Disturbs pool.state user name request

/--
The lookups of a call can be relied on, and from its last lookup until it has
upserted the organisation nobody else disturbs it.
-/
def Undisturbed (server : Server) (pool : PersonalPool) :
    PoolStep Statement Fate User → Prop
  | .start _ => True
  | .advance thread fate =>
      ∀ user request next,
        pool.threads[thread]? = some (user, .call request next) →
          LooksUp server user pool.state fate request ∧
            Quiet pool (some thread) request
  | .other request _ => Quiet pool none request

/-- Every call is somewhere in `resolvePersonalOrg`, and ready to go on. -/
def CallsReady (server : Server) (pool : PersonalPool) : Prop :=
  ∀ (thread : Nat) (user : User)
      (rest : StoreProgram (Except StoreError String)),
    pool.threads[thread]? = some (user, rest) →
        Resolves server user rest ∧ Ready pool.state user rest

theorem Ready.perform {user : User} {store : Store}
    {rest : StoreProgram (Except StoreError String)} {request : Statement}
    (ready : Ready store user rest)
    (quiet : ∀ name next, rest = .call (.upsertOrganisation name) next →
      ¬ Disturbs store user name request) (fate : Fate) :
    Ready (perform fate request store).2 user rest :=
  fun name next same => (ready name next same).perform (quiet name next same) fate

theorem CallsReady.step {server : Server} {before after : PersonalPool}
    {step : PoolStep Statement Fate User}
    (undisturbed : Undisturbed server before step)
    (taken : before.step perform (resolvePersonalOrg server) step = some after)
    (ready : CallsReady server before) : CallsReady server after := by
  intro thread user rest present
  cases Pool.takes_of_step taken with
  | start label =>
      rcases Pool.getElem?_start present with old | ⟨-, same⟩
      · exact ready thread user rest old
      · cases same
        exact ⟨.looksUp, nofun⟩
  | @advance mover fate label request next running =>
      rcases Pool.getElem?_resume present with ⟨rfl, same⟩ | ⟨other, old⟩
      · cases same
        exact (ready _ _ _ running).1.step (undisturbed _ _ _ running).1
      · rcases ready thread user rest old with ⟨stage, isReady⟩
        refine ⟨stage, isReady.perform ?_ fate⟩
        rintro name next rfl
        exact (undisturbed _ _ _ running).2 thread user name next
          (fun same => other (Option.some.inj same).symm) old
  | other request fate =>
      rcases ready thread user rest present with ⟨stage, isReady⟩
      refine ⟨stage, isReady.perform ?_ fate⟩
      rintro name next rfl
      exact undisturbed thread user name next nofun present

/-- In an undisturbed run calls adopt their own organisations only. -/
theorem callsAdoptOwn_of_undisturbed {server : Server} {store : Store}
    {steps : List (PoolStep Statement Fate User)} {pool : PersonalPool}
    (ran : GuardedRun (Pool.step perform (resolvePersonalOrg server))
      (Undisturbed server) (Pool.idle store) steps pool) :
    GuardedRun (Pool.step perform (resolvePersonalOrg server))
      CallsAdoptOwn (Pool.idle store) steps pool := by
  refine ran.strengthen (CallsReady server) CallsReady.step ?_ ?_
  · intro before step undisturbed ready
    cases step with
    | advance thread fate =>
        intro user name next running
        exact (ready thread user _ running).2 name next rfl
    | start label => trivial
    | other request fate => trivial
  · intro thread user rest absent
    cases absent

/--
However calls and the statements of others are interleaved, and whatever fails
besides lookups: if nobody disturbs a call between its lookups and its upsert,
each call writes an admin's membership of its user only, in an organisation which
it created or whose admin the user was, and returns only such organisations or
ones of which the user was a member already.
-/
theorem personalOrg_safe {server : Server} {store : Store}
    {steps : List (PoolStep Statement Fate User)} {pool : PersonalPool}
    {thread : Nat} {user : User}
    {rest : StoreProgram (Except StoreError String)}
    (ran : GuardedRun (Pool.step perform (resolvePersonalOrg server))
      (Undisturbed server) (Pool.idle store) steps pool)
    (called : pool.threads[thread]? = some (user, rest)) :
    (∀ event ∈ pool.trace thread,
        MayWrite user (pool.trace thread) event.request) ∧
      ∀ answer, rest = .done answer →
        MayReturn user (pool.trace thread) answer := by
  have adopts : ∀ (pool : PersonalPool) thread fate user request next,
      CallsAdoptOwn pool (.advance thread fate) →
        pool.threads[thread]? = some (user, .call request next) →
          Adopts user ⟨request, (perform fate request pool.state).1,
            pool.state⟩ := by
    intro pool thread fate user request next guard running
    refine ⟨⟨fate, rfl⟩, ?_⟩
    rintro name rfl
    exact guard user name next running
  rcases Pool.observed_of_run (callsAdoptOwn_of_undisturbed ran) adopts with
    ⟨faithful, observed⟩
  have met := observed thread user rest called
  have keeps := resolvePersonalOrg_keeps server user
  refine ⟨fun event member => ?_, ?_⟩
  · rcases List.append_of_mem member with ⟨earlier, later, split⟩
    have may := keeps.event (faithful.follows called) met split
    rw [Program.foldl_record, List.nil_append] at may
    refine may.mono ?_
    rw [split]
    exact List.subset_append_left _ _
  · rintro answer rfl
    exact faithful.keeps called met keeps

/-- Two users whose names have one slug. -/
def dottedUser : User := ⟨1, "a.b", "dotted@acme", false⟩

def dashedUser : User := ⟨2, "a-b", "dashed@acme", false⟩

/-- A migrated store with the two users and no organisation. -/
def twoUsersStore : Store :=
  let empty := { acmeStore with organisations := Organisations.empty }
  let first := (perform (.answered true)
    (.upsertUser "dotted" "a.b" "dotted@acme" false) empty).2
  (perform (.answered true)
    (.upsertUser "dashed" "a-b" "dashed@acme" false) first).2

/-- The next statement is performed, with nothing going wrong. -/
def advances {Label : Type} (thread : Nat) : PoolStep Statement Fate Label :=
  .advance thread (.answered true)

/-- A statement which only reads disturbs nobody. -/
theorem quiet_of_reads {pool : PersonalPool} {issuer : Option Nat}
    {request : Statement} (reads : request.writes = none) :
    Quiet pool issuer request := by
  intro thread user name next other running disturbs
  cases request <;> first | exact disturbs | cases reads

/-- Nor does one which makes somebody an admin. -/
theorem quiet_of_admin {pool : PersonalPool} {issuer : Option Nat}
    {organisationID userID : ID} :
    Quiet pool issuer (.upsertMemberRole organisationID userID roleAdmin) :=
  fun _ _ _ _ _ _ disturbs => disturbs.2.1 rfl

/--
The first user looks the name up and creates the organisation, while an operator
creates another one; the second user finds the name taken and gets an own one.
-/
def twoLogins : List (PoolStep Statement Fate User) :=
  [.start dottedUser, .start dashedUser, advances 0,
    .other (.upsertOrganisation "operators") (.answered true), advances 0,
    advances 1, advances 0, advances 1, advances 1, advances 1]

theorem personalOrg_safe_twoLogins :
    ∃ pool,
      GuardedRun (Pool.step perform (resolvePersonalOrg keyServer))
          (Undisturbed keyServer) (Pool.idle twoUsersStore) twoLogins pool ∧
        pool.threads[1]? = some (dashedUser, .done (.ok "a_b_00000000")) ∧
          MayReturn dashedUser (pool.trace 1) (.ok "a_b_00000000") := by
  have ran : ∃ pool, GuardedRun
      (Pool.step perform (resolvePersonalOrg keyServer)) (Undisturbed keyServer)
      (Pool.idle twoUsersStore) twoLogins pool ∧
        pool.threads[1]? = some (dashedUser, .done (.ok "a_b_00000000")) := by
    refine ⟨_, .cons trivial rfl (.cons trivial rfl (.cons ?_ rfl (.cons ?_ rfl
      (.cons ?_ rfl (.cons ?_ rfl (.cons ?_ rfl (.cons ?_ rfl (.cons ?_ rfl
        (.cons ?_ rfl (.nil _)))))))))), rfl⟩
    · rintro user request next ⟨⟩
      exact ⟨fun present => ⟨true, rfl⟩, quiet_of_reads rfl⟩
    · rintro (_ | _ | thread) user name next - ⟨⟩ ⟨other, -⟩
      exact absurd other (by decide)
    · rintro user request next ⟨⟩
      refine ⟨trivial, ?_⟩
      rintro (_ | _ | thread) user name next different ⟨⟩
      exact absurd rfl different
    · rintro user request next ⟨⟩
      exact ⟨fun present => ⟨true, rfl⟩, quiet_of_reads rfl⟩
    · rintro user request next ⟨⟩
      exact ⟨trivial, quiet_of_admin⟩
    · rintro user request next ⟨⟩
      refine ⟨Or.inr ?_, quiet_of_reads rfl⟩
      rintro id ⟨⟩
    · rintro user request next ⟨⟩
      refine ⟨trivial, ?_⟩
      rintro (_ | _ | thread) user name next different ⟨⟩
      exact absurd rfl different
    · rintro user request next ⟨⟩
      exact ⟨trivial, quiet_of_admin⟩
  rcases ran with ⟨pool, ran, ended⟩
  exact ⟨pool, ran, ended, (personalOrg_safe ran ended).2 _ rfl⟩

/--
Both calls look the name up before either creates the organisation; the second
user becomes an admin of the first user's organisation.
-/
theorem twoLogins_unsafe :
    ∃ pool,
      run (Pool.step perform (resolvePersonalOrg keyServer))
          (Pool.idle twoUsersStore)
          [.start dottedUser, .start dashedUser, advances 0, advances 1,
            advances 0, advances 0, advances 1, advances 1] = some pool ∧
        pool.threads[1]? = some (dashedUser, .done (.ok "a_b")) ∧
          pool.state.members.lookup (1, 2) = some ⟨roleAdmin, 4⟩ ∧
            ¬MayReturn dashedUser (pool.trace 1) (.ok "a_b") := by
  refine ⟨_, rfl, rfl, rfl, ?_⟩
  rintro ⟨⟨id, name⟩, -, ⟨before, created, fresh⟩ |
    ⟨before, member, created, joined, -⟩ | ⟨⟨before, found⟩, -⟩⟩
  · rcases created with _ | ⟨_, _ | ⟨_, _ | ⟨_, ⟨⟩⟩⟩⟩
    exact fresh "a_b" rfl
  · rcases created with _ | ⟨_, _ | ⟨_, _ | ⟨_, ⟨⟩⟩⟩⟩
    cases joined
  · rcases found with _ | ⟨_, _ | ⟨_, _ | ⟨_, ⟨⟩⟩⟩⟩

end DbosRelay.Identity
