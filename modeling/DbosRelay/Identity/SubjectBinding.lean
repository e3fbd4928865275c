import DbosRelay.Identity.PersonalOrg

/-!
# The membership a request is judged by

`AuthMiddleware` finds the user by the subject of the claims and the membership
by the username of that user, in separate statements.  Every login rewrites the
username of its subject, so that another subject may have the username by the
time the membership is looked up.

Requests are interleaved with one another and with the statements of everyone
else.  As long as nobody takes a username which a request is about to look up,
every request is judged by the membership of its own subject.
-/

namespace DbosRelay.Identity

open DbosRelay.Library.Programs
open DbosRelay.Library.Runs
open DbosRelay.Library.Tables

/-! ## Requests of a subject -/

/-- The claims which identify the caller of a request, if claims do. -/
def claimsOf (server : Server) (request : HTTPRequest) : Option Claims :=
  if server.authEnabled = false ∧ request.path ≠ "/v1/metrics" then none
  else if isPublic request.path then none
  else
    match bearerToken request with
    | .error _ => none
    | .ok token =>
        if keyPrefix.toList.isPrefixOf token.toList then none
        else server.validator.bind fun validate => (validate token).toOption

/-- A request on an organisation by the subject of the claims. -/
def Asks (server : Server) (request : HTTPRequest) (claims : Claims) : Prop :=
  claimsOf server request = some claims ∧ request.orgName ≠ ""

/-- How far a request has come with the name of its user. -/
inductive Stage where
  | arrived
  | unsettled
  | known (username : String)
  | judged
deriving DecidableEq, Repr

/-- What a statement of the request means for it. -/
def Stage.after (stage : Stage) : StoreEvent → Stage
  | ⟨.upsertUser _ _ _ _, .ok user, _⟩ => .known user.username
  | ⟨.upsertUser _ _ _ _, .error _, _⟩ => .unsettled
  | ⟨.getUserBySubject _, answer, _⟩ =>
      if stage = .unsettled then
        .known (answer.toOption.getD zeroUser).username
      else stage
  | ⟨.getRole _ _, _, _⟩ => .judged
  | _ => stage

/-- The stage after the events of a request. -/
def stageOf (trace : List StoreEvent) : Stage :=
  trace.foldl Stage.after .arrived

@[simp]
theorem stageOf_append (trace : List StoreEvent) (event : StoreEvent) :
    stageOf (trace ++ [event]) = (stageOf trace).after event := by
  unfold stageOf
  rw [List.foldl_append]
  rfl

/-! ## The subject's own membership -/

/-- Nobody but the subject has the username. -/
def Store.Reserves (store : Store) (subject username : String) : Prop :=
  ∀ other user, store.users.rows.lookup other = some user →
    user.username = username → other = subject

theorem reserves_of_lookup {store : Store} {subject : String} {user : User}
    (present : store.users.rows.lookup subject = some user) :
    store.Reserves subject user.username :=
  fun _ _ found same => store.users.unique found present same

theorem reserves_empty (store : Store) (subject : String) :
    store.Reserves subject "" :=
  fun _ _ found unnamed => absurd unnamed (store.users.named found)

/--
The role and the permissions of the identity are those of the membership which
the subject's own record had when the request looked it up.
-/
def OwnMembership (subject orgName : String) (trace : List StoreEvent)
    (identity : UserIdentity) : Prop :=
  ∃ org user member,
    (∃ before, ⟨.getOrganisationByName orgName, .ok org, before⟩ ∈ trace) ∧
      (∃ row before, ⟨.getMember org.id user.username, .ok row, before⟩ ∈ trace ∧
        before.users.rows.lookup subject = some user ∧
          before.members.lookup (org.id, user.id) = some member) ∧
        identity.role = member.roleName ∧
          ∃ answer before,
            ⟨.getRole org.id member.roleName, answer, before⟩ ∈ trace ∧
              (∀ role, answer = .ok role →
                role ∈ before.matchingRoles org.id member.roleName) ∧
                identity.permissions =
                  (answer.toOption.map Role.permissions).getD []

/-- What a request may be answered; joining uses neither role nor permissions. -/
def MayAnswer (subject : String) (request : HTTPRequest)
    (trace : List StoreEvent) : Except Problem UserIdentity → Prop
  | .ok identity =>
      isJoin request = true ∧ identity.permissions = [] ∨
        OwnMembership subject request.orgName trace identity
  | .error _ => True

/-- What a request may ask, with what it has seen so far. -/
def MayAsk (subject : String) (trace : List StoreEvent) : Statement → Prop
  | .getMember _ username => stageOf trace = .known username
  | .upsertUser other _ _ _ | .getUserBySubject other => other = subject
  | _ => True

/-- The condition on an event of a request of the subject. -/
def LooksUpOwn (subject : String) (event : StoreEvent) : Prop :=
  Genuine event ∧ ∀ organisationID username,
    event.request = .getMember organisationID username →
      event.before.Reserves subject username

/-! ## Finding the user -/

theorem resolveUser_keeps (claims : Claims) :
    (resolveUser claims).Keeps (LooksUpOwn claims.subject) Program.record
      (MayAsk claims.subject)
      (fun trace found => stageOf trace = .known found.2.username) [] := by
  refine keeps_issue rfl fun existing before _ => ?_
  refine keeps_issue rfl fun answer before _ => ?_
  cases answer with
  | ok user => rfl
  | error error =>
      refine keeps_issue rfl fun stored before _ => ?_
      rfl

/-- The statements which leave a request with the username it has found. -/
def Stays (username : String) : Statement → Prop
  | .getMember _ other => other = username
  | .upsertUser _ _ _ _ | .getUserBySubject _ | .getRole _ _ => False
  | _ => True

theorem keeps_of_stays {Value : Type} {subject username : String}
    {program : StoreProgram Value} {trace : List StoreEvent}
    (only : program.Only (Stays username))
    (known : stageOf trace = .known username) :
    program.Keeps (LooksUpOwn subject) Program.record (MayAsk subject)
      (fun trace _ => stageOf trace = .known username) trace := by
  refine only.keeps (fun trace statement known stays => ?_)
    (fun trace event known stays => ?_) known
  · cases statement with
    | getMember organisationID other =>
        cases stays
        exact known
    | upsertUser | getUserBySubject => cases stays
    | _ => trivial
  · obtain ⟨statement, reply, before⟩ := event
    rw [Program.record, stageOf_append]
    cases statement with
    | upsertUser | getUserBySubject | getRole => cases stays
    | _ => exact known

theorem joinClaimedDomain_stays (username : String) (claims : Claims)
    (isNewUser : Bool) (user : User) :
    (joinClaimedDomain claims isNewUser user).Only (Stays username) := by
  unfold joinClaimedDomain
  split
  · trivial
  · split_ifs
    · refine only_issue trivial fun answer => ?_
      cases answer with
      | error error => trivial
      | ok organisationID => exact only_issue trivial fun _ => trivial
    · trivial

theorem adoptOrganisation_stays (username : String) (user : User)
    (name : String) :
    (adoptOrganisation user name).Only (Stays username) := by
  refine only_issue trivial fun answer => ?_
  cases answer with
  | error error => trivial
  | ok org => exact only_issue trivial fun _ => trivial

theorem resolvePersonalOrg_stays (server : Server) (user : User) :
    (resolvePersonalOrg server user).Only (Stays user.username) := by
  refine only_issue trivial fun answer => ?_
  cases answer with
  | error error => exact adoptOrganisation_stays _ user _
  | ok org =>
      refine only_issue rfl fun member => ?_
      split_ifs
      · trivial
      · exact adoptOrganisation_stays _ user _

theorem homeOrganisation_stays (server : Server) (user : User) :
    (homeOrganisation server user).Only (Stays user.username) := by
  refine only_issue trivial fun primary => ?_
  split
  · trivial
  · refine (resolvePersonalOrg_stays server user).bind fun answer => ?_
    cases answer with
    | ok name => trivial
    | error error => trivial

theorem authenticateClaims_keeps (server : Server) (claims : Claims) :
    (authenticateClaims server claims).Keeps (LooksUpOwn claims.subject)
      Program.record (MayAsk claims.subject)
      (fun trace identity => stageOf trace = .known identity.username ∧
        identity.isAPIKey = false ∧ identity.permissions = []) [] := by
  refine Program.keeps_bind ((resolveUser_keeps claims).mono ?_)
  rintro trace ⟨isNewUser, user⟩ known
  have joins := joinClaimedDomain_stays user.username claims isNewUser user
  refine Program.keeps_bind ((keeps_of_stays joins known).mono ?_)
  intro trace _ known
  have resolves := homeOrganisation_stays server user
  refine Program.keeps_bind ((keeps_of_stays resolves known).mono ?_)
  exact fun trace home known => ⟨known, rfl, rfl⟩

/-! ## Looking the membership up -/

theorem finishAuthorisation_keeps {subject : String} {request : HTTPRequest}
    {identity : UserIdentity} {trace : List StoreEvent}
    (own : OwnMembership subject request.orgName trace identity) :
    (finishAuthorisation request identity).Keeps (LooksUpOwn subject)
      Program.record (MayAsk subject) (MayAnswer subject request) trace := by
  unfold finishAuthorisation
  split
  · trivial
  · exact Or.inr own

theorem authoriseMember_keeps {subject : String} {request : HTTPRequest}
    {identity : UserIdentity} {org : Organisation} {trace : List StoreEvent}
    (found : ∃ before,
      ⟨.getOrganisationByName request.orgName, .ok org, before⟩ ∈ trace)
    (known : stageOf trace = .known identity.username) :
    (authoriseMember request identity org).Keeps (LooksUpOwn subject)
      Program.record (MayAsk subject) (MayAnswer subject request) trace := by
  refine keeps_issue known fun answer before met => ?_
  cases answer with
  | error error => trivial
  | ok row =>
      obtain ⟨fate, unchanged, looked⟩ := perform_of_genuine met.1
      obtain ⟨holder, user, member, present, named, joined, -, same, -⟩ :=
        getMember_ok looked
      have own := met.2 org.id identity.username rfl holder user present named
      refine keeps_issue trivial fun answer later met => ?_
      refine finishAuthorisation_keeps ⟨org, user, member, ?_,
        ⟨row, before, ?_, own ▸ present, joined⟩, same, answer, later, ?_, ?_,
        rfl⟩
      · obtain ⟨earlier, seen⟩ := found
        exact ⟨earlier, List.mem_append_left _ (List.mem_append_left _ seen)⟩
      · rw [named]
        exact List.mem_append_left _
          (List.mem_append_right _ (List.mem_singleton_self _))
      · rw [← same]
        exact List.mem_append_right _ (List.mem_singleton_self _)
      · rintro role rfl
        obtain ⟨fate, unchanged, looked⟩ := perform_of_genuine met.1
        rw [← same]
        exact mem_matchingRoles.mpr (getRole_ok looked).1

theorem authoriseOrganisation_keeps {subject : String} {request : HTTPRequest}
    {identity : UserIdentity} {trace : List StoreEvent}
    (known : stageOf trace = .known identity.username)
    (isUser : identity.isAPIKey = false) (none : identity.permissions = []) :
    (authoriseOrganisation request identity).Keeps (LooksUpOwn subject)
      Program.record (MayAsk subject) (MayAnswer subject request) trace := by
  refine keeps_issue trivial fun answer before _ => ?_
  cases answer with
  | error error => trivial
  | ok org =>
      simp only [isUser, Bool.false_eq_true, if_false]
      split_ifs with joins
      · exact Or.inl ⟨joins, none⟩
      · refine authoriseMember_keeps ⟨before, ?_⟩ ?_
        · exact List.mem_append_right _ (List.mem_singleton_self _)
        · rw [Program.record, stageOf_append]
          exact known

theorem claimsOf_eq_some {server : Server} {request : HTTPRequest}
    {claims : Claims} (claimed : claimsOf server request = some claims) :
    ¬(server.authEnabled = false ∧ request.path ≠ "/v1/metrics") ∧
      isPublic request.path = false ∧
        ∃ token validate, bearerToken request = .ok token ∧
          keyPrefix.toList.isPrefixOf token.toList = false ∧
            server.validator = some validate ∧
              validate token = .ok claims := by
  unfold claimsOf at claimed
  split_ifs at claimed with disabled isOpen
  refine ⟨disabled, Bool.eq_false_of_not_eq_true isOpen, ?_⟩
  cases bearer : bearerToken request with
  | error problem =>
      rw [bearer] at claimed
      cases claimed
  | ok token =>
      rw [bearer] at claimed
      simp only at claimed
      split_ifs at claimed with isKey
      obtain ⟨validate, configured, valid⟩ := Option.bind_eq_some_iff.mp claimed
      refine ⟨token, validate, rfl, Bool.eq_false_of_not_eq_true isKey,
        configured, ?_⟩
      cases answer : validate token with
      | error message =>
          rw [answer] at valid
          cases valid
      | ok other =>
          rw [answer] at valid
          cases valid
          rfl

/-- A request of the subject, whatever happens between its statements. -/
theorem authMiddleware_keeps {server : Server} {request : HTTPRequest}
    {claims : Claims} (asks : Asks server request claims) :
    (authMiddleware server request).Keeps (LooksUpOwn claims.subject)
      Program.record (MayAsk claims.subject)
      (fun trace answer => ∀ identity, answer = .ok (some identity) →
        MayAnswer claims.subject request trace (.ok identity)) [] := by
  obtain ⟨claimed, named⟩ := asks
  obtain ⟨enabled, notPublic, token, validate, bearer, notKey, configured,
    valid⟩ := claimsOf_eq_some claimed
  unfold authMiddleware authenticate authorise
  rw [if_neg enabled, notPublic, if_neg Bool.false_ne_true, bearer]
  simp only [notKey, Bool.false_eq_true, if_false, configured, valid]
  refine Program.keeps_bind (Program.keeps_bind
    ((authenticateClaims_keeps server claims).mono ?_))
  rintro trace identity ⟨known, isUser, none⟩
  simp only [if_neg named]
  refine Program.keeps_bind
    ((authoriseOrganisation_keeps known isUser none).mono ?_)
  rintro trace answer may
  cases answer with
  | error problem => exact nofun
  | ok identity =>
      rintro other ⟨⟩
      exact may

/-! ## Interleaved requests -/

/-- Requests on one store. -/
abbrev RequestPool :=
  Pool Statement Statement.Answer Store HTTPRequest
    (Except Problem (Option UserIdentity))

/--
A request of the subject has found its username and is being served, without
having asked for a role yet.
-/
def Awaits (server : Server) (pool : RequestPool) (subject username : String) :
    Prop :=
  ∃ thread request claims statement next,
    pool.threads[thread]? = some (request, .call statement next) ∧
      Asks server request claims ∧ claims.subject = subject ∧
        stageOf (pool.trace thread) = .known username

/-- Nobody takes a username with which a request of another subject waits. -/
def NamesKept (server : Server) (pool : RequestPool)
    (step : PoolStep Statement Fate HTTPRequest) : Prop :=
  ∀ subject username email isAdmin,
    pool.Issues step (.upsertUser subject username email isAdmin) →
      pool.state.users.free subject username = true →
        ∀ other, Awaits server pool other username → other = subject

theorem namesKept_start (server : Server) (pool : RequestPool)
    (request : HTTPRequest) : NamesKept server pool (.start request) :=
  fun _ _ _ _ issues => issues.elim

/-- A statement which leaves the users alone takes no username. -/
theorem namesKept_advance {server : Server} {pool : RequestPool}
    {thread : Nat} {request : HTTPRequest} {statement : Statement}
    {next : statement.Answer →
      StoreProgram (Except Problem (Option UserIdentity))}
    (running : pool.threads[thread]? = some (request, .call statement next))
    (other : statement.writes ≠ some .users) (fate : Fate) :
    NamesKept server pool (.advance thread fate) := by
  rintro subject username email isAdmin ⟨label, rest, issued⟩
  cases running.symm.trans issued
  exact absurd rfl other

/-- A username stays reserved unless another subject takes it. -/
theorem Store.Reserves.perform {store : Store} {subject username : String}
    (reserves : store.Reserves subject username) (fate : Fate)
    (statement : Statement)
    (kept : ∀ other email isAdmin,
      statement = .upsertUser other username email isAdmin →
        store.users.free other username = true → subject = other) :
    (Identity.perform fate statement store).2.Reserves subject username := by
  by_cases writes : statement.writes = some .users
  · cases statement with
    | upsertUser other name email isAdmin =>
        rcases upsertUser_cases fate other name email isAdmin store with
          same | ⟨isFree, user, named, rows⟩
        · rw [same]
          exact reserves
        · intro holder found present same
          rw [rows] at present
          rcases lookup_insert_cases rfl present with ⟨rfl, rfl⟩ | ⟨-, old⟩
          · have name_eq : name = username := named.symm.trans same
            subst name_eq
            exact (kept _ email isAdmin rfl isFree).symm
          · exact reserves holder found old same
    | _ => cases writes
  · have frame := (leaves_perform fate statement store).users writes
    unfold Store.Reserves
    rw [frame]
    exact reserves

/-- A username a request has just found is the subject's, or it knew it before. -/
theorem reserves_of_after {subject username : String} {stage : Stage}
    {trace : List StoreEvent} {fate : Fate} {statement : Statement}
    {store : Store} (may : MayAsk subject trace statement)
    (known : stage.after ⟨statement, (perform fate statement store).1, store⟩ =
      .known username) :
    (perform fate statement store).2.Reserves subject username ∨
      stage = .known username := by
  cases statement with
  | upsertUser other name email isAdmin =>
      cases may
      rcases done : perform fate (.upsertUser subject name email isAdmin) store
        with ⟨answer, after⟩
      rw [done] at known
      cases answer with
      | error error => cases known
      | ok user =>
          cases known
          refine Or.inl (reserves_of_lookup ?_)
          rw [(upsertUser_ok done).2, lookup_insert_eq, if_pos rfl]
  | getUserBySubject other =>
      cases may
      rcases done : perform fate (.getUserBySubject subject) store
        with ⟨answer, after⟩
      rw [done] at known
      simp only [Stage.after] at known
      split_ifs at known with unsettled
      · cases known
        cases answer with
        | error error => exact Or.inl (reserves_empty after subject)
        | ok user =>
            obtain ⟨present, rfl⟩ := getUserBySubject_ok done
            exact Or.inl (reserves_of_lookup present)
      · exact Or.inr known
  | getRole organisationID name => cases known
  | _ => exact Or.inr known

/-- What holds of requests at any moment. -/
structure Bound (server : Server) (pool : RequestPool) : Prop where
  faithful : pool.Faithful (authMiddleware server)
  observed : pool.Observed fun request event =>
    ∀ claims, Asks server request claims → LooksUpOwn claims.subject event
  reserved : ∀ subject username, Awaits server pool subject username →
    pool.state.Reserves subject username

namespace Bound

variable {server : Server} {pool after : RequestPool}

/-- What is left of a request of the subject, with what it has seen so far. -/
theorem keeps (bound : Bound server pool) {thread : Nat}
    {request : HTTPRequest} {claims : Claims}
    {rest : StoreProgram (Except Problem (Option UserIdentity))}
    (present : pool.threads[thread]? = some (request, rest))
    (asks : Asks server request claims) :
    rest.Keeps (LooksUpOwn claims.subject) Program.record
      (MayAsk claims.subject)
      (fun trace answer => ∀ identity, answer = .ok (some identity) →
        MayAnswer claims.subject request trace (.ok identity))
      (pool.trace thread) := by
  refine bound.faithful.keeps present (fun event seen => ?_)
    (authMiddleware_keeps asks)
  exact bound.observed thread request rest present event seen claims asks

theorem mayAsk (bound : Bound server pool) {thread : Nat}
    {request : HTTPRequest} {claims : Claims} {statement : Statement}
    {next : statement.Answer →
      StoreProgram (Except Problem (Option UserIdentity))}
    (running : pool.threads[thread]? = some (request, .call statement next))
    (asks : Asks server request claims) :
    MayAsk claims.subject (pool.trace thread) statement :=
  (bound.keeps running asks).1

theorem idle (server : Server) (store : Store) :
    Bound server (Pool.idle store) where
  faithful := Pool.faithful_idle store
  observed := by
    intro thread request rest present
    cases present
  reserved := by
    rintro subject username ⟨thread, request, claims, statement, next, present,
      -⟩
    cases present

/-- A username with which a request waits stays reserved. -/
theorem reserved_perform (bound : Bound server pool)
    {step : PoolStep Statement Fate HTTPRequest} {statement : Statement}
    {subject username : String} (kept : NamesKept server pool step)
    (issues : pool.Issues step statement) (fate : Fate)
    (awaits : Awaits server pool subject username) :
    (perform fate statement pool.state).2.Reserves subject username := by
  refine (bound.reserved subject username awaits).perform fate statement ?_
  rintro other email isAdmin rfl isFree
  exact kept other username email isAdmin issues isFree subject awaits

theorem reserved_step (bound : Bound server pool)
    {step : PoolStep Statement Fate HTTPRequest}
    (kept : NamesKept server pool step)
    (taken : pool.step perform (authMiddleware server) step = some after)
    {subject username : String} (awaits : Awaits server after subject username) :
    after.state.Reserves subject username := by
  obtain ⟨thread, request, claims, statement, next, present, asks, same,
    known⟩ := awaits
  cases Pool.takes_of_step taken with
  | start label =>
      rcases Pool.getElem?_start present with old | ⟨rfl, -⟩
      · exact bound.reserved subject username
          ⟨thread, request, claims, statement, next, old, asks, same, known⟩
      · have unused :=
          bound.faithful.unused (Nat.le_refl pool.threads.length)
        have known : stageOf (pool.trace pool.threads.length) =
            .known username := known
        rw [unused] at known
        cases known
  | @advance mover fate label moved resume running =>
      have issues : pool.Issues (.advance mover fate) moved :=
        ⟨label, resume, running⟩
      rw [Pool.trace_resume, Pool.trace_performed] at known
      rcases Pool.getElem?_resume present with ⟨rfl, own⟩ | ⟨different, old⟩
      · obtain ⟨rfl, -⟩ := Prod.mk.inj own
        rw [if_pos rfl, stageOf_append] at known
        have may := bound.mayAsk running asks
        rw [same] at may
        rcases reserves_of_after may known with found | earlier
        · exact found
        · exact bound.reserved_perform kept issues fate
            ⟨thread, request, claims, moved, resume, running, asks, same,
              earlier⟩
      · rw [if_neg fun equal => different (Option.some.inj equal).symm] at known
        exact bound.reserved_perform kept issues fate
          ⟨thread, request, claims, statement, next, old, asks, same, known⟩
  | other moved fate =>
      rw [Pool.trace_performed, if_neg nofun] at known
      exact bound.reserved_perform kept rfl fate
        ⟨thread, request, claims, statement, next, present, asks, same, known⟩

theorem step (bound : Bound server pool)
    {step : PoolStep Statement Fate HTTPRequest}
    (kept : NamesKept server pool step)
    (taken : pool.step perform (authMiddleware server) step = some after) :
    Bound server after where
  faithful := bound.faithful.step taken
  observed := by
    refine bound.observed.step bound.faithful taken ?_
    rintro thread fate request statement next rfl running claims asks
    refine ⟨⟨fate, rfl⟩, ?_⟩
    rintro organisationID username rfl
    refine bound.reserved claims.subject username ?_
    exact ⟨thread, request, claims, _, next, running, asks, rfl,
      bound.mayAsk running asks⟩
  reserved := fun _ _ => bound.reserved_step kept taken

end Bound

/--
However requests, logins and the statements of others are interleaved: if nobody
takes a username with which a request of another subject waits, the identity
with which a request on an organisation goes on has the role and the permissions
of its subject's own membership.
-/
theorem subjectBinding_safe {server : Server} {store : Store}
    {steps : List (PoolStep Statement Fate HTTPRequest)} {pool : RequestPool}
    {thread : Nat} {request : HTTPRequest} {claims : Claims}
    {identity : UserIdentity}
    (ran : GuardedRun (Pool.step perform (authMiddleware server))
      (NamesKept server) (Pool.idle store) steps pool)
    (asks : Asks server request claims)
    (ended : pool.threads[thread]? =
      some (request, .done (.ok (some identity)))) :
    isJoin request = true ∧ identity.permissions = [] ∨
      OwnMembership claims.subject request.orgName (pool.trace thread)
        identity := by
  have bound : Bound server pool := by
    refine ran.invariant (Bound server) (fun {before after label} => ?_)
      (Bound.idle server store)
    exact fun kept taken bound => bound.step kept taken
  exact bound.keeps ended asks identity rfl

/-- A server whose provider calls each of two subjects by two names over time. -/
def samServer : Server :=
  { keyServer with
    validator := some fun token =>
      if token = "sam" then .ok ⟨"sam", "sam", "sam@acme"⟩
      else if token = "samuel" then .ok ⟨"sam", "samuel", "sam@acme"⟩
      else if token = "tom" then .ok ⟨"tom", "sam", "tom@acme"⟩
      else if token = "thomas" then .ok ⟨"tom", "thomas", "tom@acme"⟩
      else .error "unknown" }

/-- The first subject is a viewer of the organisation, the second an admin. -/
def samStore : Store :=
  let sam := (perform (.answered true)
    (.upsertUser "sam" "sam" "sam@acme" false) acmeStore).2
  let tom := (perform (.answered true)
    (.upsertUser "tom" "tom" "tom@acme" false) sam).2
  let viewer := (perform (.answered true)
    (.upsertMemberRole 1 1 roleViewer) tom).2
  (perform (.answered true) (.upsertMemberRole 1 2 roleAdmin) viewer).2

/-- The metrics of an application are asked for with a token. -/
def asksWith (authorization : String) : HTTPRequest :=
  { asksForMetrics methodGet with authorization := authorization }

/--
The first subject's request has found the username; the second subject logs in
under a new username before the membership is looked up.
-/
def loginBetween : List (PoolStep Statement Fate HTTPRequest) :=
  [.start (asksWith "Bearer sam"), advances 0, advances 0, advances 0,
    advances 0, .start (asksWith "Bearer thomas"), advances 1, advances 1,
    advances 0, advances 0]

theorem guardedRun_loginBetween :
    ∃ pool identity,
      GuardedRun (Pool.step perform (authMiddleware samServer))
          (NamesKept samServer) (Pool.idle samStore) loginBetween pool ∧
        pool.state.users.rows.lookup "tom" =
            some ⟨2, "thomas", "tom@acme", false⟩ ∧
          pool.threads[0]? =
            some (asksWith "Bearer sam", .done (.ok (some identity))) := by
  refine ⟨_, _, .cons ?_ rfl (.cons ?_ rfl (.cons ?_ rfl (.cons ?_ rfl
    (.cons ?_ rfl (.cons ?_ rfl (.cons ?_ rfl (.cons ?_ rfl (.cons ?_ rfl
    (.cons ?_ rfl (.nil _)))))))))), rfl, rfl⟩
  · exact namesKept_start _ _ _
  · exact namesKept_advance rfl (by decide) _
  · rintro subject username email isAdmin ⟨label, next, running⟩ isFree other
      ⟨thread, request, claims, statement, rest, present, asks, same, known⟩
    cases thread with
    | zero => cases known
    | succ thread => cases present
  · exact namesKept_advance rfl (by decide) _
  · exact namesKept_advance rfl (by decide) _
  · exact namesKept_start _ _ _
  · exact namesKept_advance rfl (by decide) _
  · rintro subject username email isAdmin ⟨label, next, running⟩ isFree other
      ⟨thread, request, claims, statement, rest, present, asks, same, known⟩
    cases running
    -- the first request waits with a different username
    match thread with
    | 0 =>
        have known : Stage.known "sam" = .known "thomas" := known
        exact absurd (Stage.known.inj known) (by decide)
    | 1 => cases known
    | thread + 2 => cases present
  · exact namesKept_advance rfl (by decide) _
  · exact namesKept_advance rfl (by decide) _

theorem subjectBinding_safe_viewer :
    ∃ pool identity,
      GuardedRun (Pool.step perform (authMiddleware samServer))
          (NamesKept samServer) (Pool.idle samStore) loginBetween pool ∧
        pool.threads[0]? =
            some (asksWith "Bearer sam", .done (.ok (some identity))) ∧
          OwnMembership "sam" "acme" (pool.trace 0) identity := by
  have asks :
      Asks samServer (asksWith "Bearer sam") ⟨"sam", "sam", "sam@acme"⟩ :=
    ⟨rfl, by decide⟩
  obtain ⟨pool, identity, ran, -, ended⟩ := guardedRun_loginBetween
  refine ⟨pool, identity, ran, ended, ?_⟩
  rcases subjectBinding_safe ran asks ended with ⟨joins, -⟩ | own
  · exact absurd joins (by decide)
  · exact own

/--
The first subject's request has found the username; the subject is called
otherwise and the second subject takes the username; the request is judged by
the second subject's membership.
-/
theorem samRenamed_unbound :
    ∃ pool identity,
      run (Pool.step perform (authMiddleware samServer)) (Pool.idle samStore)
          [.start (asksWith "Bearer sam"), advances 0, advances 0, advances 0,
            advances 0, .start (asksWith "Bearer samuel"), advances 1,
            advances 1, .start (asksWith "Bearer tom"), advances 2, advances 2,
            advances 0, advances 0] = some pool ∧
        Asks samServer (asksWith "Bearer sam") ⟨"sam", "sam", "sam@acme"⟩ ∧
          pool.threads[0]? =
              some (asksWith "Bearer sam", .done (.ok (some identity))) ∧
            isJoin (asksWith "Bearer sam") = false ∧
              ¬OwnMembership "sam" "acme" (pool.trace 0) identity := by
  refine ⟨_, _, rfl, ⟨rfl, by decide⟩, rfl, by decide, ?_⟩
  rintro ⟨⟨id, name⟩, ⟨userID, username, email, isAdmin⟩, member, -,
    ⟨row, before, looked, present, -⟩, -⟩
  rcases looked with _ | ⟨_, _ | ⟨_, _ | ⟨_, _ | ⟨_, _ | ⟨_, _ | ⟨_, ⟨⟩⟩⟩⟩⟩⟩⟩
  have named : some "samuel" = some "sam" :=
    congrArg (Option.map User.username) present
  exact absurd named (by decide)

end DbosRelay.Identity
