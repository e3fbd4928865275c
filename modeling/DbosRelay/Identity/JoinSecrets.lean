import DbosRelay.Identity.Roles

/-!
# Join secrets

The server keeps the join secrets in memory under the names of the
organisations, while organisations are renamed and names are used again.
`latest` records for each organisation the secret that was generated last; the
code does not have it.
-/

namespace DbosRelay.Identity

open DbosRelay.Basic
open DbosRelay.Library.Programs
open DbosRelay.Library.Runs
open DbosRelay.Library.Tables

/-! ## Requests -/

/-- The store, the secrets in memory, the time and the latest secrets. -/
structure JoinSystem where
  store : Store
  secrets : OrgSecrets
  now : Time
  latest : Table ID OrgSecretEntry

/-- A server which has just started. -/
def JoinSystem.start (store : Store) (now : Time) : JoinSystem :=
  ⟨store, ∅, now, ∅⟩

/-- The requests, each with how its statements come out, and time. -/
inductive JoinStep where
  | generateSecret (identity : Option UserIdentity) (orgName : String)
      (random : Option String) (fates : List Fate)
  | updateOrg (identity : Option UserIdentity) (request : UpdateOrgRequest)
      (fates : List Fate)
  | createOrganisation (name : String) (fate : Fate)
  | joinOrg (identity : Option UserIdentity) (request : JoinOrgRequest)
      (fates : List Fate)
  | wait (duration : Nat)

/-- The latest secrets after a request to generate one. -/
def JoinSystem.generated (system : JoinSystem) (orgName : String)
    (answer : Except Problem String) : Table ID OrgSecretEntry :=
  match answer, system.store.organisations.rows.lookup orgName with
  | .ok secret, some id =>
      system.latest.insert id ⟨secret, system.now + joinSecretTTL⟩
  | _, _ => system.latest

/-- The requests are handled one after the other. -/
def JoinSystem.step (system : JoinSystem) : JoinStep → Option JoinSystem
  | .generateSecret identity orgName random fates =>
      ((handleGenerateSecret identity orgName system.now random
        system.secrets).run perform fates system.store).map fun result =>
          { system with
            store := result.2
            secrets := result.1.2
            latest := system.generated orgName result.1.1 }
  | .updateOrg identity request fates =>
      ((handleUpdateOrg identity request).run perform fates
        system.store).map fun result => { system with store := result.2 }
  | .createOrganisation name fate =>
      some { system with
        store := (perform fate (.upsertOrganisation name) system.store).2 }
  | .joinOrg identity request fates =>
      ((handleJoinOrg identity request system.now system.secrets).run perform
        fates system.store).map fun result => { system with store := result.2 }
  | .wait duration => some { system with now := system.now + duration }

/-- The secret is the latest of the organisation and has not expired. -/
def JoinSystem.Bound (system : JoinSystem) (request : JoinOrgRequest) : Prop :=
  ∃ id entry,
    system.store.organisations.rows.lookup request.orgName = some id ∧
      system.latest.lookup id = some entry ∧ entry.secret = request.secret ∧
        system.now ≤ entry.expiresAt

/-- An organisation has a name after a request which it did not have before. -/
def JoinSystem.TakesName (system after : JoinSystem) (name : String) (id : ID) :
    Prop :=
  after.store.organisations.rows.lookup name = some id ∧
    system.store.organisations.rows.lookup name ≠ some id

/--
Whenever an organisation takes a name, a secret stored under that name has
expired or is the latest of that very organisation.
-/
def NamesReusedSafely (system : JoinSystem) (label : JoinStep) : Prop :=
  ∀ after name id, system.step label = some after →
    system.TakesName after name id →
      ∀ entry, system.secrets.lookup name = some entry →
        entry.expiresAt < system.now ∨ system.latest.lookup id = some entry

/-! ## What the requests do -/

theorem handleGenerateSecret_cases {identity : Option UserIdentity}
    {orgName : String} {now : Time} {random : Option String}
    {secrets afterwards : OrgSecrets} {store after : Store}
    {answer : Except Problem String}
    (ends : (handleGenerateSecret identity orgName now random secrets).Ends
      perform store (answer, afterwards) after) :
    after = store ∧
      ((∃ problem, answer = .error problem ∧ afterwards = secrets) ∨
        ∃ id secret,
          store.organisations.rows.lookup orgName = some id ∧
            answer = .ok secret ∧
              afterwards = secrets.insert orgName
                ⟨secret, now + joinSecretTTL⟩) := by
  unfold handleGenerateSecret at ends
  by_cases forbidden : requireOrgWrite identity = false
  · rw [if_pos forbidden] at ends
    obtain ⟨ended, same⟩ := Program.ends_done.mp ends
    cases ended
    exact ⟨same, Or.inl ⟨_, rfl, rfl⟩⟩
  · rw [if_neg forbidden] at ends
    obtain ⟨fate, reply, looked, ends⟩ := ends_read rfl ends
    cases reply with
    | error error =>
        obtain ⟨ended, same⟩ := Program.ends_done.mp ends
        cases ended
        exact ⟨same, Or.inl ⟨_, rfl, rfl⟩⟩
    | ok organisation =>
        obtain ⟨present, named, -⟩ := getOrganisationByName_ok looked
        cases random with
        | none =>
            obtain ⟨ended, same⟩ := Program.ends_done.mp ends
            cases ended
            exact ⟨same, Or.inl ⟨_, rfl, rfl⟩⟩
        | some secret =>
            obtain ⟨ended, same⟩ := Program.ends_done.mp ends
            cases ended
            rw [named]
            exact ⟨same, Or.inr ⟨organisation.id, secret, present, rfl, rfl⟩⟩

theorem finishUpdateOrg_cases {request : UpdateOrgRequest} {id : ID}
    {newName : Option String} {store after : Store}
    {answer : Except Problem Unit}
    (ends : (finishUpdateOrg request id newName).Ends perform store answer
      after) :
    after = store ∨
      ∃ fate, after = (perform fate (.updateOrganisation id newName)
        store).2 := by
  unfold finishUpdateOrg at ends
  split at ends
  · exact Or.inl (Program.ends_done.mp ends).2
  · split at ends
    · exact Or.inl (Program.ends_done.mp ends).2
    · obtain ⟨fate, reply, middle, updated, ends⟩ := ends_issue.mp ends
      have reached : middle = (perform fate (.updateOrganisation id newName)
          store).2 := by
        rw [updated]
      cases reply with
      | error error =>
          exact Or.inr ⟨fate, (Program.ends_done.mp ends).2.trans reached⟩
      | ok organisation =>
          exact Or.inr ⟨fate, (Program.ends_done.mp ends).2.trans reached⟩

/-- A request to update an organisation renames it, or no organisation. -/
theorem handleUpdateOrg_cases {identity : Option UserIdentity}
    {request : UpdateOrgRequest} {store after : Store}
    {answer : Except Problem Unit}
    (ends : (handleUpdateOrg identity request).Ends perform store answer
      after) :
    after = store ∨
      ∃ id old new, requireOrgWrite identity = true ∧
        store.organisations.rows.lookup request.orgName = some id ∧
          request.newName = some new ∧
            store.organisations.rows.lookup new = none ∧
              after.organisations.rows =
                (store.organisations.rows.erase old).insert new id := by
  unfold handleUpdateOrg at ends
  rcases unchanged_or_found rfl ends fun _ => ⟨_, rfl⟩ with
    same | ⟨fate, organisation, looked, ends⟩
  · exact Or.inl same
  obtain ⟨present, -, -⟩ := getOrganisationByName_ok looked
  simp only at ends
  split at ends
  · exact Or.inl (Program.ends_done.mp ends).2
  · rename_i permitted
    cases renames : request.renames organisation.name with
    | none =>
        rw [renames] at ends
        rcases finishUpdateOrg_cases ends with same | ⟨fate, reached⟩
        · exact Or.inl same
        · rcases updateOrganisation_cases fate organisation.id none store with
            same | ⟨old, new, named, -⟩
          · exact Or.inl (reached.trans same)
          · cases named
    | some newName =>
        rw [renames] at ends
        simp only at ends
        have asked : request.newName = some newName :=
          (Option.filter_eq_some_iff.mp renames).1
        split at ends
        · exact Or.inl (Program.ends_done.mp ends).2
        · obtain ⟨fate, reply, -, ends⟩ := ends_read rfl ends
          cases reply with
          | ok other => exact Or.inl (Program.ends_done.mp ends).2
          | error error =>
              rcases finishUpdateOrg_cases ends with same | ⟨fate, reached⟩
              · exact Or.inl same
              · rcases updateOrganisation_cases fate organisation.id
                    (some newName) store with
                  same | ⟨old, new, named, renamed, free, rows⟩
                · exact Or.inl (reached.trans same)
                · cases named
                  rw [← reached] at rows
                  exact Or.inr ⟨organisation.id, old, newName,
                    Bool.eq_true_of_not_eq_false permitted, present, asked,
                    free, rows⟩

theorem finishJoinOrg_only (username : String) (organisation : Organisation) :
    (finishJoinOrg username organisation).Only
      fun statement => statement.writes ≠ some .organisations := by
  refine only_issue nofun fun existing => ?_
  split
  · trivial
  · refine only_issue nofun fun reply => ?_
    cases reply with
    | error error => trivial
    | ok user =>
        refine only_issue nofun fun reply => ?_
        cases reply with
        | error error => trivial
        | ok written => trivial

theorem handleJoinOrg_only (identity : Option UserIdentity)
    (request : JoinOrgRequest) (now : Time) (secrets : OrgSecrets) :
    (handleJoinOrg identity request now secrets).Only
      fun statement => statement.writes ≠ some .organisations := by
  refine only_issue nofun fun reply => ?_
  cases reply with
  | error error => trivial
  | ok organisation =>
      refine only_unless ?_
      cases secrets.lookup organisation.name with
      | none => trivial
      | some entry =>
          refine only_unless (only_unless ?_)
          exact finishJoinOrg_only _ organisation

/-- Joining an organisation leaves the organisations as they are. -/
theorem organisations_handleJoinOrg {identity : Option UserIdentity}
    {request : JoinOrgRequest} {now : Time} {secrets : OrgSecrets}
    {store after : Store} {answer : Except Problem Unit}
    (ends : (handleJoinOrg identity request now secrets).Ends perform store
      answer after) :
    after.organisations = store.organisations :=
  (handleJoinOrg_only identity request now secrets).preserves
    Store.organisations
    (fun fate statement store allowed =>
      (leaves_perform fate statement store).organisations allowed)
    ends

/-- A join which succeeds met the secret stored under the name. -/
theorem handleJoinOrg_ok {identity : Option UserIdentity}
    {request : JoinOrgRequest} {now : Time} {secrets : OrgSecrets}
    {store after : Store}
    (ends : (handleJoinOrg identity request now secrets).Ends perform store
      (.ok ()) after) :
    ∃ id entry,
      store.organisations.rows.lookup request.orgName = some id ∧
        secrets.lookup request.orgName = some entry ∧
          entry.secret = request.secret ∧ now ≤ entry.expiresAt := by
  unfold handleJoinOrg at ends
  obtain ⟨fate, reply, middle, looked, ends⟩ := ends_issue.mp ends
  cases reply with
  | error error => exact (not_ends_fail ends).elim
  | ok organisation =>
      obtain ⟨present, named, rfl⟩ := getOrganisationByName_ok looked
      obtain ⟨-, ends⟩ := ends_unless ends
      cases stored : secrets.lookup organisation.name with
      | none =>
          rw [stored] at ends
          exact (not_ends_fail ends).elim
      | some entry =>
          rw [stored] at ends
          obtain ⟨same, ends⟩ := ends_unless ends
          obtain ⟨unexpired, ends⟩ := ends_unless ends
          rw [named] at stored
          exact ⟨organisation.id, entry, present, stored, not_not.mp same,
            not_lt.mp unexpired⟩

/--
Names are taken by creations and by authorised renames, and only while they are
free.
-/
theorem JoinSystem.takesName_cases {system after : JoinSystem}
    {label : JoinStep} {name : String} {id : ID}
    (taken : system.step label = some after)
    (takes : system.TakesName after name id) :
    system.store.organisations.rows.lookup name = none ∧
      ((∃ fate, label = .createOrganisation name fate) ∨
        ∃ identity request fates, label = .updateOrg identity request fates ∧
          requireOrgWrite identity = true ∧ request.newName = some name ∧
            system.store.organisations.rows.lookup request.orgName =
              some id) := by
  obtain ⟨has, hadNot⟩ := takes
  cases label with
  | generateSecret identity orgName random fates =>
      obtain ⟨⟨⟨answer, secrets⟩, store⟩, ran, rfl⟩ :=
        Option.map_eq_some_iff.mp taken
      obtain ⟨rfl, -⟩ := handleGenerateSecret_cases ⟨fates, ran⟩
      exact absurd has hadNot
  | updateOrg identity request fates =>
      obtain ⟨⟨answer, store⟩, ran, rfl⟩ := Option.map_eq_some_iff.mp taken
      have has : store.organisations.rows.lookup name = some id := has
      rcases handleUpdateOrg_cases ⟨fates, ran⟩ with
        same | ⟨other, old, new, permitted, present, asked, free, rows⟩
      · rw [same] at has
        exact absurd has hadNot
      · rw [rows] at has
        rcases lookup_insert_cases rfl has with ⟨rfl, rfl⟩ | ⟨-, kept⟩
        · exact ⟨free, Or.inr ⟨identity, request, fates, rfl, permitted, asked,
            present⟩⟩
        · rw [lookup_erase_eq] at kept
          split_ifs at kept
          exact absurd kept hadNot
  | createOrganisation new fate =>
      cases taken
      rcases upsertOrganisation_cases fate new system.store with
        same | ⟨free, created⟩
      · rw [same] at has
        exact absurd has hadNot
      · rw [created] at has
        rcases lookup_insert_cases rfl has with ⟨rfl, rfl⟩ | ⟨-, kept⟩
        · exact ⟨free, Or.inl ⟨fate, rfl⟩⟩
        · exact absurd kept hadNot
  | joinOrg identity request fates =>
      obtain ⟨⟨answer, store⟩, ran, rfl⟩ := Option.map_eq_some_iff.mp taken
      have same := organisations_handleJoinOrg ⟨fates, ran⟩
      have has : store.organisations.rows.lookup name = some id := has
      rw [same] at has
      exact absurd has hadNot
  | wait duration =>
      cases taken
      exact absurd has hadNot

/-! ## The binding of secrets -/

/--
A secret which is stored under the name of an organisation and has not expired
is the latest of that organisation.
-/
def JoinSystem.SecretsLatest (system : JoinSystem) : Prop :=
  ∀ name id entry,
    system.store.organisations.rows.lookup name = some id →
      system.secrets.lookup name = some entry →
        system.now ≤ entry.expiresAt → system.latest.lookup id = some entry

namespace JoinSystem.SecretsLatest

variable {system : JoinSystem}

/-- The secrets are left as they are, and names are taken safely. -/
theorem keep (holds : system.SecretsLatest) {after : JoinSystem}
    (secrets : after.secrets = system.secrets)
    (latest : after.latest = system.latest) (now : system.now ≤ after.now)
    (safe : ∀ name id, system.TakesName after name id →
      ∀ entry, system.secrets.lookup name = some entry →
        entry.expiresAt < system.now ∨ system.latest.lookup id = some entry) :
    after.SecretsLatest := by
  intro name id entry present stored unexpired
  rw [secrets] at stored
  rw [latest]
  have unexpired : system.now ≤ entry.expiresAt := now.trans unexpired
  by_cases had : system.store.organisations.rows.lookup name = some id
  · exact holds name id entry had stored unexpired
  · rcases safe name id ⟨present, had⟩ entry stored with expired | isLatest
    · exact absurd unexpired (not_le.mpr expired)
    · exact isLatest

/-- A new secret is stored under the name and becomes the latest. -/
theorem generate (holds : system.SecretsLatest) {orgName : String} {id : ID}
    (present : system.store.organisations.rows.lookup orgName = some id)
    (entry : OrgSecretEntry) :
    ({ system with
      secrets := system.secrets.insert orgName entry
      latest := system.latest.insert id entry } : JoinSystem).SecretsLatest := by
  intro name other stored found kept unexpired
  have found : system.store.organisations.rows.lookup name = some other := found
  rcases lookup_insert_cases rfl kept with ⟨rfl, rfl⟩ | ⟨different, kept⟩
  · rw [present] at found
    cases found
    show (system.latest.insert id _).lookup id = _
    rw [lookup_insert_eq, if_pos rfl]
  · have ne : other ≠ id := by
      rintro rfl
      exact different (system.store.organisations.unique found present)
    show (system.latest.insert id entry).lookup other = _
    rw [lookup_insert_eq, if_neg ne]
    exact holds name other stored found kept unexpired

theorem step (holds : system.SecretsLatest) {after : JoinSystem} {label : JoinStep}
    (safe : NamesReusedSafely system label)
    (taken : system.step label = some after) : after.SecretsLatest := by
  have safe := fun name id => safe after name id taken
  cases label with
  | generateSecret identity orgName random fates =>
      obtain ⟨⟨⟨answer, secrets⟩, store⟩, ran, rfl⟩ :=
        Option.map_eq_some_iff.mp taken
      obtain ⟨rfl, ⟨problem, rfl, rfl⟩ | ⟨id, secret, present, rfl, rfl⟩⟩ :=
        handleGenerateSecret_cases ⟨fates, ran⟩
      · exact holds
      · have latest : system.generated orgName (.ok secret) =
            system.latest.insert id ⟨secret, system.now + joinSecretTTL⟩ := by
          simp only [generated, present]
        simp only [latest]
        exact holds.generate present _
  | updateOrg identity request fates =>
      obtain ⟨result, -, rfl⟩ := Option.map_eq_some_iff.mp taken
      exact holds.keep rfl rfl le_rfl safe
  | createOrganisation name fate =>
      cases taken
      exact holds.keep rfl rfl le_rfl safe
  | joinOrg identity request fates =>
      obtain ⟨result, -, rfl⟩ := Option.map_eq_some_iff.mp taken
      exact holds.keep rfl rfl le_rfl safe
  | wait duration =>
      cases taken
      exact holds.keep rfl rfl
        (Int.le_add_of_nonneg_right (Int.natCast_nonneg duration)) safe

end JoinSystem.SecretsLatest

/--
In every run in which names are reused safely, a join which succeeds gives the
latest secret of the organisation it joins, and that secret has not expired.
-/
theorem joinOrg_bound {store after : Store} {now : Time} {steps : List JoinStep}
    {system : JoinSystem} {identity : Option UserIdentity}
    {request : JoinOrgRequest} {fates : List Fate}
    (ran : GuardedRun JoinSystem.step NamesReusedSafely
      (JoinSystem.start store now) steps system)
    (joined : (handleJoinOrg identity request system.now system.secrets).run
      perform fates system.store = some (.ok (), after)) :
    system.Bound request := by
  have initially : (JoinSystem.start store now).SecretsLatest := by
    intro name id entry present stored
    cases stored
  have holds := ran.invariant JoinSystem.SecretsLatest
    (fun safe taken holds => holds.step safe taken) initially
  obtain ⟨id, entry, present, stored, same, unexpired⟩ :=
    handleJoinOrg_ok ⟨fates, joined⟩
  exact ⟨id, entry, present, holds _ id entry present stored unexpired, same,
    unexpired⟩

/-- An organisation and a user. -/
def acmeUserStore : Store :=
  (perform (.answered true) (.upsertUser "local" "local" "local@local" true)
    acmeStore).2

/-- Generate a secret for the organisation, with nothing going wrong. -/
def generatesAcmeSecret : JoinStep :=
  .generateSecret (some localIdentity) "acme" (some "k") [.answered true]

/-- Join the organisation of that name with the secret. -/
def joinsAcme : JoinOrgRequest := ⟨"acme", "k"⟩

/--
The organisation with a secret is renamed; when the secret has expired the name
is used again, for an organisation which has a secret of its own generated.
-/
def reusesAcme : List JoinStep :=
  [generatesAcmeSecret,
    .updateOrg (some localIdentity) ⟨"acme", some "beta", none⟩
      (List.replicate 3 (.answered true)),
    .wait (joinSecretTTL.toNat + 1), .createOrganisation "acme" (.answered true),
    generatesAcmeSecret]

/-- Nothing but a creation or a rename can be unsafe. -/
theorem safe_of_takesNo {system : JoinSystem} {label : JoinStep}
    (creates : ∀ name fate, label ≠ .createOrganisation name fate)
    (renames : ∀ identity request fates,
      label ≠ .updateOrg identity request fates) :
    NamesReusedSafely system label := by
  intro after name id taken takes
  obtain ⟨-, ⟨fate, created⟩ | ⟨identity, request, fates, renamed, -⟩⟩ :=
    JoinSystem.takesName_cases taken takes
  · exact absurd created (creates name fate)
  · exact absurd renamed (renames identity request fates)

theorem guardedRun_reusesAcme :
    ∃ system, GuardedRun JoinSystem.step NamesReusedSafely
        (JoinSystem.start acmeUserStore 0) reusesAcme system ∧
      ∃ after, (handleJoinOrg (some localIdentity) joinsAcme system.now
        system.secrets).run perform (List.replicate 4 (.answered true))
          system.store = some (.ok (), after) := by
  refine ⟨_, .cons ?_ rfl (.cons ?_ rfl (.cons ?_ rfl (.cons ?_ rfl
    (.cons ?_ rfl (.nil _))))), _, rfl⟩
  · exact safe_of_takesNo nofun nofun
  · rintro after name id taken takes entry stored
    obtain ⟨-, ⟨_, created⟩ | ⟨_, _, _, renamed, _, asked, _⟩⟩ :=
      JoinSystem.takesName_cases taken takes
    · cases created
    · cases renamed
      cases asked
      cases stored
  · exact safe_of_takesNo nofun nofun
  · rintro after name id taken takes entry stored
    obtain ⟨-, ⟨_, created⟩ | ⟨_, _, _, renamed, _⟩⟩ :=
      JoinSystem.takesName_cases taken takes
    · cases created
      cases stored
      exact Or.inl (by decide)
    · cases renamed
  · exact safe_of_takesNo nofun nofun

theorem joinOrg_bound_reused :
    ∃ system after,
      GuardedRun JoinSystem.step NamesReusedSafely
          (JoinSystem.start acmeUserStore 0) reusesAcme system ∧
        (handleJoinOrg (some localIdentity) joinsAcme system.now
            system.secrets).run perform (List.replicate 4 (.answered true))
              system.store = some (.ok (), after) ∧
          system.Bound joinsAcme := by
  obtain ⟨system, ran, after, joined⟩ := guardedRun_reusesAcme
  exact ⟨system, after, ran, joined, joinOrg_bound ran joined⟩

/--
The organisation with the secret is renamed and another one takes its name; the
secret lets its holder join that one.
-/
theorem joinsAcme_notBound :
    ∃ system after,
      run JoinSystem.step (JoinSystem.start acmeUserStore 0)
          [generatesAcmeSecret,
            .updateOrg (some localIdentity) ⟨"acme", some "beta", none⟩
              (List.replicate 3 (.answered true)),
            .createOrganisation "acme" (.answered true)] = some system ∧
        (handleJoinOrg (some localIdentity) joinsAcme system.now
            system.secrets).run perform (List.replicate 4 (.answered true))
              system.store = some (.ok (), after) ∧
          ¬system.Bound joinsAcme := by
  refine ⟨_, _, rfl, rfl, ?_⟩
  rintro ⟨id, entry, present, latest, -⟩
  cases present
  cases latest

end DbosRelay.Identity
