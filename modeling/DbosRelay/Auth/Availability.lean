import DbosRelay.Auth.Keys

/-!
# Availability of known keys

Once a request got a key, the key is in the set and its identifier is not in the
negative cache, until a fetch succeeds.  A later request then gets it from the
cache, or from the serve-stale path once a fetch has failed again.  Between two
attempts to fetch, a key which is no longer fresh is refused.
-/

namespace DbosRelay.Auth

open DbosRelay.Basic
open DbosRelay.Library.Programs
open DbosRelay.Library.Runs
open DbosRelay.Library.Tables

/-! ## Runs -/

/-- Calls of `getKey` on one validator. -/
abbrev KeyPool :=
  Pool KeyStatement KeyStatement.Reply KeyState String KeyAnswer

/-- A call starts, a call goes on, or somebody else uses the validator. -/
abbrev KeyStep := PoolStep KeyStatement FetchJWKS String

/-- A statement of a call with its answer. -/
abbrev KeyEvent := Event KeyStatement KeyStatement.Reply KeyState

/-- A validator before its first request. -/
def Started (state : KeyState) : Prop :=
  ∃ now ttl, state = (newOIDCValidator now).setCacheTTL ttl ∨
    ∃ fetch made, (newOIDCValidator now).init fetch = .ok made ∧
      state = made.setCacheTTL ttl

/-- How a fetch in the step comes out. -/
def outcome : KeyStep → FetchJWKS
  | .start _ => fun _ => .error ""
  | .advance _ fetch => fetch
  | .other _ fetch => fetch

/-- No fetch succeeds in the step. -/
def NoKeysFetched (pool : KeyPool) (step : KeyStep) : Prop :=
  ∀ kid cachedJwksURI, pool.Issues step (.refresh kid cachedJwksURI) →
    ∃ error, outcome step cachedJwksURI = .error error

/--
Whenever the call looks for the second time, the keys are fresh or the last
attempt to fetch them was long enough ago.
-/
def NotThrottled (kid : String) (trace : List KeyEvent) : Prop :=
  ∀ event ∈ trace, event.request = .recheck kid →
    event.before.fresh = true ∨ event.before.throttled = false

/-! ## Known keys -/

/-- The key is in the set, and its identifier not in the negative cache. -/
structure KeyState.Knows (state : KeyState) (kid : String) (key : PublicKey) :
    Prop where
  present : state.keys.lookup kid = some key
  undenied : state.negCache.lookup kid = none

/-- What is in the set is not in the negative cache. -/
def KeyState.Consistent (state : KeyState) : Prop :=
  ∀ kid key, state.keys.lookup kid = some key →
    state.negCache.lookup kid = none

section States

variable {state : KeyState} {kid : String} {key : PublicKey}

theorem KeyState.Consistent.knows (consistent : state.Consistent)
    (present : state.keys.lookup kid = some key) : state.Knows kid key :=
  ⟨present, consistent kid key present⟩

theorem consistent_of_started (started : Started state) : state.Consistent := by
  intro kid key present
  obtain ⟨now, ttl, rfl | ⟨fetch, made, initialised, rfl⟩⟩ := started
  · rfl
  · unfold KeyState.init at initialised
    split at initialised
    · cases initialised
    · cases initialised
      rfl

theorem cached_of_knows (knows : state.Knows kid key) :
    state.cached kid = if state.fresh then some (.ok key) else none := by
  unfold KeyState.cached KeyState.negFresh
  rw [knows.present, knows.undenied]
  cases state.fresh with
  | true => rfl
  | false => rfl

theorem recheck_of_knows (knows : state.Knows kid key) :
    state.recheck kid =
      if state.fresh then .answered (.ok key)
      else if state.throttled then
        .answered (.error (.unknownKey kid .throttled))
      else .fetch state.jwksURI := by
  unfold KeyState.recheck
  rw [cached_of_knows knows]
  cases state.fresh with
  | true => rfl
  | false => rfl

/-- What the update leaves. -/
theorem refresh_cases (state : KeyState) (kid : String)
    (outcome : Except String (String × KeySet)) :
    (∃ key, (state.fetched outcome).keys.lookup kid = some key ∧
        state.refresh kid outcome = (.ok key, state.fetched outcome)) ∨
      (state.fetched outcome).keys.lookup kid = none ∧
        (∀ key, (state.refresh kid outcome).1 ≠ .ok key) ∧
          (state.refresh kid outcome).2 =
            { state.fetched outcome with
              negCache := (state.fetched outcome).negCache.insert kid
                (state.fetched outcome).now } := by
  unfold KeyState.refresh
  cases found : (state.fetched outcome).keys.lookup kid with
  | some key => exact Or.inl ⟨key, rfl, by simp only [found]⟩
  | none =>
      refine Or.inr ⟨rfl, ?_⟩
      simp only [found]
      cases outcome with
      | ok fetched => exact ⟨nofun, rfl⟩
      | error error =>
          simp only
          split_ifs
          · exact ⟨nofun, rfl⟩
          · exact ⟨nofun, rfl⟩

/-- A fetch which failed leaves what is known. -/
theorem KeyState.Knows.fetched (knows : state.Knows kid key) (error : String) :
    (state.fetched (.error error)).Knows kid key :=
  ⟨knows.present, knows.undenied⟩

/-- After a fetch which failed the stale key is served. -/
theorem refresh_of_knows (knows : state.Knows kid key) (error : String) :
    (state.refresh kid (.error error)).1 = .ok key := by
  rcases refresh_cases state kid (.error error) with
    ⟨found, present, answered⟩ | ⟨absent, -⟩
  · rw [(knows.fetched error).present] at present
    cases present
    rw [answered]
  · rw [(knows.fetched error).present] at absent
    cases absent

/-- An update for another identifier leaves what is known, too. -/
theorem KeyState.Knows.refresh (knows : state.Knows kid key) (other error : String) :
    (state.refresh other (.error error)).2.Knows kid key := by
  have kept := knows.fetched error
  rcases refresh_cases state other (.error error) with
    ⟨found, -, answered⟩ | ⟨absent, -, left⟩
  · rw [answered]
    exact kept
  · rw [left]
    have different : kid ≠ other := by
      rintro rfl
      rw [kept.present] at absent
      cases absent
    refine ⟨kept.present, ?_⟩
    rw [lookup_insert_eq, if_neg different]
    exact kept.undenied

theorem KeyState.Consistent.refresh (consistent : state.Consistent) (other : String)
    (outcome : Except String (String × KeySet)) :
    (state.refresh other outcome).2.Consistent := by
  have kept : (state.fetched outcome).Consistent := by
    cases outcome with
    | error error => exact consistent
    | ok fetched => exact fun _ _ _ => rfl
  rcases refresh_cases state other outcome with
    ⟨found, -, answered⟩ | ⟨absent, -, left⟩
  · rw [answered]
    exact kept
  · rw [left]
    intro kid key present
    have different : kid ≠ other := by
      rintro rfl
      have present : (state.fetched outcome).keys.lookup kid = some key := present
      rw [absent] at present
      cases present
    rw [lookup_insert_eq, if_neg different]
    exact kept kid key present

end States

/-! ## Statements -/

section Statements

variable {state : KeyState} {kid : String} {key : PublicKey}

/-- Nothing but a fetch which succeeds makes a known key unknown. -/
theorem KeyState.Knows.perform {fetch : FetchJWKS} {statement : KeyStatement}
    (knows : state.Knows kid key)
    (fails : ∀ other cachedJwksURI, statement = .refresh other cachedJwksURI →
      ∃ error, fetch cachedJwksURI = .error error) :
    (perform fetch statement state).2.Knows kid key := by
  cases statement with
  | refresh other cachedJwksURI =>
      obtain ⟨error, failed⟩ := fails other cachedJwksURI rfl
      show (state.refresh other (fetch cachedJwksURI)).2.Knows kid key
      rw [failed]
      exact knows.refresh other error
  | wait duration => exact ⟨knows.present, knows.undenied⟩
  | cached other => exact knows
  | recheck other => exact knows
  | now => exact knows

theorem KeyState.Consistent.perform (consistent : state.Consistent) (fetch : FetchJWKS)
    (statement : KeyStatement) :
    (perform fetch statement state).2.Consistent := by
  cases statement with
  | refresh other cachedJwksURI =>
      exact consistent.refresh other (fetch cachedJwksURI)
  | wait duration => exact consistent
  | cached other => exact consistent
  | recheck other => exact consistent
  | now => exact consistent

/-- The answer is the key of the identifier. -/
def Gives (kid : String) (key : PublicKey) :
    (statement : KeyStatement) → statement.Reply → Prop
  | .cached other, reply => other = kid ∧ reply = some (.ok key)
  | .recheck other, reply => other = kid ∧ reply = .answered (.ok key)
  | .refresh other _, reply => other = kid ∧ reply = .ok key
  | _, _ => False

theorem lookup_of_cached (given : state.cached kid = some (.ok key)) :
    state.keys.lookup kid = some key := by
  unfold KeyState.cached at given
  split at given
  · rename_i found fresh
    cases given
    exact found
  · split_ifs at given
    cases given

/-- A key which is given is in the set afterwards. -/
theorem lookup_of_gives {fetch : FetchJWKS} {statement : KeyStatement}
    (gives : Gives kid key statement (perform fetch statement state).1) :
    (perform fetch statement state).2.keys.lookup kid = some key := by
  cases statement with
  | cached other =>
      obtain ⟨rfl, given⟩ := gives
      exact lookup_of_cached given
  | recheck other =>
      obtain ⟨rfl, given⟩ := gives
      have given : state.recheck other = .answered (.ok key) := given
      unfold KeyState.recheck at given
      split at given
      · rename_i answer found
        cases given
        exact lookup_of_cached found
      · split_ifs at given
        cases given
  | refresh other cachedJwksURI =>
      obtain ⟨rfl, given⟩ := gives
      have given : (state.refresh other (fetch cachedJwksURI)).1 = .ok key := given
      show (state.refresh other (fetch cachedJwksURI)).2.keys.lookup other = _
      rcases refresh_cases state other (fetch cachedJwksURI) with
        ⟨found, present, answered⟩ | ⟨-, refused, -⟩
      · rw [answered] at given ⊢
        cases given
        exact present
      · exact absurd given (refused key)
  | now => cases gives
  | wait duration => cases gives

end Statements

/-! ## One call -/

/-- The answer is the validator's, and no fetch before it succeeded. -/
def Answered (event : KeyEvent) : Prop :=
  ∃ fetch, event.reply = (perform fetch event.request event.before).1 ∧
    ∀ other cachedJwksURI, event.request = .refresh other cachedJwksURI →
      ∃ error, fetch cachedJwksURI = .error error

/-- A call which gets the key was given it by its last statement. -/
theorem getKey_given (meets : KeyEvent → Prop) (kid : String) :
    (getKey kid).Keeps meets Program.record (fun _ _ => True)
      (fun trace answer => ∀ key, answer = .ok key →
        ∃ earlier event, trace = earlier ++ [event] ∧ meets event ∧
          Gives kid key event.request event.reply) [] := by
  refine ⟨trivial, fun reply before met => ?_⟩
  cases reply with
  | some answer =>
      rintro key rfl
      exact ⟨[], _, rfl, met, rfl, rfl⟩
  | none =>
      refine ⟨trivial, fun reply before met => ?_⟩
      cases reply with
      | answered answer =>
          rintro key rfl
          exact ⟨[_], _, rfl, met, rfl, rfl⟩
      | fetch cachedJwksURI =>
          refine ⟨trivial, fun reply before met => ?_⟩
          rintro key rfl
          exact ⟨[_, _], _, rfl, met, rfl, rfl⟩

theorem notThrottled_nil (kid : String) : NotThrottled kid [] :=
  List.forall_mem_nil _

theorem notThrottled_record (kid : String) (trace : List KeyEvent)
    (event : KeyEvent) :
    NotThrottled kid (Program.record trace event) ↔
      NotThrottled kid trace ∧ (event.request = .recheck kid →
        event.before.fresh = true ∨ event.before.throttled = false) :=
  List.forall_mem_append.trans (and_congr_right' List.forall_mem_singleton)

/-- While the key is known a call gets it exactly if it is not throttled. -/
theorem getKey_of_knows (kid : String) (key : PublicKey) :
    (getKey kid).Keeps
      (fun event => Answered event ∧ event.before.Knows kid key)
      Program.record (fun _ _ => True)
      (fun trace answer => answer = .ok key ↔ NotThrottled kid trace) [] := by
  refine ⟨trivial, ?_⟩
  rintro reply before ⟨⟨fetch, answered, -⟩, knows⟩
  have looked : NotThrottled kid
      (Program.record [] ⟨.cached kid, reply, before⟩) :=
    (notThrottled_record kid _ _).mpr ⟨notThrottled_nil kid, nofun⟩
  have knows : before.Knows kid key := knows
  have answered : reply = before.cached kid := answered
  rw [cached_of_knows knows] at answered
  split_ifs at answered with fresh
  · subst answered
    exact iff_of_true rfl looked
  · subst answered
    refine ⟨trivial, ?_⟩
    rintro reply before ⟨⟨fetch, answered, -⟩, knows⟩
    have knows : before.Knows kid key := knows
    have answered : reply = before.recheck kid := answered
    rw [recheck_of_knows knows] at answered
    split_ifs at answered with fresh throttled
    · subst answered
      exact iff_of_true rfl
        ((notThrottled_record kid _ _).mpr ⟨looked, fun _ => Or.inl fresh⟩)
    · subst answered
      refine iff_of_false nofun fun unthrottled => ?_
      rcases ((notThrottled_record kid _ _).mp unthrottled).2 rfl with
        isFresh | notThrottled
      · exact fresh isFresh
      · rw [throttled] at notThrottled
        cases notThrottled
    · subst answered
      -- The fetch comes out as an error, so that the stale key is served.
      refine ⟨trivial, ?_⟩
      rintro reply last ⟨⟨fetch, answered, fails⟩, knows⟩
      obtain ⟨error, failed⟩ := fails kid _ rfl
      have knows : last.Knows kid key := knows
      have answered : reply = (last.refresh kid (fetch before.jwksURI)).1 :=
        answered
      rw [failed, refresh_of_knows knows] at answered
      subst answered
      have rechecked := (notThrottled_record kid _
        ⟨.recheck kid, .fetch before.jwksURI, before⟩).mpr
          ⟨looked, fun _ => Or.inr (Bool.eq_false_of_not_eq_true throttled)⟩
      exact iff_of_true rfl
        ((notThrottled_record kid _ _).mpr ⟨rechecked, nofun⟩)

/-! ## Runs of calls -/

section Pools

variable {pool after : KeyPool} {action : KeyStep}
variable {kid : String} {key : PublicKey} {first : Nat}

theorem consistent_step (consistent : pool.state.Consistent)
    (taken : pool.step perform getKey action = some after) :
    after.state.Consistent := by
  cases Pool.takes_of_step taken with
  | start label => exact consistent
  | advance running => exact consistent.perform _ _
  | other statement fetch => exact consistent.perform fetch statement

/-- A call which ends with the key leaves it in the set. -/
theorem lookup_of_served {thread : Nat} {fetch : FetchJWKS}
    (faithful : pool.Faithful getKey)
    (taken : pool.step perform getKey (.advance thread fetch) = some after)
    (served : after.threads[thread]? = some (kid, .done (.ok key))) :
    after.state.keys.lookup kid = some key := by
  cases Pool.takes_of_step taken with
  | @advance _ _ label statement next running =>
      rcases Pool.getElem?_resume served with ⟨-, same⟩ | ⟨different, -⟩
      · obtain ⟨rfl, answered⟩ := Prod.mk.inj same
        have keeps := faithful.keeps running (fun _ _ => trivial)
          (getKey_given (fun _ => True) kid)
        have last := keeps.2 (perform fetch statement pool.state).1 pool.state
          trivial
        rw [← answered] at last
        obtain ⟨earlier, event, split, -, gives⟩ := last key rfl
        obtain ⟨-, same⟩ := List.append_inj' split rfl
        cases same
        exact lookup_of_gives gives
      · exact absurd rfl different

/-- The key is known, and was whenever one of the later calls looked. -/
structure Available (kid : String) (key : PublicKey) (first : Nat)
    (pool : KeyPool) : Prop where
  faithful : pool.Faithful getKey
  known : pool.state.Knows kid key
  answered : ∀ thread, first ≤ thread → ∀ event ∈ pool.trace thread,
    Answered event ∧ event.before.Knows kid key

theorem Available.step (available : Available kid key first pool)
    (unfetched : NoKeysFetched pool action)
    (taken : pool.step perform getKey action = some after) :
    Available kid key first after := by
  have faithful := available.faithful.step taken
  cases Pool.takes_of_step taken with
  | start label => exact ⟨faithful, available.known, available.answered⟩
  | @advance mover fetch label statement next running =>
      have fails : ∀ other cachedJwksURI,
          statement = .refresh other cachedJwksURI →
            ∃ error, fetch cachedJwksURI = .error error := by
        rintro other cachedJwksURI rfl
        exact unfetched other cachedJwksURI ⟨label, next, running⟩
      refine ⟨faithful, available.known.perform fails,
        fun thread later event member => ?_⟩
      rw [Pool.trace_resume, Pool.trace_performed] at member
      split_ifs at member with own
      · rcases List.mem_append.mp member with old | new
        · exact available.answered thread later event old
        · cases List.mem_singleton.mp new
          exact ⟨⟨fetch, rfl, fails⟩, available.known⟩
      · exact available.answered thread later event member
  | other statement fetch =>
      have fails : ∀ other cachedJwksURI,
          statement = .refresh other cachedJwksURI →
            ∃ error, fetch cachedJwksURI = .error error :=
        fun other cachedJwksURI same => unfetched other cachedJwksURI same
      refine ⟨faithful, available.known.perform fails,
        fun thread later event member => ?_⟩
      rw [Pool.trace_performed, if_neg nofun] at member
      exact available.answered thread later event member

end Pools

/--
In every run, once a call got the key of an identifier and while no fetch
succeeds, a later call for the identifier gets that key exactly if it finds the
keys fresh, or the last attempt to fetch them long enough ago, when it looks for
the second time.
-/
theorem getKey_available_iff {state : KeyState} {before served after : KeyPool}
    {earlier later : List KeyStep} {kid : String} {key : PublicKey}
    {first second : Nat} {fetch : FetchJWKS} {answer : KeyAnswer}
    (started : Started state)
    (ran : run (Pool.step perform getKey) (Pool.idle state) earlier =
      some before)
    (taken : before.step perform getKey (.advance first fetch) = some served)
    (got : served.threads[first]? = some (kid, .done (.ok key)))
    (unfetched : GuardedRun (Pool.step perform getKey) NoKeysFetched served
      later after)
    (new : served.threads.length ≤ second)
    (ended : after.threads[second]? = some (kid, .done answer)) :
    answer = .ok key ↔ NotThrottled kid (after.trace second) := by
  have reached : before.Faithful getKey ∧ before.state.Consistent :=
    run_invariant (fun pool => pool.Faithful getKey ∧ pool.state.Consistent)
      (fun taken both => ⟨both.1.step taken, consistent_step both.2 taken⟩) ran
      ⟨Pool.faithful_idle state, consistent_of_started started⟩
  have present := lookup_of_served reached.1 taken got
  have known := (consistent_step reached.2 taken).knows present
  have faithful := reached.1.step taken
  have initially : Available kid key served.threads.length served := by
    refine ⟨faithful, known, fun thread beyond event member => ?_⟩
    rw [faithful.unused beyond] at member
    cases member
  have available := unfetched.invariant
    (Available kid key served.threads.length)
    (fun unfetched taken available => available.step unfetched taken) initially
  exact available.faithful.keeps ended (available.answered second new)
    (getKey_of_knows kid key)

/-- A key set which can be fetched. -/
def oneKey : FetchJWKS := fun _ =>
  .ok ("https://idp/keys", (∅ : KeySet).insert "k1" ⟨3233, 17⟩)

/-- The identity provider does not answer. -/
def outage : FetchJWKS := fun _ => .error "connection refused"

/-- A validator which fetched the key set when it started. -/
def oneKeyState : KeyState where
  jwksURI := "https://idp/keys"
  keys := (∅ : KeySet).insert "k1" ⟨3233, 17⟩
  fetchedAt := 0
  lastAttemptAt := 0
  cacheTTL := 600 * second
  negCache := ∅
  now := 0

theorem started_oneKeyState : Started oneKeyState :=
  ⟨0, 600 * second, Or.inr ⟨oneKey, oneKeyState, rfl, rfl⟩⟩

/-- A step in which nothing is fetched. -/
theorem noKeysFetched_of_outage {pool : KeyPool} {action : KeyStep}
    (fails : action = .start "k1" ∨ ∃ thread, action = .advance thread outage) :
    NoKeysFetched pool action := by
  rcases fails with rfl | ⟨thread, rfl⟩
  · exact fun _ _ _ => ⟨_, rfl⟩
  · exact fun _ _ _ => ⟨_, rfl⟩

/--
Two calls during an outage, after the keys have become stale: the second one
comes six seconds after the failed fetch of the first, and its own fails too.
-/
theorem getKey_available_stale :
    ∃ served after : KeyPool,
      served.state.fresh = false ∧
        GuardedRun (Pool.step perform getKey) NoKeysFetched served
            [.other (.wait 6000000000) outage, .start "k1", .advance 1 outage,
              .advance 1 outage, .advance 1 outage] after ∧
          after.threads[1]? = some ("k1", .done (.ok ⟨3233, 17⟩)) ∧
            NotThrottled "k1" (after.trace 1) := by
  have fails : ∀ pool, NoKeysFetched pool (.advance 1 outage) :=
    fun pool => noKeysFetched_of_outage (Or.inr ⟨1, rfl⟩)
  obtain ⟨before, served, after, ran, taken, got, stale, unfetched, length,
      ended⟩ : ∃ before served after : KeyPool,
        run (Pool.step perform getKey) (Pool.idle oneKeyState)
            [.other (.wait 600000000000) outage, .start "k1", .advance 0 outage,
              .advance 0 outage] = some before ∧
          before.step perform getKey (.advance 0 outage) = some served ∧
            served.threads[0]? = some ("k1", .done (.ok ⟨3233, 17⟩)) ∧
              served.state.fresh = false ∧
              GuardedRun (Pool.step perform getKey) NoKeysFetched served
                [.other (.wait 6000000000) outage, .start "k1",
                  .advance 1 outage, .advance 1 outage, .advance 1 outage]
                after ∧
              served.threads.length = 1 ∧
                after.threads[1]? = some ("k1", .done (.ok ⟨3233, 17⟩)) :=
    ⟨_, _, _, rfl, rfl, rfl, rfl, .cons (fun _ _ same => nomatch same) rfl
      (.cons (noKeysFetched_of_outage (Or.inl rfl)) rfl
        (.cons (fails _) rfl (.cons (fails _) rfl (.cons (fails _) rfl
          (.nil _))))), rfl, rfl⟩
  exact ⟨served, after, stale, unfetched, ended,
    (getKey_available_iff started_oneKeyState ran taken got unfetched
      (Nat.le_of_eq length) ended).mp rfl⟩

/--
During an outage the stale key is served to the call which tried to fetch, and
refused to the next one.
-/
theorem getKey_outage :
    ∃ before served after : KeyPool,
      run (Pool.step perform getKey) (Pool.idle oneKeyState)
          [.other (.wait 600000000000) outage, .start "k1", .advance 0 outage,
            .advance 0 outage] = some before ∧
        before.step perform getKey (.advance 0 outage) = some served ∧
          served.threads[0]? = some ("k1", .done (.ok ⟨3233, 17⟩)) ∧
            GuardedRun (Pool.step perform getKey) NoKeysFetched served
              [.start "k1", .advance 1 outage, .advance 1 outage] after ∧
            after.threads[1]? =
              some ("k1", .done (.error (.unknownKey "k1" .throttled))) := by
  have fails : ∀ pool, NoKeysFetched pool (.advance 1 outage) :=
    fun pool => noKeysFetched_of_outage (Or.inr ⟨1, rfl⟩)
  exact ⟨_, _, _, rfl, rfl, rfl, .cons (noKeysFetched_of_outage (Or.inl rfl))
    rfl (.cons (fails _) rfl (.cons (fails _) rfl (.nil _))), rfl⟩

end DbosRelay.Auth
