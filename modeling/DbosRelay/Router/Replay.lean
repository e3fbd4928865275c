import DbosRelay.Library.Runs
import DbosRelay.Router.Forward

/-!
# Replayed forward requests

The handler serves requests concurrently.  Each call reads the clock, checks the
headers, waits for the body, reads the clock again to verify the signature, and
only then asks the nonce cache, with the first of its two readings.  The cache
remembers a nonce for one `maxDrift`, while the timestamp of a request is
accepted from one `maxDrift` before to one `maxDrift` after the receiver's clock,
and a body may take any time.  A request is passed to the dispatcher at most once
if its copies reach the cache within one `maxDrift` of the first one's arrival.
-/

namespace DbosRelay.Router

open DbosRelay.Basic
open DbosRelay.Library.GenerationCache
open DbosRelay.Library.Runs
open DbosRelay.Library.Tables

/-! ## The receiver -/

/-- Where a call of the handler is. -/
inductive ForwardStage where
  /-- The headers were in order at the time `now`; the body is being read. -/
  | reading (request : ForwardRequest) (appID : UUID) (now : Time)
  /-- `VerifyRequest` has succeeded, and `checkAndRecord` is called next. -/
  | verified (request : ForwardRequest) (appID : UUID) (now deadline : Time)

/-- What the call has first read from the clock. -/
def ForwardStage.now : ForwardStage → Time
  | .reading _ _ now => now
  | .verified _ _ now _ => now

/-- The handler with its calls, and the last instant read from its clock. -/
structure Receiver where
  clock : Time
  cache : NonceCache
  calls : Table Nat ForwardStage

/-- What happens next in a call. -/
inductive ForwardMove (Message : Type) where
  /-- A request arrives; its headers are checked. -/
  | arrives (request : ForwardRequest)
  /-- The body has been read, whole or not, and is verified. -/
  | verifies (bodyComplete : Bool)
  /-- The nonce cache is asked; the dispatcher would give this answer. -/
  | admits (answer : Except String Message)

/-- A call moves, at a time of the receiver's clock. -/
structure ForwardStep (Message : Type) where
  call : Nat
  time : Time
  move : ForwardMove Message

/-- `NewForwardHandler`. -/
def newForwardHandler (created : Time) : Receiver where
  clock := created
  cache := newNonceCache created
  calls := ∅

/-- A request has come as far as the nonce cache. -/
structure Admission where
  request : ForwardRequest
  /-- The reading the cache is asked with. -/
  now : Time
  /-- The time at which it is asked. -/
  reachedAt : Time
deriving DecidableEq

section Replay

variable {Message : Type} (primitives : Primitives Message)
variable (config : ForwardConfig)

/-- A call moves.  One which is answered is over. -/
def Receiver.move (receiver : Receiver) (step : ForwardStep Message) :
    Option Receiver :=
  match step.move, receiver.calls.lookup step.call with
  | .arrives request, none =>
      match checkRequest primitives config request step.time with
      | .error _ => some receiver
      | .ok appID =>
          some
            { receiver with
              calls := receiver.calls.insert step.call
                (.reading request appID step.time) }
  | .verifies bodyComplete, some (.reading request appID now) =>
      match verifyBody primitives config request bodyComplete step.time with
      | .error _ =>
          some { receiver with calls := receiver.calls.erase step.call }
      | .ok deadline =>
          some
            { receiver with
              calls := receiver.calls.insert step.call
                (.verified request appID now deadline) }
  | .admits answer, some (.verified request appID now deadline) =>
      some
        { receiver with
          cache := (admitRequest primitives config receiver.cache request now appID
            deadline answer).2
          calls := receiver.calls.erase step.call }
  | _, _ => none

/-- One step of the receiver, whose clock does not go back. -/
def Receiver.step (receiver : Receiver) (step : ForwardStep Message) :
    Option Receiver :=
  if step.time < receiver.clock then none
  else
    (receiver.move primitives config step).map fun moved =>
      { moved with clock := step.time }

/-- What is passed to the dispatcher in a step, and the request it came in. -/
def Receiver.dispatched (receiver : Receiver) (step : ForwardStep Message) :
    Option (ForwardRequest × DispatchCall Message) :=
  match step.move, receiver.calls.lookup step.call with
  | .admits answer, some (.verified request appID now deadline) =>
      (admitRequest primitives config receiver.cache request now appID deadline
        answer).1.dispatched.map fun call => (request, call)
  | _, _ => none

/-- The request of a step in which only the nonce cache can keep it back. -/
def Receiver.admission (receiver : Receiver) (step : ForwardStep Message) :
    Option Admission :=
  match step.move, receiver.calls.lookup step.call with
  | .admits _, some (.verified request _ now _) =>
      if (primitives.decode request.body).isOk then
        some ⟨request, now, step.time⟩
      else none
  | _, _ => none

/-- How often the request is passed to the dispatcher. -/
def passes (created : Time) (request : ForwardRequest)
    (steps : List (ForwardStep Message)) : Nat :=
  ((observed (Receiver.step primitives config)
    (Receiver.dispatched primitives config) (newForwardHandler created)
      steps).map Prod.fst).count request

/-- The copies of the request which come as far as the nonce cache. -/
def admissions (created : Time) (request : ForwardRequest)
    (steps : List (ForwardStep Message)) : List Admission :=
  (observed (Receiver.step primitives config) (Receiver.admission primitives)
    (newForwardHandler created) steps).filter (·.request = request)

/--
The copies after the first one ask the nonce cache at most `maxDrift` after the
first one has read the clock.
-/
def Prompt (maxDrift : Duration) : List Admission → Prop
  | [] => True
  | first :: rest =>
      ∀ later ∈ rest, timeSub later.reachedAt first.now ≤ maxDrift

instance (maxDrift : Duration) :
    ∀ copies, Decidable (Prompt maxDrift copies)
  | [] => inferInstanceAs (Decidable True)
  | first :: rest =>
      inferInstanceAs (Decidable (∀ later ∈ rest,
        timeSub later.reachedAt first.now ≤ maxDrift))

/-! ## One step -/

variable {primitives config}
variable {receiver before after : Receiver} {step : ForwardStep Message}

/--
A step asks the nonce cache for a request which has been verified, or leaves the
cache alone.
-/
theorem Receiver.step_cases
    (taken : before.step primitives config step = some after) :
    before.clock ≤ step.time ∧ after.clock = step.time ∧
      ((∃ answer request appID now deadline,
          step.move = .admits answer ∧
            before.calls.lookup step.call =
              some (.verified request appID now deadline) ∧
            after.cache = (before.cache.checkAndRecord request.nonce now
              config.drift).2) ∨
        (after.cache = before.cache ∧
          before.dispatched primitives config step = none ∧
          before.admission primitives step = none)) := by
  rw [Receiver.step] at taken
  split_ifs at taken with early
  rcases Option.map_eq_some_iff.mp taken with ⟨moved, moves, rfl⟩
  refine ⟨not_lt.mp early, rfl, ?_⟩
  unfold Receiver.move at moves
  unfold Receiver.dispatched Receiver.admission
  split at moves
  next request move found =>
    refine Or.inr ⟨?_, by simp only [move], by simp only [move]⟩
    split at moves
    · cases moves
      rfl
    · cases moves
      rfl
  next bodyComplete request appID now move found =>
    refine Or.inr ⟨?_, by simp only [move], by simp only [move]⟩
    split at moves
    · cases moves
      rfl
    · cases moves
      rfl
  next answer request appID now deadline move found =>
    cases moves
    exact Or.inl ⟨answer, request, appID, now, deadline, move, found,
      cache_admit⟩
  · cases moves

/-- Where the calls of a receiver come from. -/
theorem Receiver.stage_step {call : Nat} {stage : ForwardStage}
    (taken : before.step primitives config step = some after)
    (found : after.calls.lookup call = some stage) :
    before.calls.lookup call = some stage ∨
      (∃ request appID, step.move = .arrives request ∧
        checkRequest primitives config request step.time = .ok appID ∧
        stage = .reading request appID step.time) ∨
      ∃ bodyComplete request appID now deadline,
        step.move = .verifies bodyComplete ∧ step.call = call ∧
          before.calls.lookup call = some (.reading request appID now) ∧
          verifyBody primitives config request bodyComplete step.time =
            .ok deadline ∧
          stage = .verified request appID now deadline := by
  rw [Receiver.step] at taken
  split_ifs at taken
  rcases Option.map_eq_some_iff.mp taken with ⟨moved, moves, rfl⟩
  unfold Receiver.move at moves
  have erased : ∀ {stage : ForwardStage},
      (before.calls.erase step.call).lookup call = some stage →
        before.calls.lookup call = some stage := by
    intro stage found
    rw [lookup_erase_eq] at found
    split_ifs at found
    exact found
  split at moves
  next request move absent =>
    split at moves
    · cases moves
      exact Or.inl found
    · rename_i appID checked
      cases moves
      rcases lookup_insert_cases rfl found with ⟨-, rfl⟩ | ⟨-, kept⟩
      · exact Or.inr (Or.inl ⟨request, appID, move, checked, rfl⟩)
      · exact Or.inl kept
  next bodyComplete request appID now move reading =>
    split at moves
    · cases moves
      exact Or.inl (erased found)
    · rename_i deadline verified
      cases moves
      rcases lookup_insert_cases rfl found with ⟨rfl, rfl⟩ | ⟨-, kept⟩
      · exact Or.inr (Or.inr ⟨bodyComplete, request, appID, now, deadline, move,
          rfl, reading, verified, rfl⟩)
      · exact Or.inl kept
  next answer request appID now deadline move verified =>
    cases moves
    exact Or.inl (erased found)
  · cases moves

section Admitting

variable {answer : Except String Message} {asked request : ForwardRequest}
variable {appID : UUID} {now deadline : Time}

/-- A step which asks the cache admits a copy of the request it asks for. -/
theorem Receiver.admission_admits (move : step.move = .admits answer)
    (found : before.calls.lookup step.call =
      some (.verified asked appID now deadline)) :
    (before.admission primitives step).toList.filter (·.request = request) =
      if asked = request ∧ (primitives.decode asked.body).isOk then
        [⟨asked, now, step.time⟩]
      else [] := by
  simp only [Receiver.admission, move, found]
  by_cases decodes : (primitives.decode asked.body).isOk = true
  · simp only [decodes, if_true, and_true, Option.toList_some,
      List.filter_singleton, Bool.cond_decide]
  · simp [decodes]

/-- It passes that copy on exactly if the nonce is new. -/
theorem Receiver.dispatched_admits (move : step.move = .admits answer)
    (found : before.calls.lookup step.call =
      some (.verified asked appID now deadline)) :
    (before.dispatched primitives config step).map Prod.fst = some request ↔
      (asked = request ∧ (primitives.decode asked.body).isOk) ∧
        (before.cache.checkAndRecord asked.nonce now config.drift).1 =
          true := by
  simp only [Receiver.dispatched, move, found, Option.map_map,
    Option.map_eq_some_iff, Function.comp_apply, admit_dispatched_iff]
  constructor
  · rintro ⟨call, ⟨isNew, decodes, -, -⟩, same⟩
    exact ⟨⟨same, by rw [decodes]; rfl⟩, isNew⟩
  · rintro ⟨⟨same, decodes⟩, isNew⟩
    cases decoded : primitives.decode asked.body with
    | error cause =>
        rw [decoded] at decodes
        cases decodes
    | ok message =>
        exact ⟨⟨appID, message, deadline⟩, ⟨isNew, rfl, rfl, rfl⟩, same⟩

end Admitting

/-! ## The nonce of one request -/

/--
What the cache knows of a nonce, once copies of the request have come as far as
the cache and have been passed on so many times.
-/
inductive Progress (maxDrift : Duration) (nonce : Bytes) (cache : NonceCache)
    (clock : Time) : List Admission → Nat → Prop where
  | untouched : Progress maxDrift nonce cache clock [] 0
  | refused {first : Admission} {rest : List Admission}
      (past : first.now ≤ clock)
      (watched : (ttlExpiry maxDrift).fresh first.now clock = true →
        cache.Watched (ttlExpiry maxDrift) nonce first.now) :
      Progress maxDrift nonce cache clock (first :: rest) 0
  | passed {first : Admission} {rest : List Admission}
      (past : first.now ≤ clock)
      (shut : (ttlExpiry maxDrift).fresh first.now clock = true →
        cache.Shut (ttlExpiry maxDrift) nonce first.now) :
      Progress maxDrift nonce cache clock (first :: rest) 1

variable {maxDrift : Duration} {nonce other : Bytes} {cache : NonceCache}
variable {clock later now : Time} {copies : List Admission} {count : Nat}

theorem Progress.le_one
    (progress : Progress maxDrift nonce cache clock copies count) :
    count ≤ 1 := by
  cases progress <;> decide

/-- Time passes. -/
theorem Progress.wait
    (progress : Progress maxDrift nonce cache clock copies count)
    (onwards : clock ≤ later) :
    Progress maxDrift nonce cache later copies count := by
  cases progress with
  | untouched => exact .untouched
  | refused past watched =>
      exact .refused (past.trans onwards) fun fresh =>
        watched ((ttlExpiry maxDrift).mono le_rfl onwards fresh)
  | passed past shut =>
      exact .passed (past.trans onwards) fun fresh =>
        shut ((ttlExpiry maxDrift).mono le_rfl onwards fresh)

/-- Some nonce is checked, with a reading which is not ahead of the clock. -/
theorem Progress.checkAndRecord
    (progress : Progress maxDrift nonce cache clock copies count)
    (read : now ≤ clock) :
    Progress maxDrift nonce (cache.checkAndRecord other now maxDrift).2 clock
      copies count := by
  rw [NonceCache.checkAndRecord_eq]
  cases progress with
  | untouched => exact .untouched
  | refused past watched =>
      refine .refused past fun fresh => ?_
      exact (watched fresh).checkAndRecord
        ((ttlExpiry maxDrift).mono le_rfl read fresh)
  | passed past shut =>
      refine .passed past fun fresh => ?_
      exact (shut fresh).checkAndRecord
        ((ttlExpiry maxDrift).mono le_rfl read fresh)

/-- The copies up to the last one are prompt if all of them are. -/
theorem Prompt.init {copy : Admission}
    (prompt : Prompt maxDrift (copies ++ [copy])) :
    Prompt maxDrift copies := by
  cases copies with
  | nil => trivial
  | cons first rest =>
      intro later member
      exact prompt later (List.mem_append_left _ member)

/-- A prompt copy reaches the cache, which passes on at most one of them. -/
theorem Progress.admission (copy : Admission)
    (progress : Progress maxDrift nonce cache copy.reachedAt copies count)
    (read : copy.now ≤ copy.reachedAt)
    (prompt : Prompt maxDrift (copies ++ [copy])) :
    Progress maxDrift nonce
      (cache.checkAndRecord nonce copy.now maxDrift).2 copy.reachedAt
      (copies ++ [copy])
      (count + if (cache.checkAndRecord nonce copy.now maxDrift).1 then 1
        else 0) := by
  rw [NonceCache.checkAndRecord_eq]
  cases progress with
  | untouched =>
      split_ifs with accepted
      · refine .passed read fun fresh => ?_
        exact (Generations.shut_or_watched
          ((ttlExpiry maxDrift).mono le_rfl read fresh)).1 accepted
      · refine .refused read fun fresh => ?_
        exact (Generations.shut_or_watched
          ((ttlExpiry maxDrift).mono le_rfl read fresh)).2
            (eq_false_of_ne_true accepted)
  | @refused first rest past watched =>
      have fresh : (ttlExpiry maxDrift).fresh first.now copy.reachedAt =
          true := by
        rw [fresh_ttlExpiry, decide_eq_true_eq]
        exact prompt copy (by simp)
      have stillFresh := (ttlExpiry maxDrift).mono le_rfl read fresh
      split_ifs with accepted
      · exact .passed past fun _ => (watched fresh).shut stillFresh accepted
      · exact .refused past fun _ =>
          (watched fresh).checkAndRecord stillFresh
  | @passed first rest past shut =>
      have fresh : (ttlExpiry maxDrift).fresh first.now copy.reachedAt =
          true := by
        rw [fresh_ttlExpiry, decide_eq_true_eq]
        exact prompt copy (by simp)
      have stillFresh := (ttlExpiry maxDrift).mono le_rfl read fresh
      rw [(shut fresh).refuses stillFresh]
      exact .passed past fun _ => (shut fresh).checkAndRecord stillFresh

/-! ## Runs -/

/-- No call has read a time ahead of the clock. -/
def Receiver.Timed (receiver : Receiver) : Prop :=
  ∀ call stage, receiver.calls.lookup call = some stage →
    stage.now ≤ receiver.clock

theorem Receiver.timed_step
    (taken : before.step primitives config step = some after)
    (timed : before.Timed) : after.Timed := by
  rcases Receiver.step_cases taken with ⟨onwards, clock, -⟩
  intro call stage found
  rw [clock]
  rcases Receiver.stage_step taken found with
    kept | ⟨request, appID, -, -, rfl⟩ |
    ⟨bodyComplete, request, appID, now, deadline, -, -, kept, -, rfl⟩
  · exact (timed call stage kept).trans onwards
  · exact le_rfl
  · exact (timed call _ kept).trans onwards

variable {created : Time} {request : ForwardRequest}
variable {steps : List (ForwardStep Message)}

theorem passes_append_singleton
    (reaches : run (Receiver.step primitives config)
      (newForwardHandler created) steps = some before) :
    passes primitives config created request (steps ++ [step]) =
      passes primitives config created request steps +
        if (before.dispatched primitives config step).map Prod.fst =
            some request then 1
        else 0 := by
  rw [passes, passes, observed_append_singleton reaches, List.map_append,
    List.count_append]
  congr 1
  cases before.dispatched primitives config step with
  | none => rfl
  | some seen => simp [List.count_singleton]

theorem admissions_append_singleton
    (reaches : run (Receiver.step primitives config)
      (newForwardHandler created) steps = some before) :
    admissions primitives config created request (steps ++ [step]) =
      admissions primitives config created request steps ++
        ((before.admission primitives step).toList.filter
          (·.request = request)) := by
  rw [admissions, admissions, observed_append_singleton reaches,
    List.filter_append]

/-- What the cache knows of the nonce of a request, after any run. -/
theorem progress_of_run
    (taken : run (Receiver.step primitives config)
      (newForwardHandler created) steps = some receiver)
    (prompt : Prompt config.drift
      (admissions primitives config created request steps)) :
    Progress config.drift request.nonce receiver.cache receiver.clock
      (admissions primitives config created request steps)
      (passes primitives config created request steps) := by
  refine (run_history (fun steps receiver => receiver.Timed ∧
    (Prompt config.drift (admissions primitives config created request steps) →
      Progress config.drift request.nonce receiver.cache receiver.clock
        (admissions primitives config created request steps)
        (passes primitives config created request steps)))
    ?_ taken ⟨?_, fun _ => .untouched⟩).2 prompt
  · intro earlier before after step reaches stepTaken ⟨timed, soFar⟩
    refine ⟨Receiver.timed_step stepTaken timed, ?_⟩
    rcases Receiver.step_cases stepTaken with
      ⟨onwards, clock, ⟨answer, asked, appID, now, deadline, move, found,
        cache⟩ | ⟨cache, undispatched, unadmitted⟩⟩
    · have read : now ≤ step.time := (timed _ _ found).trans onwards
      rw [passes_append_singleton reaches, admissions_append_singleton reaches,
        Receiver.admission_admits move found, clock, cache]
      simp only [Receiver.dispatched_admits move found]
      by_cases own : asked = request ∧ (primitives.decode asked.body).isOk
      · rcases own with ⟨rfl, decodes⟩
        simp only [decodes, and_self, if_true, true_and]
        exact fun prompt => ((soFar prompt.init).wait onwards).admission
          ⟨asked, now, step.time⟩ read prompt
      · simp only [own, if_false, false_and, List.append_nil, add_zero]
        exact fun prompt =>
          ((soFar prompt).wait onwards).checkAndRecord read
    · rw [passes_append_singleton reaches, admissions_append_singleton reaches,
        undispatched, unadmitted, clock, cache]
      simp only [Option.toList_none, List.filter_nil, List.append_nil,
        Option.map_none, reduceCtorEq, if_false, add_zero]
      exact fun prompt => (soFar prompt).wait onwards
  · intro call stage found
    cases found

/--
In every run of the receiver, in which any number of calls are under way and
bodies take any time, the handler passes a request to the dispatcher at most once
if the copies that pass its other checks ask the nonce cache at most `maxDrift`
after the first of them has arrived.
-/
theorem passes_le_one_of_prompt (primitives : Primitives Message)
    (config : ForwardConfig) (created : Time) (request : ForwardRequest)
    (steps : List (ForwardStep Message)) (receiver : Receiver)
    (taken : run (Receiver.step primitives config)
      (newForwardHandler created) steps = some receiver)
    (prompt : Prompt config.drift
      (admissions primitives config created request steps)) :
    passes primitives config created request steps ≤ 1 :=
  (progress_of_run taken prompt).le_one

end Replay

/-! ## A request and its replays -/

/-- The replays below depend on no property of the hash or the codec. -/
def samplePrimitives : Primitives Unit where
  hmacSHA256 secret payload := secret ++ payload
  parseRFC3339Nano _ := .error "cannot parse"
  numError _ _ := "invalid syntax"
  scanUUID _ := some ⟨7⟩
  decode _ := .ok ()
  encode _ := .ok []

/-- A handler which allows a drift of thirty seconds. -/
def sampleConfig : ForwardConfig where
  secret := [42]
  maxDrift := 30 * second

/-- A request signed at the second 1000 of the sender's clock. -/
def sampleRequest (nonce : Bytes) : ForwardRequest :=
  let path := ascii "/internal/v1/forward/7"
  { method := ascii "POST"
    path := path
    requestURI := path
    signature :=
      encodeToString
        (samplePrimitives.hmacSHA256 sampleConfig.secret
          (buildSignaturePayload (ascii "1000") (ascii "0") (ascii "POST") path
            nonce [] []))
    timestamp := ascii "1000"
    hop := ascii "0"
    nonce := nonce
    deadline := []
    body := [] }

/-- The request arrives, at a millisecond of the receiver's clock. -/
def sampleArrives (call : Nat) (nonce : Bytes) (milli : Int) :
    ForwardStep Unit :=
  ⟨call, milli * 1000000, .arrives (sampleRequest nonce)⟩

/-- Its body has come, and it asks the cache. -/
def sampleAdmitted (call : Nat) (milli : Int) : List (ForwardStep Unit) :=
  [⟨call, milli * 1000000, .verifies true⟩,
    ⟨call, milli * 1000000, .admits (.ok ())⟩]

/--
The body of the second copy takes twenty seconds; another request is served
meanwhile.
-/
def promptCopies : List (ForwardStep Unit) :=
  [sampleArrives 0 (ascii "n") 990000, sampleArrives 1 (ascii "n") 995000] ++
    sampleAdmitted 0 996000 ++ [sampleArrives 2 (ascii "m") 1010000] ++
    sampleAdmitted 2 1010000 ++ sampleAdmitted 1 1015000

theorem passes_le_one_of_prompt_slowBody :
    admissions samplePrimitives sampleConfig 940000000000
        (sampleRequest (ascii "n")) promptCopies =
      [⟨sampleRequest (ascii "n"), 990000000000, 996000000000⟩,
        ⟨sampleRequest (ascii "n"), 995000000000, 1015000000000⟩] ∧
    passes samplePrimitives sampleConfig 940000000000
      (sampleRequest (ascii "n")) promptCopies ≤ 1 := by
  have copies : admissions samplePrimitives sampleConfig 940000000000
      (sampleRequest (ascii "n")) promptCopies =
        [⟨sampleRequest (ascii "n"), 990000000000, 996000000000⟩,
          ⟨sampleRequest (ascii "n"), 995000000000, 1015000000000⟩] := by
    decide
  have taken : (run (Receiver.step samplePrimitives sampleConfig)
      (newForwardHandler 940000000000) promptCopies).isSome = true := by
    decide
  rcases Option.isSome_iff_exists.mp taken with ⟨receiver, reaches⟩
  refine ⟨copies, passes_le_one_of_prompt samplePrimitives sampleConfig
    940000000000 (sampleRequest (ascii "n")) promptCopies receiver reaches ?_⟩
  rw [copies]
  decide

/-- The sender's clock runs thirty seconds ahead; a minute later the nonce is forgotten. -/
theorem aheadOfClock_passedTwice :
    let steps := sampleArrives 0 (ascii "n") 970000 :: sampleAdmitted 0 970000 ++
      sampleArrives 1 (ascii "n") 1030000 :: sampleAdmitted 1 1030000
    (run (Receiver.step samplePrimitives sampleConfig) (newForwardHandler 0)
        steps).isSome ∧
      ¬ passes samplePrimitives sampleConfig 0 (sampleRequest (ascii "n"))
        steps ≤ 1 := by
  decide

/--
Two copies arrive within twenty milliseconds, but the body of one takes half a
minute.
-/
example :
    passes samplePrimitives sampleConfig 940000000000
      (sampleRequest (ascii "n"))
      ([sampleArrives 0 (ascii "n") 970000] ++ sampleAdmitted 0 970000 ++
        [sampleArrives 1 (ascii "m") 970005] ++ sampleAdmitted 1 970005 ++
        [sampleArrives 2 (ascii "n") 970020] ++
        [sampleArrives 3 (ascii "l") 1000006] ++ sampleAdmitted 3 1000006 ++
        sampleAdmitted 2 1000010) = 2 := by
  decide

end DbosRelay.Router
