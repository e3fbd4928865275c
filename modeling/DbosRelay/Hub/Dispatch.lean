import DbosRelay.Hub.Registry
import DbosRelay.Protocol.Messages

/-!
# Dispatching to local executors

`Hub.Dispatch` of `internal/hub/hub.go` hands a message to one executor of an
application and, when the write to its socket fails or the message may be
repeated, to another one.  What becomes of a hand-off is given from outside,
together with whether the executor may have applied the message; the hub never
learns the latter.
-/

namespace DbosRelay.Hub

open DbosRelay.Basic
open DbosRelay.Protocol

/-! ## Hand-offs -/

/-- Who may be given a message. -/
inductive Backend where
  | executor (conn : ExecutorConn)
  | peer (owner : UUID) (targetURL : String)
  | database
deriving DecidableEq, Repr

/--
One hand-off, and whether its outcome leaves it possible that the backend has
applied the message.
-/
structure HandOff where
  backend : Backend
  mayHaveApplied : Bool
deriving DecidableEq, Repr

/-- A message goes to another backend only after hand-offs known not to have been applied. -/
def HandedOverSafely (handOffs : List HandOff) : Prop :=
  handOffs.Pairwise fun earlier _ => earlier.mayHaveApplied = false

instance (handOffs : List HandOff) : Decidable (HandedOverSafely handOffs) :=
  inferInstanceAs (Decidable (handOffs.Pairwise _))

/-- Nothing of a sequence of hand-offs may have been applied. -/
def KnownNotApplied (handOffs : List HandOff) : Prop :=
  ∀ handOff ∈ handOffs, handOff.mayHaveApplied = false

instance (handOffs : List HandOff) : Decidable (KnownNotApplied handOffs) :=
  inferInstanceAs (Decidable (∀ handOff ∈ handOffs, _ = false))

@[simp]
theorem knownNotApplied_nil : KnownNotApplied [] := by
  simp [KnownNotApplied]

@[simp]
theorem knownNotApplied_singleton {handOff : HandOff} :
    KnownNotApplied [handOff] ↔ handOff.mayHaveApplied = false := by
  simp [KnownNotApplied]

theorem knownNotApplied_append {first second : List HandOff} :
    KnownNotApplied (first ++ second) ↔
      KnownNotApplied first ∧ KnownNotApplied second := by
  simp only [KnownNotApplied, List.forall_mem_append]

@[simp]
theorem handedOverSafely_nil : HandedOverSafely [] :=
  List.Pairwise.nil

@[simp]
theorem handedOverSafely_singleton (handOff : HandOff) :
    HandedOverSafely [handOff] :=
  List.pairwise_singleton _ handOff

theorem handedOverSafely_append {first second : List HandOff} :
    HandedOverSafely (first ++ second) ↔
      HandedOverSafely first ∧ HandedOverSafely second ∧
        (second ≠ [] → KnownNotApplied first) := by
  rw [HandedOverSafely, List.pairwise_append]
  constructor
  · rintro ⟨inFirst, inSecond, across⟩
    refine ⟨inFirst, inSecond, ?_⟩
    intro nonempty handOff member
    rcases List.exists_mem_of_ne_nil second nonempty with ⟨next, follows⟩
    exact across handOff member next follows
  · rintro ⟨inFirst, inSecond, known⟩
    refine ⟨inFirst, inSecond, ?_⟩
    intro handOff member next follows
    exact known (List.ne_nil_of_mem follows) handOff member

/-! ## One executor -/

/-- What becomes of a request at one connection. -/
inductive ConnOutcome where
  | registerFails (error : GoError)
  | writeFails (error : GoError) (mayHaveApplied : Bool)
  | contextDone (deadlineExceeded : Bool)
  | timedOut
  | closed
  | answers (response : Message)
deriving DecidableEq, Repr

/-- The two errors `dispatchToConn` returns when it returns no message. -/
structure ConnError where
  writeErr : Option GoError
  dispatchErr : GoError
deriving DecidableEq, Repr

/-- `context.DeadlineExceeded` or `context.Canceled`. -/
def contextError (deadlineExceeded : Bool) : GoError where
  text :=
    if deadlineExceeded then "context deadline exceeded"
    else "context canceled"
  deadlineExceeded := deadlineExceeded

/-- `dispatchToConn`. -/
def dispatchToConn : ConnOutcome → Except ConnError Message
  | .registerFails error => .error ⟨none, error⟩
  | .writeFails error _ =>
      .error ⟨some error, error.wrap "dispatch failed"⟩
  | .contextDone deadlineExceeded =>
      .error ⟨none, contextError deadlineExceeded⟩
  | .timedOut => .error ⟨none, .new "request timed out"⟩
  | .closed =>
      .error ⟨none, .new "connection closed while awaiting response"⟩
  | .answers response => .ok response

/-- The hand-off to a connection; a refused registration precedes it. -/
def ConnOutcome.handOffs (conn : ExecutorConn) : ConnOutcome → List HandOff
  | .registerFails _ => []
  | .writeFails _ mayHaveApplied => [⟨.executor conn, mayHaveApplied⟩]
  | _ => [⟨.executor conn, true⟩]

/-! ## The hub -/

/--
The surroundings of one call of `Hub.Dispatch`: the registry when it selects
the first and the alternative executor, what becomes of the request at each,
and whether 10 ms of its deadline remain for the second attempt.
-/
structure HubWorld where
  registry : Registry
  first : ConnOutcome
  enoughBudget : Bool
  laterRegistry : Registry
  alternative : ConnOutcome

/-- What the hub returns, and what it has handed over. -/
structure HubDispatched where
  result : Except GoError Message
  handOffs : List HandOff

/-- The alternative executor, when the hub may try one. -/
def HubWorld.alternativeConn (world : HubWorld) (appID : UUID)
    (conn : ExecutorConn) : Option ExecutorConn :=
  if world.enoughBudget then
    match world.laterRegistry.selectExecutorWithExclusion appID
        conn.key.executorID with
    | .ok (_, alternative) => some alternative
    | .error _ => none
  else none

/-- `Hub.Dispatch`. -/
def hubDispatch (world : HubWorld) (appID : UUID) (req : Message) :
    HubDispatched :=
  match world.registry.selectExecutor appID with
  | .error error => ⟨.error (.new error.message), []⟩
  | .ok (_, conn) =>
      if req.requestID = "" then
        ⟨.error (.new "request must have an ID"), []⟩
      else
        match dispatchToConn world.first with
        | .ok response => ⟨.ok response, world.first.handOffs conn⟩
        | .error error =>
            if error.writeErr.isSome || isSafeToRetry req.messageType then
              match world.alternativeConn appID conn with
              | some alternative =>
                  ⟨(dispatchToConn world.alternative).mapError
                      ConnError.dispatchErr,
                    world.first.handOffs conn ++
                      world.alternative.handOffs alternative⟩
              | none =>
                  ⟨.error error.dispatchErr, world.first.handOffs conn⟩
            else ⟨.error error.dispatchErr, world.first.handOffs conn⟩

/-! ## Messages which must not be repeated -/

/-- The outcome of a connection is a failed write which may have been applied. -/
def ConnOutcome.doubtful : ConnOutcome → Bool
  | .writeFails _ mayHaveApplied => mayHaveApplied
  | _ => false

/-- The write fails. -/
def ConnOutcome.failsWrite : ConnOutcome → Bool
  | .writeFails _ _ => true
  | _ => false

/-- The request reaches the connection. -/
def ConnOutcome.reached : ConnOutcome → Bool
  | .registerFails _ => false
  | _ => true

/--
A write to the first executor which may have been applied and failed is not
followed by an alternative executor which the request reaches.
-/
def HubWorld.NoDoubtfulRetry (world : HubWorld) (appID : UUID)
    (req : Message) : Prop :=
  ∀ registry conn,
    world.registry.selectExecutor appID = .ok (registry, conn) →
      req.requestID ≠ "" → world.first.doubtful = true →
        world.alternativeConn appID conn = none ∨
          world.alternative.reached = false

/-- Some write to a local executor failed and may have been applied. -/
def HubWorld.DoubtfulWrite (world : HubWorld) (appID : UUID)
    (req : Message) : Prop :=
  ∃ registry conn,
    world.registry.selectExecutor appID = .ok (registry, conn) ∧
      req.requestID ≠ "" ∧
        (world.first.doubtful = true ∨
          world.first.failsWrite = true ∧
            world.alternativeConn appID conn ≠ none ∧
            world.alternative.doubtful = true)

section Hub

variable {world : HubWorld} {appID : UUID} {req : Message}

theorem handedOverSafely_handOffs (conn : ExecutorConn)
    (outcome : ConnOutcome) : HandedOverSafely (outcome.handOffs conn) := by
  cases outcome with
  | registerFails => exact handedOverSafely_nil
  | _ => exact handedOverSafely_singleton _

theorem handOffs_ne_nil {conn : ExecutorConn} {outcome : ConnOutcome} :
    outcome.handOffs conn ≠ [] ↔ outcome.reached = true := by
  cases outcome <;> simp [ConnOutcome.handOffs, ConnOutcome.reached]

/-- A message which must not be repeated goes to a second executor only after a failed write. -/
theorem handOffs_hubDispatch
    (onceOnly : isSafeToRetry req.messageType = false)
    {registry : Registry} {conn : ExecutorConn}
    (selected : world.registry.selectExecutor appID = .ok (registry, conn))
    (named : req.requestID ≠ "") :
    (hubDispatch world appID req).handOffs =
      world.first.handOffs conn ++
        match world.first, world.alternativeConn appID conn with
        | .writeFails _ _, some alternative =>
            world.alternative.handOffs alternative
        | _, _ => [] := by
  simp only [hubDispatch, selected, if_neg named]
  cases world.first with
  | writeFails error mayHaveApplied =>
      simp only [dispatchToConn, Option.isSome_some, Bool.true_or, if_true]
      cases world.alternativeConn appID conn with
      | none => simp
      | some alternative => rfl
  | answers response => simp [dispatchToConn]
  | _ => simp [dispatchToConn, onceOnly]

/-- Whose answer, or whose error, the hub returns for such a message. -/
theorem result_hubDispatch
    (onceOnly : isSafeToRetry req.messageType = false)
    {registry : Registry} {conn : ExecutorConn}
    (selected : world.registry.selectExecutor appID = .ok (registry, conn))
    (named : req.requestID ≠ "") :
    (hubDispatch world appID req).result =
      (dispatchToConn
        (match world.first, world.alternativeConn appID conn with
          | .writeFails _ _, some _ => world.alternative
          | first, _ => first)).mapError ConnError.dispatchErr := by
  simp only [hubDispatch, selected, if_neg named]
  cases world.first with
  | writeFails error mayHaveApplied =>
      simp only [dispatchToConn, Option.isSome_some, Bool.true_or, if_true]
      cases world.alternativeConn appID conn with
      | none => rfl
      | some alternative => rfl
  | answers response => rfl
  | _ =>
      simp only [dispatchToConn, onceOnly, Option.isSome_none,
        Bool.or_self, Bool.false_eq_true, if_false]
      rfl

theorem noDoubtfulRetry_iff
    {registry : Registry} {conn : ExecutorConn}
    (selected : world.registry.selectExecutor appID = .ok (registry, conn))
    (named : req.requestID ≠ "") :
    world.NoDoubtfulRetry appID req ↔
      (world.first.doubtful = true →
        world.alternativeConn appID conn = none ∨
          world.alternative.reached = false) := by
  simp [HubWorld.NoDoubtfulRetry, selected, named]

/-- When the hub keeps a message which must not be repeated from a second executor. -/
theorem handedOverSafely_hubDispatch
    (onceOnly : isSafeToRetry req.messageType = false) :
    HandedOverSafely (hubDispatch world appID req).handOffs ↔
      world.NoDoubtfulRetry appID req := by
  cases selected : world.registry.selectExecutor appID with
  | error error =>
      have nothing : (hubDispatch world appID req).handOffs = [] := by
        simp only [hubDispatch, selected]
      rw [nothing, HubWorld.NoDoubtfulRetry, selected]
      simp
  | ok selection =>
      rcases selection with ⟨registry, conn⟩
      by_cases named : req.requestID = ""
      · have nothing : (hubDispatch world appID req).handOffs = [] := by
          simp only [hubDispatch, selected, if_pos named]
        rw [nothing, HubWorld.NoDoubtfulRetry]
        simp [named]
      · rw [handOffs_hubDispatch onceOnly selected named,
          noDoubtfulRetry_iff selected named, handedOverSafely_append]
        have first := handedOverSafely_handOffs conn world.first
        cases outcome : world.first with
        | writeFails error mayHaveApplied =>
            rw [outcome] at first
            cases world.alternativeConn appID conn with
            | none => simpa using first
            | some alternative =>
                have second :=
                  handedOverSafely_handOffs alternative world.alternative
                simp only [first, second, true_and, handOffs_ne_nil]
                simp only [ConnOutcome.handOffs, knownNotApplied_singleton,
                  ConnOutcome.doubtful, reduceCtorEq, false_or]
                cases mayHaveApplied <;>
                  cases world.alternative.reached <;> simp
        | _ =>
            rw [outcome] at first
            simpa [ConnOutcome.doubtful] using first

end Hub

end DbosRelay.Hub
