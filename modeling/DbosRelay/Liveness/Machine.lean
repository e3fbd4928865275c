import Mathlib.Logic.Basic

/-!
# The executor lifecycle state machine

`Transition` of `internal/liveness/machine.go`: the next state, the action and
the error as a pure function of the current state and the event.  An entry which
has been allocated and not yet assigned a state has Go's zero value; it is the
constructor `unset` and shares every branch of `connected`.
-/

namespace DbosRelay.Liveness

/-- The lifecycle state of an executor. -/
inductive State where
  | unset
  | connected
  | disconnected
  | dead
  | deleted
deriving DecidableEq, Repr

/-- The events which drive the lifecycle. -/
inductive Event where
  | connect
  | disconnect
  | gracePeriodExpired
  | recoveryAcked
  | recoveryFailed
  | delete
deriving DecidableEq, Repr

/-- The action a transition asks its caller to perform. -/
inductive Action where
  | none
  | startGraceTimer
  | cancelGraceTimer
  | triggerRecovery
  | retryRecovery
  | deleteRecord
deriving DecidableEq, Repr

/-- `ErrInvalidTransition` with its detail, or `ErrAlreadyDeleted`. -/
inductive TransitionError where
  | invalidTransition (detail : String)
  | alreadyDeleted
deriving DecidableEq, Repr

/-- The text of a transition error. -/
def TransitionError.message : TransitionError → String
  | .invalidTransition detail => "invalid state transition: " ++ detail
  | .alreadyDeleted => "cannot transition a deleted executor"

/-- The result triple of `Transition`. -/
structure Transitioned where
  state : State
  action : Action
  error : Option TransitionError
deriving DecidableEq, Repr

/-- A transition which reports no error. -/
def accept (state : State) (action : Action) : Transitioned :=
  ⟨state, action, Option.none⟩

/-- A refused event leaves the state and names the reason. -/
def refuse (current : State) (detail : String) : Transitioned :=
  ⟨current, .none, some (.invalidTransition detail)⟩

/-- `Transition`. -/
def transition (current : State) (event : Event) : Transitioned :=
  match current with
  | .unset | .connected =>
      match event with
      | .connect => accept .connected .none
      | .disconnect => accept .disconnected .startGraceTimer
      | .gracePeriodExpired =>
          refuse current "cannot expire timer while connected"
      | .recoveryAcked | .recoveryFailed =>
          refuse current "cannot process recovery for a connected executor"
      | .delete => accept .deleted .deleteRecord
  | .disconnected =>
      match event with
      | .connect => accept .connected .cancelGraceTimer
      | .disconnect => accept .disconnected .none
      | .gracePeriodExpired => accept .dead .triggerRecovery
      | .recoveryAcked | .recoveryFailed =>
          refuse current "cannot process recovery before executor is declared dead"
      | .delete => accept .deleted .deleteRecord
  | .dead =>
      match event with
      -- A restarted process may register again under the identity of a dead one.
      | .connect => accept .connected .none
      | .disconnect => accept .dead .none
      | .gracePeriodExpired => accept .dead .none
      | .recoveryAcked => accept .deleted .deleteRecord
      | .recoveryFailed => accept .dead .retryRecovery
      | .delete => accept .deleted .deleteRecord
  | .deleted => ⟨.deleted, .none, some .alreadyDeleted⟩

/-- A failed recovery never moves the machine: it is a retry of `dead`. -/
@[simp]
theorem transition_recoveryFailed_state (current : State) :
    (transition current .recoveryFailed).state = current := by
  cases current <;> rfl

end DbosRelay.Liveness
