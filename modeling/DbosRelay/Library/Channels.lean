import Mathlib.Data.List.Basic

/-!
# Buffered channels

A channel in the sense of Go: a bounded buffer which may be closed once.
Sending on a closed channel and closing it again are panics; sending on a full
one blocks.
-/

namespace DbosRelay.Library.Channels

variable {Value : Type*}

/-- A channel, its buffer in the order of the sends. -/
structure Channel (Value : Type*) where
  capacity : Nat
  buffer : List Value
  closed : Bool
deriving DecidableEq, Repr

/-- What becomes of a send. -/
inductive Sending (Value : Type*) where
  | panics
  | blocks
  | sent (channel : Channel Value)

namespace Channel

/-- `make(chan Value, capacity)`. -/
def make (capacity : Nat) : Channel Value :=
  ⟨capacity, [], false⟩

/-- `channel <- value`. -/
def send (channel : Channel Value) (value : Value) : Sending Value :=
  if channel.closed then .panics
  else if channel.buffer.length < channel.capacity then
    .sent { channel with buffer := channel.buffer ++ [value] }
  else .blocks

/-- `close(channel)`; `none` is a panic. -/
def close (channel : Channel Value) : Option (Channel Value) :=
  if channel.closed then none else some { channel with closed := true }

/-- `<-channel`, if there is a value to be had. -/
def receive (channel : Channel Value) : Option (Value × Channel Value) :=
  match channel.buffer with
  | [] => none
  | value :: rest => some (value, { channel with buffer := rest })

/-- An open channel with room takes the value. -/
theorem send_of_room {channel : Channel Value}
    (isOpen : channel.closed = false)
    (room : channel.buffer.length < channel.capacity) (value : Value) :
    channel.send value =
      .sent { channel with buffer := channel.buffer ++ [value] } := by
  unfold send
  rw [isOpen, if_neg Bool.false_ne_true, if_pos room]

/-- An open channel may be closed. -/
theorem close_of_open {channel : Channel Value}
    (isOpen : channel.closed = false) :
    channel.close = some { channel with closed := true } := by
  unfold close
  rw [isOpen, if_neg Bool.false_ne_true]

theorem receive_eq_some {channel rest : Channel Value} {value : Value} :
    channel.receive = some (value, rest) ↔
      channel.buffer = value :: rest.buffer ∧
        rest.capacity = channel.capacity ∧ rest.closed = channel.closed := by
  obtain ⟨capacity, buffer, closed⟩ := channel
  obtain ⟨restCapacity, restBuffer, restClosed⟩ := rest
  cases buffer with
  | nil => simp [receive]
  | cons first others =>
      simp only [receive, Option.some.injEq, Prod.mk.injEq, Channel.mk.injEq,
        List.cons.injEq]
      grind

end Channel

end DbosRelay.Library.Channels
