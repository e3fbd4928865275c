import Mathlib.Data.List.Induction
import Mathlib.Data.Option.Basic
import Mathlib.Order.Lattice

/-!
# Members with heartbeats

A directory in which a member registers, is confirmed by its heartbeats, leaves,
and is removed when its last heartbeat is older than a cutoff.  What the directory
says of a member is decided by the signals about it; instants need only be ordered,
and a signal may come with any of them.

A heartbeat of a member which is not registered has no effect.
-/

namespace DbosRelay.Library.Heartbeats

variable {Details Instant : Type*}

/-- What happens to a member. -/
inductive Signal (Details Instant : Type*) where
  | registers (details : Details) (instant : Instant)
  | beats (instant : Instant)
  | leaves
  /-- The member is removed if its last heartbeat is older than the cutoff. -/
  | expires (cutoff : Instant)
deriving DecidableEq, Repr

namespace Signal

/-- The signal is a registration. -/
def isRegistration : Signal Details Instant → Bool
  | registers _ _ => true
  | _ => false

/-- The last heartbeat after a signal which leaves the member registered. -/
def beat (last : Instant) : Signal Details Instant → Instant
  | beats instant => instant
  | _ => last

end Signal

/-- The last heartbeat of a member which registered at the given instant. -/
def lastBeat (registered : Instant)
    (signals : List (Signal Details Instant)) : Instant :=
  signals.foldl Signal.beat registered

@[simp]
theorem lastBeat_append_singleton {registered : Instant}
    {signals : List (Signal Details Instant)} {signal : Signal Details Instant} :
    lastBeat registered (signals ++ [signal]) =
      signal.beat (lastBeat registered signals) :=
  List.foldl_append

variable [LinearOrder Instant]

namespace Signal

/-- The entry of a member after a signal: its details and its last heartbeat. -/
def after : Signal Details Instant → Option (Details × Instant) →
    Option (Details × Instant)
  | registers details instant, _ => some (details, instant)
  | beats instant, entry => entry.map fun known => (known.1, instant)
  | leaves, _ => none
  | expires cutoff, entry => entry.filter fun known => cutoff ≤ known.2

/-- The signal leaves a registration with the given last heartbeat in force. -/
def Spares (last : Instant) : Signal Details Instant → Prop
  | registers _ _ => False
  | beats _ => True
  | leaves => False
  | expires cutoff => cutoff ≤ last

end Signal

/-- The entry of a member after signals. -/
def entry (signals : List (Signal Details Instant)) :
    Option (Details × Instant) :=
  signals.foldl (fun known signal => signal.after known) none

/-- A registration at the given instant is still in force. -/
def Lasts (registered : Instant)
    (signals : List (Signal Details Instant)) : Prop :=
  ∀ before signal later, signals = before ++ signal :: later →
    signal.Spares (lastBeat registered before)

variable {signals : List (Signal Details Instant)}
variable {signal : Signal Details Instant}
variable {details : Details} {registered last : Instant}

@[simp]
theorem entry_append_singleton :
    entry (signals ++ [signal]) = signal.after (entry signals) :=
  List.foldl_append

theorem lasts_nil : Lasts registered ([] : List (Signal Details Instant)) := by
  intro before signal later split
  cases before <;> cases split

theorem lasts_append_singleton :
    Lasts registered (signals ++ [signal]) ↔
      Lasts registered signals ∧
        signal.Spares (lastBeat registered signals) := by
  constructor
  · intro lasts
    constructor
    · rintro before earlier later rfl
      exact lasts before earlier (later ++ [signal]) (by simp)
    · exact lasts signals signal [] rfl
  · rintro ⟨lasts, spares⟩ before next later split
    rcases List.eq_nil_or_concat later with rfl | ⟨rest, final, rfl⟩
    · have same := List.append_inj' split rfl
      cases (List.cons.inj same.2).1
      cases same.1
      exact spares
    · rw [List.concat_eq_append] at split
      have whole : signals ++ [signal] = (before ++ next :: rest) ++ [final] := by
        simpa using split
      exact lasts before next rest (List.append_inj' whole rfl).1

/-- A signal keeps an entry if it spares it, and registers anew otherwise. -/
theorem after_eq_some_iff {known : Option (Details × Instant)} :
    signal.after known = some (details, last) ↔
      signal = .registers details last ∨
        ∃ before, known = some (details, before) ∧ signal.Spares before ∧
          signal.beat before = last := by
  cases signal with
  | registers other instant =>
      simp [Signal.after, Signal.Spares]
  | leaves => simp [Signal.after, Signal.Spares]
  | beats instant =>
      simp only [Signal.after, Option.map_eq_some_iff, Prod.mk.injEq,
        Signal.Spares, Signal.beat, reduceCtorEq, true_and, false_or]
      constructor
      · rintro ⟨⟨_, before⟩, held, rfl, rfl⟩
        exact ⟨before, held, rfl⟩
      · rintro ⟨before, held, rfl⟩
        exact ⟨_, held, rfl, rfl⟩
  | expires cutoff =>
      cases known with
      | none => simp [Signal.after]
      | some held =>
          rcases held with ⟨held, instant⟩
          simp only [Signal.after, Option.filter_eq_some_iff, Option.some.injEq,
            Prod.mk.injEq, decide_eq_true_eq, Signal.Spares, Signal.beat,
            reduceCtorEq, false_or]
          constructor
          · rintro ⟨⟨rfl, rfl⟩, spared⟩
            exact ⟨_, ⟨rfl, rfl⟩, spared, rfl⟩
          · rintro ⟨_, ⟨rfl, rfl⟩, spared, rfl⟩
            exact ⟨⟨rfl, rfl⟩, spared⟩

/--
The directory lists a member with the details of its last registration and its last
heartbeat since, if it has not left and no cutoff since has been later than its last
heartbeat; and it lists no other members.
-/
theorem entry_eq_some_iff :
    entry signals = some (details, last) ↔
      ∃ earlier registered later,
        signals = earlier ++ .registers details registered :: later ∧
          Lasts registered later ∧ lastBeat registered later = last := by
  induction signals using List.reverseRecOn generalizing last with
  | nil => simp [entry]
  | append_singleton signals signal induction =>
      rw [entry_append_singleton, after_eq_some_iff]
      constructor
      · rintro (rfl | ⟨before, known, spares, rfl⟩)
        · exact ⟨signals, last, [], rfl, lasts_nil, rfl⟩
        · rcases induction.mp known with
            ⟨earlier, registered, later, rfl, lasts, rfl⟩
          exact ⟨earlier, registered, later ++ [signal], by simp,
            lasts_append_singleton.mpr ⟨lasts, spares⟩,
            lastBeat_append_singleton⟩
      · rintro ⟨earlier, registered, later, split, lasts, rfl⟩
        rcases List.eq_nil_or_concat later with rfl | ⟨rest, final, rfl⟩
        · have same := List.append_inj' split rfl
          exact .inl (List.cons.inj same.2).1
        · rw [List.concat_eq_append] at split lasts ⊢
          have whole : signals ++ [signal] =
              (earlier ++ .registers details registered :: rest) ++ [final] := by
            simpa using split
          have same := List.append_inj' whole rfl
          cases (List.cons.inj same.2).1
          rcases lasts_append_singleton.mp lasts with ⟨before, spares⟩
          exact .inr ⟨lastBeat registered rest,
            induction.mpr ⟨earlier, registered, rest, same.1, before, rfl⟩,
            spares, lastBeat_append_singleton.symm⟩

/-- A member which is not listed stays so until it registers. -/
theorem entry_append_eq_none (absent : entry signals = none)
    {later : List (Signal Details Instant)}
    (unregistered : ∀ signal ∈ later, signal.isRegistration = false) :
    entry (signals ++ later) = none := by
  induction later using List.reverseRecOn with
  | nil => rwa [List.append_nil]
  | append_singleton later signal induction =>
      have before : entry (signals ++ later) = none :=
        induction fun other member =>
          unregistered other (List.mem_append_left _ member)
      rw [← List.append_assoc, entry_append_singleton, before]
      cases signal with
      | registers details instant =>
          cases unregistered _ (List.mem_append_right _ (List.mem_singleton_self _))
      | beats instant => rfl
      | leaves => rfl
      | expires cutoff => rfl

end DbosRelay.Library.Heartbeats
