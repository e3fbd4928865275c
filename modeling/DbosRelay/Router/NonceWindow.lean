import DbosRelay.Router.Forward

/-!
# The nonce cache as a sliding window

`checkAndRecord` keeps what it has accepted in two maps which it swaps at
irregular times, and looks at the age of an entry in only one of them.  Over any
sequence of calls whose times do not decrease it answers like a window over
everything it has ever accepted: a nonce is turned away exactly when a call
within the last `ttl` has been let through with it.
-/

namespace DbosRelay.Router

open DbosRelay.Basic
open DbosRelay.Library.GenerationCache

/-! ## Sequences of calls -/

/-- A call of `checkAndRecord`, less its `ttl`. -/
structure NonceCall where
  nonce : Bytes
  now : Time
deriving DecidableEq, Repr

/-- What the calls of a sequence return. -/
def NonceCache.answers (ttl : Duration) : NonceCache → List NonceCall → List Bool
  | _, [] => []
  | cache, call :: calls =>
      let checked := cache.checkAndRecord call.nonce call.now ttl
      checked.1 :: NonceCache.answers ttl checked.2 calls

/--
An earlier call with the nonce of a later one has returned true, and its time is
no further than `ttl` away from that of the later one.
-/
def TakenWithin (ttl : Duration) (elapsed : Time → Time → Duration)
    (calls : List NonceCall) (answers : List Bool) (position : Nat)
    (call : NonceCall) : Prop :=
  ∃ before < position, ∃ earlier, calls[before]? = some earlier ∧
    earlier.nonce = call.nonce ∧ answers[before]? = some true ∧
      elapsed call.now earlier.now ≤ ttl

section Windows

variable {ttl : Duration} {elapsed : Time → Time → Duration}
variable {cache : NonceCache} {first call : NonceCall} {calls : List NonceCall}
variable {answer : Bool} {answers : List Bool} {position : Nat}

theorem not_takenWithin_zero :
    ¬ TakenWithin ttl elapsed calls answers 0 call := by
  rintro ⟨before, impossible, -⟩
  exact Nat.not_lt_zero before impossible

/-- The first call of a sequence, or one of the others. -/
theorem takenWithin_cons :
    TakenWithin ttl elapsed (first :: calls) (answer :: answers) (position + 1)
        call ↔
      (answer = true ∧ first.nonce = call.nonce ∧
          elapsed call.now first.now ≤ ttl) ∨
        TakenWithin ttl elapsed calls answers position call := by
  constructor
  · rintro ⟨before, bound, earlier, found, sameNonce, accepted, near⟩
    cases before with
    | zero =>
        cases found
        cases accepted
        exact Or.inl ⟨rfl, sameNonce, near⟩
    | succ before =>
        exact Or.inr ⟨before, Nat.lt_of_succ_lt_succ bound, earlier, found,
          sameNonce, accepted, near⟩
  · rintro (⟨rfl, sameNonce, near⟩ |
      ⟨before, bound, earlier, found, sameNonce, accepted, near⟩)
    · exact ⟨0, Nat.succ_pos position, first, rfl, sameNonce, rfl, near⟩
    · exact ⟨before + 1, Nat.succ_lt_succ bound, earlier, found, sameNonce,
        accepted, near⟩

/-- Below the greatest `Duration` the subtraction of instants is exact. -/
theorem timeSub_le_iff {time other : Time} (below : ttl < maxInt64)
    (onwards : other ≤ time) : timeSub time other ≤ ttl ↔ time - other ≤ ttl := by
  have forwards : 0 ≤ time - other := Int.sub_nonneg_of_le onwards
  unfold timeSub
  rw [max_le_iff, min_le_iff, or_iff_right (not_le.mpr below)]
  constructor
  · exact And.right
  · refine fun near => ⟨le_trans ?_ (forwards.trans near), near⟩
    decide

/-- At times which do not decrease both measures find the same calls. -/
theorem takenWithin_congr (below : ttl < maxInt64)
    (ordered : (calls.map NonceCall.now).Pairwise (· ≤ ·))
    (placed : calls[position]? = some call) :
    TakenWithin ttl timeSub calls answers position call ↔
      TakenWithin ttl (· - ·) calls answers position call := by
  unfold TakenWithin
  refine exists_congr fun before => and_congr_right fun bound =>
    exists_congr fun earlier => and_congr_right fun found =>
      and_congr_right fun _ => and_congr_right fun _ => ?_
  obtain ⟨isBefore, rfl⟩ := List.getElem?_eq_some_iff.mp found
  obtain ⟨isPlaced, rfl⟩ := List.getElem?_eq_some_iff.mp placed
  have onwards := List.pairwise_iff_getElem.mp (List.pairwise_map.mp ordered)
    before position isBefore isPlaced bound
  exact timeSub_le_iff below onwards

/-- What has been seen after one more call. -/
theorem seen_or_iff {accepted : Bytes → Time → Prop} :
    Generations.Seen (ttlExpiry ttl)
        (fun nonce time => accepted nonce time ∨
          answer = true ∧ nonce = first.nonce ∧ time = first.now)
        call.nonce call.now ↔
      Generations.Seen (ttlExpiry ttl) accepted call.nonce call.now ∨
        (answer = true ∧ first.nonce = call.nonce ∧
          timeSub call.now first.now ≤ ttl) := by
  simp only [Generations.Seen, fresh_ttlExpiry, decide_eq_true_eq]
  constructor
  · rintro ⟨time, accepted | ⟨answered, sameNonce, rfl⟩, near⟩
    · exact Or.inl ⟨time, accepted, near⟩
    · exact Or.inr ⟨answered, sameNonce.symm, near⟩
  · rintro (⟨time, accepted, near⟩ | ⟨answered, sameNonce, near⟩)
    · exact ⟨time, Or.inl accepted, near⟩
    · exact ⟨first.now, Or.inr ⟨answered, sameNonce.symm, rfl⟩, near⟩

/-- The answers of a cache which stands for what has been accepted so far. -/
theorem answers_of_represents {accepted : Bytes → Time → Prop} {last : Time}
    (represents : cache.Represents (ttlExpiry ttl) accepted last)
    (ordered : (last :: calls.map NonceCall.now).Pairwise (· ≤ ·))
    (placed : calls[position]? = some call) :
    (cache.answers ttl calls)[position]? = some true ↔
      ¬ (Generations.Seen (ttlExpiry ttl) accepted call.nonce call.now ∨
        TakenWithin ttl timeSub calls (cache.answers ttl calls) position
          call) := by
  -- The cache after the first call stands for one acceptance more or none.
  induction calls generalizing cache accepted last position with
  | nil => cases placed
  | cons first calls induction =>
      have onwards : last ≤ first.now :=
        List.rel_of_pairwise_cons ordered List.mem_cons_self
      rcases represents.checkAndRecord onwards first.nonce with
        ⟨answered, recorded⟩
      rw [← NonceCache.checkAndRecord_eq] at answered recorded
      cases position with
      | zero =>
          cases placed
          rw [or_iff_left not_takenWithin_zero, ← answered]
          exact Option.some_inj
      | succ position =>
          have rest := induction recorded (List.pairwise_cons.mp ordered).2 placed
          rw [seen_or_iff, or_assoc, ← takenWithin_cons] at rest
          exact rest

end Windows

/--
At any times which do not decrease, a call returns true exactly when no earlier
call with its nonce has returned true at a time at most `ttl` before; with any
`ttl` below the greatest `Duration`, also when the time between the two calls is
measured exactly.
-/
theorem checkAndRecord_window {ttl : Duration} {created : Time}
    {calls : List NonceCall} {position : Nat} {call : NonceCall}
    (ordered : (created :: calls.map NonceCall.now).Pairwise (· ≤ ·))
    (placed : calls[position]? = some call) :
    (((newNonceCache created).answers ttl calls)[position]? = some true ↔
        ¬ TakenWithin ttl timeSub calls
          ((newNonceCache created).answers ttl calls) position call) ∧
      (ttl < maxInt64 →
        (((newNonceCache created).answers ttl calls)[position]? = some true ↔
          ¬ TakenWithin ttl (· - ·) calls
            ((newNonceCache created).answers ttl calls) position call)) := by
  have window :
      ((newNonceCache created).answers ttl calls)[position]? = some true ↔
        ¬ TakenWithin ttl timeSub calls
          ((newNonceCache created).answers ttl calls) position call := by
    have answered := answers_of_represents
      (Generations.represents_empty (ttlExpiry ttl) created) ordered placed
    rwa [or_iff_right (by rintro ⟨time, never, -⟩; exact never)] at answered
  refine ⟨window, fun below => ?_⟩
  rw [window, takenWithin_congr below (List.pairwise_cons.mp ordered).2 placed]

/-- The same nonce three times; at the third time the first is forgotten. -/
def sampleCalls : List NonceCall := [⟨[7], 5⟩, ⟨[7], 15⟩, ⟨[7], 16⟩]

/-- The third call is let through, so the window is empty for it. -/
theorem checkAndRecord_window_sample :
    ¬ TakenWithin 10 timeSub sampleCalls
      ((newNonceCache 0).answers 10 sampleCalls) 2 ⟨[7], 16⟩ :=
  (checkAndRecord_window (by decide) rfl).1.mp (by decide)

end DbosRelay.Router
