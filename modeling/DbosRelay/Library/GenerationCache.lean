import DbosRelay.Library.Tables
import Mathlib.Order.Lattice

/-!
# Two-generation caches

A cache of recently seen keys which forgets in bulk: keys are recorded in a
current generation, which becomes the previous one as soon as it is stale, and
the generation before that is dropped.  Asked at times which never decrease,
such a cache answers exactly like a sliding window over all keys it ever
accepted.  Asked at times which may go back a little, it still accepts a key
once only within the age that it tolerates.
-/

namespace DbosRelay.Library.GenerationCache

open DbosRelay.Library.Tables

/-- A notion of age: what is fresh stays fresh for younger records and earlier times. -/
structure Expiry (Time : Type*) [Preorder Time] where
  fresh : Time → Time → Bool
  mono : ∀ {recorded younger now earlier : Time},
    recorded ≤ younger → earlier ≤ now →
      fresh recorded now = true → fresh younger earlier = true

theorem Expiry.stale {Time : Type*} [Preorder Time] (expiry : Expiry Time)
    {recorded younger now later : Time}
    (older : recorded ≤ younger) (passed : now ≤ later)
    (isStale : expiry.fresh younger now = false) :
    expiry.fresh recorded later = false := by
  by_contra isFresh
  rw [Bool.not_eq_false] at isFresh
  rw [expiry.mono older passed isFresh] at isStale
  cases isStale

/-- The two generations, and when the current one began. -/
structure Generations (Key Time : Type*) where
  current : Table Key Time
  previous : Table Key Time
  lastSwap : Time

variable {Key Time : Type*} [DecidableEq Key] [Preorder Time]

namespace Generations

/-- Begin a new generation when the current one is stale. -/
def rotate (expiry : Expiry Time) (cache : Generations Key Time)
    (now : Time) : Generations Key Time :=
  if expiry.fresh cache.lastSwap now then cache
  else
    { current := ∅
      previous := cache.current
      lastSwap := now }

/-- Accept a key which has not been accepted lately, and record it. -/
def checkAndRecord (expiry : Expiry Time) (cache : Generations Key Time)
    (key : Key) (now : Time) : Bool × Generations Key Time :=
  let cache := cache.rotate expiry now
  if (cache.current.lookup key).isSome then (false, cache)
  else if (cache.previous.lookup key).any (expiry.fresh · now) then
    (false, cache)
  else (true, { cache with current := cache.current.insert key now })

/--
The cache stands for a set of accepted keys with the times of their acceptance,
as of the time `last`.
-/
structure Represents (expiry : Expiry Time) (cache : Generations Key Time)
    (accepted : Key → Time → Prop) (last : Time) : Prop where
  swapped : cache.lastSwap ≤ last
  current : ∀ {key time}, cache.current.lookup key = some time →
    accepted key time ∧ cache.lastSwap ≤ time
  previous : ∀ {key time}, cache.previous.lookup key = some time →
    accepted key time ∧ time ≤ cache.lastSwap
  past : ∀ {key time}, accepted key time → time ≤ last
  covered : ∀ {key time}, accepted key time →
    (∃ later, time ≤ later ∧ cache.current.lookup key = some later) ∨
      (∃ later, time ≤ later ∧ cache.previous.lookup key = some later) ∨
      expiry.fresh time last = false

/-- A key has been accepted within the window which ends `now`. -/
def Seen (expiry : Expiry Time) (accepted : Key → Time → Prop) (key : Key)
    (now : Time) : Prop :=
  ∃ time, accepted key time ∧ expiry.fresh time now = true

variable {expiry : Expiry Time} {cache : Generations Key Time}
variable {accepted : Key → Time → Prop} {last now : Time}

/-- A new cache has accepted nothing. -/
theorem represents_empty (expiry : Expiry Time) (created : Time) :
    (Generations.mk (∅ : Table Key Time) ∅ created).Represents expiry
      (fun _ _ => False) created where
  swapped := le_rfl
  current := by
    intro key time found
    simp at found
  previous := by
    intro key time found
    simp at found
  past := False.elim
  covered := False.elim

theorem Represents.congr {other : Key → Time → Prop}
    (represents : cache.Represents expiry accepted last)
    (same : ∀ key time, accepted key time ↔ other key time) :
    cache.Represents expiry other last := by
  have equal : accepted = other := by
    ext key time
    exact same key time
  rw [← equal]
  exact represents

/-- The passing of time alone changes nothing. -/
theorem Represents.later
    (represents : cache.Represents expiry accepted last)
    (passed : last ≤ now) :
    cache.Represents expiry accepted now where
  swapped := represents.swapped.trans passed
  current := represents.current
  previous := represents.previous
  past := fun isAccepted => (represents.past isAccepted).trans passed
  covered := by
    intro key time isAccepted
    rcases represents.covered isAccepted with inCurrent | inPrevious | stale
    · exact Or.inl inCurrent
    · exact Or.inr (Or.inl inPrevious)
    · exact Or.inr (Or.inr (expiry.stale le_rfl passed stale))

/-- Beginning a new generation drops only what is stale. -/
theorem Represents.rotate
    (represents : cache.Represents expiry accepted last)
    (passed : last ≤ now) :
    (cache.rotate expiry now).Represents expiry accepted now := by
  rw [Generations.rotate]
  split_ifs with fresh
  · exact represents.later passed
  · rw [Bool.not_eq_true] at fresh
    exact
      { swapped := le_rfl
        current := by
          intro key time found
          simp at found
        previous := by
          intro key time found
          rcases represents.current found with ⟨isAccepted, -⟩
          exact ⟨isAccepted, (represents.past isAccepted).trans passed⟩
        past := fun isAccepted => (represents.past isAccepted).trans passed
        covered := by
          intro key time isAccepted
          rcases represents.covered isAccepted with
            inCurrent | ⟨later, older, inPrevious⟩ | stale
          · exact Or.inr (Or.inl inCurrent)
          · -- The dropped generation is older than the stale one.
            rcases represents.previous inPrevious with ⟨-, beforeSwap⟩
            exact Or.inr (Or.inr
              (expiry.stale (older.trans beforeSwap) le_rfl fresh))
          · exact Or.inr (Or.inr (expiry.stale le_rfl passed stale)) }

/-- After a rotation the whole current generation is fresh. -/
theorem Represents.fresh_current
    (represents : cache.Represents expiry accepted last)
    {key : Key} {time : Time}
    (found : (cache.rotate expiry now).current.lookup key = some time) :
    accepted key time ∧ expiry.fresh time now = true := by
  rw [Generations.rotate] at found
  split_ifs at found with fresh
  · rcases represents.current found with ⟨isAccepted, sinceSwap⟩
    exact ⟨isAccepted, expiry.mono sinceSwap le_rfl fresh⟩
  · simp at found

/-- A key which the current generation lacks is recorded there. -/
theorem Represents.record
    (represents : cache.Represents expiry accepted now) {key : Key}
    (absent : cache.current.lookup key = none) :
    ({ cache with current := cache.current.insert key now } :
        Generations Key Time).Represents expiry
      (fun other time => accepted other time ∨ other = key ∧ time = now)
      now where
  swapped := represents.swapped
  current := by
    intro other time found
    rw [lookup_insert_eq] at found
    split_ifs at found with same
    · cases found
      exact ⟨Or.inr ⟨same, rfl⟩, represents.swapped⟩
    · rcases represents.current found with ⟨isAccepted, sinceSwap⟩
      exact ⟨Or.inl isAccepted, sinceSwap⟩
  previous := by
    intro other time found
    rcases represents.previous found with ⟨isAccepted, beforeSwap⟩
    exact ⟨Or.inl isAccepted, beforeSwap⟩
  past := by
    rintro other time (isAccepted | ⟨-, rfl⟩)
    · exact represents.past isAccepted
    · exact le_rfl
  covered := by
    rintro other time (isAccepted | ⟨rfl, rfl⟩)
    · rcases represents.covered isAccepted with
        ⟨later, older, found⟩ | inPrevious | stale
      · refine Or.inl ⟨later, older, ?_⟩
        rw [lookup_insert_eq, if_neg ?_, found]
        rintro rfl
        rw [absent] at found
        cases found
      · exact Or.inr (Or.inl inPrevious)
      · exact Or.inr (Or.inr stale)
    · exact Or.inl ⟨time, le_rfl, by rw [lookup_insert_eq, if_pos rfl]⟩

/--
The cache accepts a key exactly when the sliding window does not show it, and
then stands for one acceptance more.
-/
theorem Represents.checkAndRecord
    (represents : cache.Represents expiry accepted last)
    (passed : last ≤ now) (key : Key) :
    ((cache.checkAndRecord expiry key now).1 = true ↔
      ¬ Seen expiry accepted key now) ∧
    (cache.checkAndRecord expiry key now).2.Represents expiry
      (fun other time => accepted other time ∨
        (cache.checkAndRecord expiry key now).1 = true ∧
          other = key ∧ time = now) now := by
  have rotated := represents.rotate passed
  have freshCurrent : ∀ {time : Time},
      (cache.rotate expiry now).current.lookup key = some time →
        Seen expiry accepted key now :=
    fun found => ⟨_, represents.fresh_current found⟩
  simp only [Generations.checkAndRecord]
  generalize cache.rotate expiry now = turned at rotated freshCurrent
  split_ifs with inCurrent inPrevious
  · rcases Option.isSome_iff_exists.mp inCurrent with ⟨time, found⟩
    simpa [freshCurrent found] using rotated
  · have seen : Seen expiry accepted key now := by
      rcases Option.any_eq_true _ _ |>.mp inPrevious with ⟨time, found, fresh⟩
      exact ⟨time, (rotated.previous found).1, fresh⟩
    simpa [seen] using rotated
  · have unseen : ¬ Seen expiry accepted key now := by
      rintro ⟨time, isAccepted, fresh⟩
      rcases rotated.covered isAccepted with
        ⟨later, -, found⟩ | ⟨later, older, found⟩ | stale
      · exact inCurrent (by rw [found]; rfl)
      · apply inPrevious
        rw [found]
        exact expiry.mono older le_rfl fresh
      · rw [fresh] at stale
        cases stale
    have recorded := rotated.record (Option.not_isSome_iff_eq_none.mp inCurrent)
    exact ⟨by simpa using unseen, by simpa using recorded⟩

/-! ## Accesses with times that go back -/

section Linear

variable {Key Time : Type*} [DecidableEq Key] [LinearOrder Time]
variable {expiry : Expiry Time} {cache : Generations Key Time}
variable {key other : Key} {since now : Time}

/--
The cache refuses the key at every time at which `since` is still fresh: it has
recorded the key at `since` or later, and cannot lose both generations by then.
-/
def Shut (expiry : Expiry Time) (cache : Generations Key Time) (key : Key)
    (since : Time) : Prop :=
  (since < cache.lastSwap ∧
    ((cache.current.lookup key).isSome ∨
      ∃ time, cache.previous.lookup key = some time ∧ since ≤ time)) ∨
  (expiry.fresh cache.lastSwap since = true ∧
    ∃ time, cache.current.lookup key = some time ∧ since ≤ time)

/-- If the cache accepts the key again, it does so at `since` or later. -/
def Watched (expiry : Expiry Time) (cache : Generations Key Time) (key : Key)
    (since : Time) : Prop :=
  since < cache.lastSwap ∨
  (expiry.fresh cache.lastSwap since = true ∧
    ((cache.current.lookup key).isSome ∨
      ∃ time, cache.previous.lookup key = some time ∧
        expiry.fresh time since = true))

/-- A generation which is stale now and was fresh at `since` ends after `since`. -/
theorem since_lt_of_stale {began : Time}
    (wasFresh : expiry.fresh began since = true)
    (stale : ¬ expiry.fresh began now = true) : since < now := by
  by_contra early
  exact stale (expiry.mono le_rfl (not_lt.mp early) wasFresh)

omit [DecidableEq Key] in
/-- Nothing is lost of a generation which began after `since`. -/
theorem rotate_of_since_lt (fresh : expiry.fresh since now = true)
    (later : since < cache.lastSwap) : cache.rotate expiry now = cache := by
  rw [Generations.rotate, if_pos (expiry.mono later.le le_rfl fresh)]

theorem Shut.rotate (shut : cache.Shut expiry key since)
    (fresh : expiry.fresh since now = true) :
    (cache.rotate expiry now).Shut expiry key since := by
  rcases shut with ⟨later, kept⟩ | ⟨wasFresh, time, found, notBefore⟩
  · rw [rotate_of_since_lt fresh later]
    exact Or.inl ⟨later, kept⟩
  · rw [Generations.rotate]
    split_ifs with stillFresh
    · exact Or.inr ⟨wasFresh, time, found, notBefore⟩
    · exact Or.inl ⟨since_lt_of_stale wasFresh stillFresh,
        Or.inr ⟨time, found, notBefore⟩⟩

theorem Watched.rotate (watched : cache.Watched expiry key since)
    (fresh : expiry.fresh since now = true) :
    (cache.rotate expiry now).Watched expiry key since := by
  rcases watched with later | ⟨wasFresh, kept⟩
  · rw [rotate_of_since_lt fresh later]
    exact Or.inl later
  · rw [Generations.rotate]
    split_ifs with stillFresh
    · exact Or.inr ⟨wasFresh, kept⟩
    · exact Or.inl (since_lt_of_stale wasFresh stillFresh)

/-- A key which was looked for in vain is recorded in the current generation. -/
theorem Shut.insert (shut : cache.Shut expiry key since)
    (absent : cache.current.lookup other = none) :
    ({ cache with current := cache.current.insert other now } :
      Generations Key Time).Shut expiry key since := by
  rcases shut with ⟨later, inCurrent | inPrevious⟩ |
    ⟨wasFresh, time, found, notBefore⟩
  · refine Or.inl ⟨later, Or.inl ?_⟩
    rw [lookup_insert_eq]
    split_ifs
    · rfl
    · exact inCurrent
  · exact Or.inl ⟨later, Or.inr inPrevious⟩
  · refine Or.inr ⟨wasFresh, time, ?_, notBefore⟩
    rw [lookup_insert_eq, if_neg, found]
    rintro rfl
    rw [absent] at found
    cases found

theorem Watched.insert (watched : cache.Watched expiry key since) :
    ({ cache with current := cache.current.insert other now } :
      Generations Key Time).Watched expiry key since := by
  rcases watched with later | ⟨wasFresh, inCurrent | inPrevious⟩
  · exact Or.inl later
  · refine Or.inr ⟨wasFresh, Or.inl ?_⟩
    rw [lookup_insert_eq]
    split_ifs
    · rfl
    · exact inCurrent
  · exact Or.inr ⟨wasFresh, Or.inr inPrevious⟩

/-- Whatever is asked in between, a shut cache stays shut. -/
theorem Shut.checkAndRecord (shut : cache.Shut expiry key since)
    (fresh : expiry.fresh since now = true) :
    (cache.checkAndRecord expiry other now).2.Shut expiry key since := by
  have turned := shut.rotate fresh
  simp only [Generations.checkAndRecord]
  split_ifs with inCurrent
  · exact turned
  · exact turned
  · exact turned.insert (Option.not_isSome_iff_eq_none.mp inCurrent)

/-- A shut cache refuses the key. -/
theorem Shut.refuses (shut : cache.Shut expiry key since)
    (fresh : expiry.fresh since now = true) :
    (cache.checkAndRecord expiry key now).1 = false := by
  have turned := shut.rotate fresh
  simp only [Generations.checkAndRecord]
  split_ifs with inCurrent inPrevious
  · rfl
  · rfl
  · exfalso
    rcases turned with ⟨-, found | ⟨time, found, notBefore⟩⟩ | ⟨-, time, found, -⟩
    · exact inCurrent found
    · apply inPrevious
      rw [found]
      exact expiry.mono notBefore le_rfl fresh
    · exact inCurrent (by rw [found]; rfl)

theorem Watched.checkAndRecord (watched : cache.Watched expiry key since)
    (fresh : expiry.fresh since now = true) :
    (cache.checkAndRecord expiry other now).2.Watched expiry key since := by
  have turned := watched.rotate fresh
  simp only [Generations.checkAndRecord]
  split_ifs
  · exact turned
  · exact turned
  · exact turned.insert

/-- What a watched cache accepts, shuts it. -/
theorem Watched.shut (watched : cache.Watched expiry key since)
    (fresh : expiry.fresh since now = true)
    (accepted : (cache.checkAndRecord expiry key now).1 = true) :
    (cache.checkAndRecord expiry key now).2.Shut expiry key since := by
  have turned := watched.rotate fresh
  simp only [Generations.checkAndRecord] at accepted ⊢
  split_ifs at accepted ⊢ with inCurrent inPrevious
  rcases turned with later | ⟨wasFresh, found | ⟨time, found, wasRecent⟩⟩
  · refine Or.inl ⟨later, Or.inl ?_⟩
    rw [lookup_insert_eq, if_pos rfl]
    rfl
  · exact absurd found inCurrent
  · refine Or.inr ⟨wasFresh, now, by rw [lookup_insert_eq, if_pos rfl], ?_⟩
    -- An access before `since` would still have found the record fresh.
    by_contra early
    apply inPrevious
    rw [found]
    exact expiry.mono le_rfl (not_le.mp early).le wasRecent

/-- The first access: the cache is shut if it accepts, and watched if not. -/
theorem shut_or_watched (self : expiry.fresh since since = true) :
    ((cache.checkAndRecord expiry key since).1 = true →
      (cache.checkAndRecord expiry key since).2.Shut expiry key since) ∧
    ((cache.checkAndRecord expiry key since).1 = false →
      (cache.checkAndRecord expiry key since).2.Watched expiry key since) := by
  have recent : expiry.fresh (cache.rotate expiry since).lastSwap since =
      true := by
    rw [Generations.rotate]
    split_ifs with stillFresh
    · exact stillFresh
    · exact self
  simp only [Generations.checkAndRecord]
  split_ifs with inCurrent inPrevious
  · exact ⟨by simp, fun _ => Or.inr ⟨recent, Or.inl inCurrent⟩⟩
  · rcases (Option.any_eq_true _ _).mp inPrevious with ⟨time, found, fresh⟩
    exact ⟨by simp, fun _ => Or.inr ⟨recent, Or.inr ⟨time, found, fresh⟩⟩⟩
  · refine ⟨fun _ => Or.inr ⟨recent, since, ?_, le_rfl⟩, by simp⟩
    rw [lookup_insert_eq, if_pos rfl]

end Linear

end Generations

end DbosRelay.Library.GenerationCache
