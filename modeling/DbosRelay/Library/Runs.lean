import Mathlib.Logic.Basic
import Mathlib.Data.List.Basic
import Mathlib.Data.List.Induction

/-!
# Runs of partial step functions

A system is given by an executable step function `step : State → Label → Option State`
in which every label resolves all nondeterminism of one atomic step.  This module
supplies the runs of such a system, the runs all of whose steps meet a side
condition, and the invariant rule which every safety theorem of the
development goes through.

A side condition is a relation between the state a step is taken from and the
label of that step.  It never mentions the state the step leads to.
-/

namespace DbosRelay.Library.Runs

variable {State Label : Type*}

/-- Run a partial step function along a list of labels. -/
def run (step : State → Label → Option State) :
    State → List Label → Option State
  | state, [] => some state
  | state, label :: labels =>
      (step state label).bind fun next => run step next labels

@[simp]
theorem run_nil
    (step : State → Label → Option State) (state : State) :
    run step state [] = some state :=
  rfl

theorem run_cons_eq_some
    {step : State → Label → Option State}
    {source target : State} {label : Label} {labels : List Label} :
    run step source (label :: labels) = some target ↔
      ∃ middle, step source label = some middle ∧
        run step middle labels = some target := by
  simp [run, Option.bind_eq_some_iff]

/-- Splitting a run at any position. -/
theorem run_append_eq_some
    {step : State → Label → Option State}
    {source target : State} {first second : List Label} :
    run step source (first ++ second) = some target ↔
      ∃ middle, run step source first = some middle ∧
        run step middle second = some target := by
  induction first generalizing source with
  | nil =>
      simp
  | cons label labels induction =>
      rw [List.cons_append, run_cons_eq_some]
      constructor
      · rintro ⟨next, taken, rest⟩
        obtain ⟨middle, labelsRun, secondRun⟩ := induction.mp rest
        exact ⟨middle, run_cons_eq_some.mpr ⟨next, taken, labelsRun⟩, secondRun⟩
      · rintro ⟨middle, firstRun, secondRun⟩
        obtain ⟨next, taken, labelsRun⟩ := run_cons_eq_some.mp firstRun
        exact ⟨next, taken, induction.mpr ⟨middle, labelsRun, secondRun⟩⟩

/--
A run each step of which meets the side condition `meets` in the state the
step is taken from.
-/
inductive GuardedRun
    (step : State → Label → Option State)
    (meets : State → Label → Prop) :
    State → List Label → State → Prop where
  | nil (state : State) :
      GuardedRun step meets state [] state
  | cons {source middle target : State} {label : Label} {labels : List Label}
      (allowed : meets source label)
      (taken : step source label = some middle)
      (rest : GuardedRun step meets middle labels target) :
      GuardedRun step meets source (label :: labels) target

namespace GuardedRun

variable {step : State → Label → Option State}
variable {meets : State → Label → Prop}
variable {source middle target : State}
variable {first second labels : List Label}

/-- A guarded run is a run. -/
theorem run_eq
    (guarded : GuardedRun step meets source labels target) :
    run step source labels = some target := by
  induction guarded with
  | nil state => rfl
  | cons allowed taken rest induction =>
      exact run_cons_eq_some.mpr ⟨_, taken, induction⟩

/-- Splitting a guarded run at any position. -/
theorem split
    (guarded : GuardedRun step meets source (first ++ second) target) :
    ∃ middle, GuardedRun step meets source first middle ∧
      GuardedRun step meets middle second target := by
  induction first generalizing source with
  | nil =>
      exact ⟨source, .nil source, guarded⟩
  | cons label labels induction =>
      cases guarded with
      | cons allowed taken rest =>
          obtain ⟨middle, labelsRun, secondRun⟩ := induction rest
          exact ⟨middle, .cons allowed taken labelsRun, secondRun⟩

/--
The invariant rule: what every allowed step preserves, a guarded run preserves.
-/
theorem invariant (holds : State → Prop)
    (preserved : ∀ {before after : State} {label : Label},
      meets before label → step before label = some after →
        holds before → holds after)
    (guarded : GuardedRun step meets source labels target)
    (initially : holds source) :
    holds target := by
  induction guarded with
  | nil state => exact initially
  | cons allowed taken rest induction =>
      exact induction (preserved allowed taken initially)

/-- A run meets every side condition which its own one and an invariant ensure. -/
theorem strengthen {meets' : State → Label → Prop} (holds : State → Prop)
    (preserved : ∀ {before after : State} {label : Label},
      meets before label → step before label = some after →
        holds before → holds after)
    (ensures : ∀ {before : State} {label : Label},
      meets before label → holds before → meets' before label)
    (guarded : GuardedRun step meets source labels target)
    (initially : holds source) :
    GuardedRun step meets' source labels target := by
  induction guarded with
  | nil state => exact .nil state
  | cons allowed taken rest induction =>
      exact .cons (ensures allowed initially) taken
        (induction (preserved allowed taken initially))

/--
A run meets a side condition unless it has come to a state from which there is
no way back, if every step which does not meet it leads to such a state.
-/
theorem meets_or_doomed {meets' : State → Label → Prop} (good doomed : State → Prop)
    (kept : ∀ {before after : State} {label : Label},
      meets before label → meets' before label →
        step before label = some after → good before → good after)
    (spoiled : ∀ {before after : State} {label : Label},
      meets before label → ¬ meets' before label →
        step before label = some after → good before → doomed after)
    (stays : ∀ {before after : State} {label : Label},
      meets before label → step before label = some after →
        doomed before → doomed after)
    (guarded : GuardedRun step meets source labels target)
    (initially : good source) :
    GuardedRun step meets' source labels target ∨ doomed target := by
  induction guarded with
  | nil state => exact Or.inl (.nil state)
  | @cons before after target label labels allowed taken rest induction =>
      by_cases met : meets' before label
      · rcases induction (kept allowed met taken initially) with run | lost
        · exact Or.inl (.cons met taken run)
        · exact Or.inr lost
      · exact Or.inr (rest.invariant doomed stays
          (spoiled allowed met taken initially))

/-- A property of all labels of a guarded run may be added to its side condition. -/
theorem restrict {within : Label → Prop}
    (guarded : GuardedRun step meets source labels target)
    (all : ∀ label ∈ labels, within label) :
    GuardedRun step (fun state label => meets state label ∧ within label)
      source labels target := by
  induction guarded with
  | nil state => exact .nil state
  | cons allowed taken rest induction =>
      rw [List.forall_mem_cons] at all
      exact .cons ⟨allowed, all.1⟩ taken (induction all.2)

/-- The part of a guarded run after the state a position reaches. -/
theorem from_position
    (guarded : GuardedRun step meets source (first ++ second) target)
    (reaches : run step source first = some middle) :
    GuardedRun step meets source first middle ∧
      GuardedRun step meets middle second target := by
  rcases guarded.split with ⟨state, firstRun, secondRun⟩
  have same : state = middle := by
    have sameRun := firstRun.run_eq
    rw [reaches] at sameRun
    exact (Option.some.inj sameRun).symm
  subst same
  exact ⟨firstRun, secondRun⟩

/--
At every position of a guarded run the invariant holds, and the step taken
there is an allowed one.
-/
theorem at_position (holds : State → Prop)
    (preserved : ∀ {before after : State} {label : Label},
      meets before label → step before label = some after →
        holds before → holds after)
    {label : Label} {before : State}
    (guarded : GuardedRun step meets source (first ++ label :: second) target)
    (initially : holds source)
    (reaches : run step source first = some before) :
    holds before ∧ meets before label ∧
      ∃ after, step before label = some after := by
  rcases guarded.from_position reaches with ⟨firstRun, secondRun⟩
  cases secondRun with
  | cons allowed taken rest =>
      exact ⟨firstRun.invariant holds preserved initially, allowed, _, taken⟩

end GuardedRun

/-- Without a side condition guarded runs are exactly the runs. -/
theorem guardedRun_true_iff
    {step : State → Label → Option State}
    {source target : State} {labels : List Label} :
    GuardedRun step (fun _ _ => True) source labels target ↔
      run step source labels = some target := by
  constructor
  · exact GuardedRun.run_eq
  · intro taken
    induction labels generalizing source with
    | nil =>
        cases taken
        exact .nil _
    | cons label labels induction =>
        obtain ⟨middle, stepTaken, rest⟩ := run_cons_eq_some.mp taken
        exact .cons trivial stepTaken (induction rest)

/-- The invariant rule for runs without a side condition. -/
theorem run_invariant
    {step : State → Label → Option State}
    {source target : State} {labels : List Label}
    (holds : State → Prop)
    (preserved : ∀ {before after : State} {label : Label},
      step before label = some after → holds before → holds after)
    (taken : run step source labels = some target)
    (initially : holds source) :
    holds target :=
  (guardedRun_true_iff.mpr taken).invariant holds
    (fun _ stepTaken before => preserved stepTaken before) initially

/-- The invariant rule for runs all of whose labels have a property. -/
theorem run_invariant_within
    {step : State → Label → Option State}
    {source target : State} {labels : List Label} {within : Label → Prop}
    (holds : State → Prop)
    (preserved : ∀ {before after : State} {label : Label},
      within label → step before label = some after →
        holds before → holds after)
    (all : ∀ label ∈ labels, within label)
    (taken : run step source labels = some target)
    (initially : holds source) :
    holds target :=
  ((guardedRun_true_iff.mpr taken).restrict all).invariant holds
    (fun allowed => preserved allowed.2) initially

/-- The invariant rule for properties which also speak of the labels so far. -/
theorem run_history
    {step : State → Label → Option State}
    {source target : State} {labels : List Label}
    (holds : List Label → State → Prop)
    (preserved : ∀ {earlier : List Label} {before after : State} {label : Label},
      run step source earlier = some before → step before label = some after →
        holds earlier before → holds (earlier ++ [label]) after)
    (taken : run step source labels = some target)
    (initially : holds [] source) :
    holds labels target := by
  induction labels using List.reverseRecOn generalizing target with
  | nil =>
      cases taken
      exact initially
  | append_singleton earlier label induction =>
      obtain ⟨middle, toMiddle, last⟩ := run_append_eq_some.mp taken
      obtain ⟨next, stepTaken, ended⟩ := run_cons_eq_some.mp last
      cases ended
      exact preserved toMiddle stepTaken (induction toMiddle)

/-- What has happened, with what has not happened since, after one more label. -/
theorem exists_since_append_singleton {happens remains : Label → Prop}
    {labels : List Label} {label : Label} :
    (∃ earlier event later, labels ++ [label] = earlier ++ event :: later ∧
        happens event ∧ ∀ next ∈ later, remains next) ↔
      happens label ∨
        (remains label ∧ ∃ earlier event later,
          labels = earlier ++ event :: later ∧ happens event ∧
            ∀ next ∈ later, remains next) := by
  constructor
  · rintro ⟨earlier, event, later, split, happened, since⟩
    rcases List.eq_nil_or_concat later with rfl | ⟨before, last, rfl⟩
    · left
      have same := List.append_inj' split rfl
      rw [(List.cons.inj same.2).1]
      exact happened
    · right
      have whole : labels ++ [label] =
          (earlier ++ event :: before) ++ [last] := by
        simpa using split
      have same := List.append_inj' whole rfl
      rw [List.concat_eq_append] at since
      rw [(List.cons.inj same.2).1]
      exact ⟨since last (by simp), earlier, event, before, same.1, happened,
        fun next member => since next (by simp [member])⟩
  · rintro (happened | ⟨remained, earlier, event, later, rfl, happened, since⟩)
    · exact ⟨labels, label, [], rfl, happened, by simp⟩
    · refine ⟨earlier, event, later ++ [label], by simp, happened, ?_⟩
      intro next member
      rcases List.mem_append.mp member with inLater | isLast
      · exact since next inLater
      · rw [List.mem_singleton.mp isLast]
        exact remained

/-- What is seen of the steps of a run, in their order. -/
def observed {Seen : Type*} (step : State → Label → Option State)
    (observe : State → Label → Option Seen) :
    State → List Label → List Seen
  | _, [] => []
  | state, label :: labels =>
      (observe state label).toList ++
        match step state label with
        | none => []
        | some next => observed step observe next labels

@[simp]
theorem observed_nil {Seen : Type*} (step : State → Label → Option State)
    (observe : State → Label → Option Seen) (state : State) :
    observed step observe state [] = [] :=
  rfl

/-- What is seen of a run, and of its continuation. -/
theorem observed_append {Seen : Type*}
    {step : State → Label → Option State}
    {observe : State → Label → Option Seen}
    {source middle : State} {first second : List Label}
    (reaches : run step source first = some middle) :
    observed step observe source (first ++ second) =
      observed step observe source first ++
        observed step observe middle second := by
  induction first generalizing source with
  | nil =>
      cases reaches
      rfl
  | cons label labels induction =>
      rcases run_cons_eq_some.mp reaches with ⟨next, taken, rest⟩
      simp only [List.cons_append, observed, taken, induction rest,
        List.append_assoc]

/-- The last step of a run is seen last. -/
theorem observed_append_singleton {Seen : Type*}
    {step : State → Label → Option State}
    {observe : State → Label → Option Seen}
    {source middle : State} {labels : List Label} {label : Label}
    (reaches : run step source labels = some middle) :
    observed step observe source (labels ++ [label]) =
      observed step observe source labels ++
        (observe middle label).toList := by
  rw [observed_append reaches, observed]
  cases step middle label <;> simp

/-- What is seen of a run is seen at one of its positions. -/
theorem exists_of_mem_observed {Seen : Type*}
    {step : State → Label → Option State}
    {observe : State → Label → Option Seen} {seen : Seen}
    {source : State} {labels : List Label}
    (member : seen ∈ observed step observe source labels) :
    ∃ earlier label later before, labels = earlier ++ label :: later ∧
      run step source earlier = some before ∧
      observe before label = some seen := by
  induction labels generalizing source with
  | nil => cases member
  | cons label labels induction =>
      rw [observed, List.mem_append, Option.mem_toList] at member
      rcases member with here | later
      · exact ⟨[], label, labels, source, rfl, rfl, here⟩
      · cases taken : step source label with
        | none =>
            rw [taken] at later
            cases later
        | some next =>
            rw [taken] at later
            rcases induction later with
              ⟨earlier, position, rest, before, rfl, reaches, sees⟩
            exact ⟨label :: earlier, position, rest, before, rfl,
              run_cons_eq_some.mpr ⟨next, taken, reaches⟩, sees⟩

/--
A part of a system runs along the labels it sees, if the steps with other labels
leave it as it is.
-/
theorem run_filterMap {Inner InnerLabel : Type*}
    {step : State → Label → Option State}
    {inner : Inner → InnerLabel → Option Inner}
    (part : State → Inner) (sees : Label → Option InnerLabel)
    (unseen : ∀ {before after : State} {label : Label},
      step before label = some after → sees label = none →
        part after = part before)
    (seen : ∀ {before after : State} {label : Label} {own : InnerLabel},
      step before label = some after → sees label = some own →
        inner (part before) own = some (part after))
    {source target : State} {labels : List Label}
    (taken : run step source labels = some target) :
    run inner (part source) (labels.filterMap sees) = some (part target) := by
  induction labels generalizing source with
  | nil =>
      cases taken
      rfl
  | cons label labels induction =>
      rcases run_cons_eq_some.mp taken with ⟨next, first, rest⟩
      cases own : sees label with
      | none =>
          rw [List.filterMap_cons_none own, ← unseen first own]
          exact induction rest
      | some innerLabel =>
          rw [List.filterMap_cons_some own]
          exact run_cons_eq_some.mpr ⟨_, seen first own, induction rest⟩

/-- What is seen of a part of a system is what is seen of its own run. -/
theorem observed_filterMap {Inner InnerLabel Seen : Type*}
    {step : State → Label → Option State}
    {inner : Inner → InnerLabel → Option Inner}
    {observe : State → Label → Option Seen}
    {innerObserve : Inner → InnerLabel → Option Seen}
    (part : State → Inner) (sees : Label → Option InnerLabel)
    (unseen : ∀ {before : State} {label : Label}, sees label = none →
      observe before label = none ∧
        ∀ after, step before label = some after → part after = part before)
    (seen : ∀ {before : State} {label : Label} {own : InnerLabel},
      sees label = some own →
        observe before label = innerObserve (part before) own ∧
          ∀ after, step before label = some after →
            inner (part before) own = some (part after))
    {source target : State} {labels : List Label}
    (taken : run step source labels = some target) :
    observed step observe source labels =
      observed inner innerObserve (part source) (labels.filterMap sees) := by
  induction labels generalizing source with
  | nil => rfl
  | cons label labels induction =>
      rcases run_cons_eq_some.mp taken with ⟨next, first, rest⟩
      cases own : sees label with
      | none =>
          rw [observed, first, List.filterMap_cons_none own, (unseen own).1,
            ← (unseen own).2 next first]
          exact induction rest
      | some innerLabel =>
          rw [observed, first, List.filterMap_cons_some own, observed,
            (seen own).2 next first, (seen own).1]
          exact congrArg _ (induction rest)

/-- Who sees less of each step sees less of the run. -/
theorem observed_sublist {Seen : Type*}
    {step : State → Label → Option State}
    {observe other : State → Label → Option Seen}
    (less : ∀ state label, observe state label = none ∨
      observe state label = other state label)
    (source : State) (labels : List Label) :
    (observed step observe source labels).Sublist
      (observed step other source labels) := by
  induction labels generalizing source with
  | nil => exact List.Sublist.refl _
  | cons label labels induction =>
      have head : (observe source label).toList.Sublist
          (other source label).toList := by
        rcases less source label with isNone | same
        · rw [isNone]
          exact List.nil_sublist _
        · rw [same]
      rw [observed, observed]
      cases step source label with
      | none => exact head.append (List.Sublist.refl _)
      | some next => exact head.append (induction next)

/-- Execute a run, stopping at the first step the side condition refuses. -/
def runGuarded
    (step : State → Label → Option State)
    (meets : State → Label → Prop)
    [decidable : ∀ state label, Decidable (meets state label)] :
    State → List Label → Option State
  | state, [] => some state
  | state, label :: labels =>
      if meets state label then
        (step state label).bind fun next => runGuarded step meets next labels
      else
        none

/-- What the guarded executor reaches, a guarded run reaches. -/
theorem guardedRun_of_runGuarded
    {step : State → Label → Option State}
    {meets : State → Label → Prop}
    [∀ state label, Decidable (meets state label)]
    {source target : State} {labels : List Label}
    (taken : runGuarded step meets source labels = some target) :
    GuardedRun step meets source labels target := by
  induction labels generalizing source with
  | nil =>
      cases taken
      exact .nil _
  | cons label labels induction =>
      rw [runGuarded] at taken
      split_ifs at taken with allowed
      obtain ⟨middle, stepTaken, rest⟩ := Option.bind_eq_some_iff.mp taken
      exact .cons allowed stepTaken (induction rest)

end DbosRelay.Library.Runs
