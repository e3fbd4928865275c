import Mathlib.Data.List.Forall2

/-!
# Computations that may fail

When a computation in `Except` succeeds: what its parts came to, and what the
loops `foldlM`, `mapM` and `forM` say about each of their rounds.
-/

namespace DbosRelay.Library.Results

variable {Error Failure Value Result : Type} {outcome : Except Error Value}

theorem map_ok_iff {update : Value → Result} {result : Result} :
    outcome.map update = .ok result ↔
      ∃ value, outcome = .ok value ∧ update value = result := by
  cases outcome <;> simp [Except.map]

theorem mapError_ok_iff {wrap : Error → Failure} {value : Value} :
    outcome.mapError wrap = .ok value ↔ outcome = .ok value := by
  cases outcome <;> simp [Except.mapError]

theorem bind_ok_iff {next : Value → Except Error Result} {result : Result} :
    outcome >>= next = .ok result ↔
      ∃ value, outcome = .ok value ∧ next value = .ok result := by
  cases outcome <;> simp [bind, Except.bind]

/-- When a computation fails: in one of its parts. -/
theorem bind_error_iff {next : Value → Except Error Result} {error : Error} :
    outcome >>= next = .error error ↔
      outcome = .error error ∨
        ∃ value, outcome = .ok value ∧ next value = .error error := by
  cases outcome <;> simp [bind, Except.bind]

theorem mapError_error_iff {wrap : Error → Failure} {failure : Failure} :
    outcome.mapError wrap = .error failure ↔
      ∃ error, outcome = .error error ∧ wrap error = failure := by
  cases outcome <;> simp [Except.mapError]

/-- What every round of a loop keeps, the loop keeps. -/
theorem foldlM_invariant {State Item : Type} (invariant : State → Prop)
    {step : State → Item → Except Error State}
    (kept : ∀ state item next, invariant state → step state item = .ok next →
      invariant next)
    {items : List Item} {state last : State} (initially : invariant state)
    (run : items.foldlM step state = .ok last) : invariant last := by
  induction items generalizing state with
  | nil =>
      cases run
      exact initially
  | cons item items induction =>
      rw [List.foldlM_cons, bind_ok_iff] at run
      obtain ⟨next, first, rest⟩ := run
      exact induction (kept state item next initially first) rest

/-- An error of a loop is one of a round. -/
theorem foldlM_error {State Item : Type} {step : State → Item → Except Error State}
    {items : List Item} {state : State} {error : Error}
    (run : items.foldlM step state = .error error) :
    ∃ state item, item ∈ items ∧ step state item = .error error := by
  induction items generalizing state with
  | nil => cases run
  | cons item items induction =>
      rw [List.foldlM_cons] at run
      cases first : step state item with
      | error other =>
          rw [first] at run
          cases run
          exact ⟨state, item, List.mem_cons_self, first⟩
      | ok next =>
          rw [first] at run
          obtain ⟨later, other, member, failed⟩ := induction run
          exact ⟨later, other, List.mem_cons_of_mem _ member, failed⟩

theorem mapM_ok_iff {Item Made : Type} {make : Item → Except Error Made}
    {items : List Item} {made : List Made} :
    items.mapM make = .ok made ↔
      List.Forall₂ (fun item one => make item = .ok one) items made := by
  induction items generalizing made with
  | nil =>
      rw [List.mapM_nil, List.forall₂_nil_left_iff]
      exact ⟨fun same => (Except.ok.inj same).symm, fun same => same ▸ rfl⟩
  | cons item items induction =>
      rw [List.mapM_cons, bind_ok_iff, List.forall₂_cons_left_iff]
      constructor
      · rintro ⟨one, first, rest⟩
        obtain ⟨others, isRest, last⟩ := bind_ok_iff.mp rest
        cases last
        exact ⟨one, others, first, induction.mp isRest, rfl⟩
      · rintro ⟨one, others, first, isRest, rfl⟩
        exact ⟨one, first, bind_ok_iff.mpr ⟨others, induction.mpr isRest, rfl⟩⟩

/-- The results are those of the items. -/
theorem mem_mapM_iff {Item Made : Type} {make : Item → Except Error Made}
    {items : List Item} {made : List Made} (done : items.mapM make = .ok made)
    {one : Made} : one ∈ made ↔ ∃ item ∈ items, make item = .ok one := by
  induction mapM_ok_iff.mp done with
  | nil => simp
  | @cons item first items rest isFirst each induction =>
      rw [List.mem_cons, induction (mapM_ok_iff.mpr each),
        List.exists_mem_cons_iff, isFirst, Except.ok.injEq,
        eq_comm (b := one)]

/-- Every item has its result. -/
theorem exists_of_mapM {Item Made : Type} {make : Item → Except Error Made}
    {items : List Item} {made : List Made} (done : items.mapM make = .ok made)
    {item : Item} (member : item ∈ items) :
    ∃ one ∈ made, make item = .ok one := by
  induction mapM_ok_iff.mp done with
  | nil => cases member
  | @cons head first items rest isFirst each induction =>
      rcases List.mem_cons.mp member with rfl | later
      · exact ⟨first, List.mem_cons_self, isFirst⟩
      · obtain ⟨one, isOne, isMade⟩ :=
          induction (mapM_ok_iff.mpr each) later
        exact ⟨one, List.mem_cons_of_mem _ isOne, isMade⟩

theorem mapM_error {Item Made : Type} {make : Item → Except Error Made}
    {items : List Item} {error : Error}
    (run : items.mapM make = .error error) :
    ∃ item ∈ items, make item = .error error := by
  induction items with
  | nil => cases run
  | cons item items induction =>
      rw [List.mapM_cons] at run
      cases first : make item with
      | error other =>
          rw [first] at run
          cases run
          exact ⟨item, List.mem_cons_self, first⟩
      | ok one =>
          rw [first] at run
          cases rest : items.mapM make with
          | error other =>
              rw [rest] at run
              cases run
              obtain ⟨failing, member, failed⟩ := induction rest
              exact ⟨failing, List.mem_cons_of_mem _ member, failed⟩
          | ok others =>
              rw [rest] at run
              cases run

theorem forM_ok {Item : Type} {items : List Item}
    {action : Item → Except Error Unit} (done : items.forM action = .ok ()) :
    ∀ item ∈ items, action item = .ok () := by
  induction items with
  | nil => simp
  | cons item items induction =>
      obtain ⟨⟨⟩, first, rest⟩ := bind_ok_iff.mp done
      exact List.forall_mem_cons.mpr ⟨first, induction rest⟩

end DbosRelay.Library.Results
