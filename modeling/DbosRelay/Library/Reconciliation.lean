import Mathlib.Data.List.Basic
import Mathlib.Data.List.Count
import Mathlib.Data.List.Forall2

/-!
# Reconciliation by key

Items are gone through one by one, and an item is acted upon only if its key is
not there yet; after that it is.  `missing` are the items acted upon: the first one
of each key which was not there at the start.  `isMissing` says of every item
whether it was.  A plan made beforehand, from the keys at the start alone, says so
of more items, unless those of one key are there already.
-/

namespace DbosRelay.Library.Reconciliation

variable {Item Key : Type*} [DecidableEq Key] {key : Item → Key}
variable {keys : List Key} {items : List Item}

/-- The first items of the keys which are not there. -/
def missing (key : Item → Key) : List Key → List Item → List Item
  | _, [] => []
  | keys, item :: items =>
      if key item ∈ keys then missing key keys items
      else item :: missing key (keys ++ [key item]) items

/-- For each item in turn, whether its key is not there yet. -/
def isMissing (key : Item → Key) : List Key → List Item → List Bool
  | _, [] => []
  | keys, item :: items =>
      if key item ∈ keys then false :: isMissing key keys items
      else true :: isMissing key (keys ++ [key item]) items

/-- For each item, whether its key is not there at the start. -/
def absent (key : Item → Key) (keys : List Key) (items : List Item) :
    List Bool :=
  items.map fun item => decide (key item ∉ keys)

theorem length_isMissing (key : Item → Key) (keys : List Key)
    (items : List Item) : (isMissing key keys items).length = items.length := by
  induction items generalizing keys with
  | nil => rfl
  | cons item items induction =>
      rw [isMissing]
      split_ifs
      · rw [List.length_cons, induction, List.length_cons]
      · rw [List.length_cons, induction, List.length_cons]

theorem missing_eq_nil (present : ∀ item ∈ items, key item ∈ keys) :
    missing key keys items = [] := by
  induction items with
  | nil => rfl
  | cons item items induction =>
      rw [List.forall_mem_cons] at present
      rw [missing, if_pos present.1, induction present.2]

/-- A missing item is the first one of its key. -/
theorem mem_missing {item : Item} :
    item ∈ missing key keys items ↔
      key item ∉ keys ∧
        items.find? (fun other => key other = key item) = some item := by
  induction items generalizing keys with
  | nil => simp [missing]
  | cons first items induction =>
      rw [missing, List.find?_cons]
      by_cases present : key first ∈ keys
      · rw [if_pos present, induction]
        apply and_congr_right
        intro absent
        have other : key first ≠ key item := by
          intro same
          exact absent (same ▸ present)
        simp [other]
      · rw [if_neg present, List.mem_cons, induction]
        by_cases same : key first = key item
        · simp only [same, List.mem_append, List.mem_singleton, or_true,
            not_true, false_and, or_false, decide_true, Option.some_inj]
          rw [← same]
          exact ⟨fun isFirst => ⟨present, isFirst.symm⟩,
            fun isFirst => isFirst.2.symm⟩
        · have differs : item ≠ first := fun isFirst => same (isFirst ▸ rfl)
          simp [differs, same, Ne.symm same]

/-- Every key that was asked for is there in the end. -/
theorem key_mem_missing (key : Item → Key) (keys : List Key) {item : Item}
    (member : item ∈ items) :
    key item ∈ keys ∨ ∃ first ∈ missing key keys items, key first = key item := by
  by_cases present : key item ∈ keys
  · exact .inl present
  · right
    have found : (items.find? fun other => key other = key item).isSome := by
      rw [List.find?_isSome]
      exact ⟨item, member, by simp⟩
    obtain ⟨first, isFirst⟩ := Option.isSome_iff_exists.mp found
    have same : key first = key item := by simpa using List.find?_some isFirst
    refine ⟨first, mem_missing.mpr ⟨?_, ?_⟩, same⟩
    · rwa [same]
    · rwa [same]

/-! ## The plan made beforehand -/

/-- Wherever the first list says yes, the second one does. -/
def Below (lower upper : List Bool) : Prop :=
  List.Forall₂ (fun first second => first = true → second = true) lower upper

theorem isMissing_le (keys start : List Key) (later : start ⊆ keys)
    (items : List Item) :
    Below (isMissing key keys items) (absent key start items) := by
  induction items generalizing keys with
  | nil => exact .nil
  | cons item items induction =>
      rw [isMissing, absent, List.map_cons]
      by_cases present : key item ∈ keys
      · rw [if_pos present]
        exact .cons (fun yes => nomatch yes) (induction keys later)
      · rw [if_neg present]
        have missed : key item ∉ start := fun early => present (later early)
        refine .cons ?_ (induction _ ?_)
        · exact fun _ => decide_eq_true missed
        · exact List.Subset.trans later (List.subset_append_left _ _)

theorem isMissing_eq_iff (keys start : List Key) (later : start ⊆ keys)
    (items : List Item) :
    isMissing key keys items = absent key start items ↔
      (∀ item ∈ items, key item ∈ keys → key item ∈ start) ∧
        items.Pairwise fun first second =>
          key first = key second → key first ∈ start := by
  induction items generalizing keys with
  | nil => simp [isMissing, absent]
  | cons item items induction =>
      rw [isMissing, absent, List.map_cons, ← absent, List.forall_mem_cons,
        List.pairwise_cons]
      by_cases present : key item ∈ keys
      · rw [if_pos present, List.cons.injEq, induction keys later]
        by_cases early : key item ∈ start
        · simp [early, present]
        · simp [early, present]
      · rw [if_neg present, List.cons.injEq,
          induction _ (List.Subset.trans later (List.subset_append_left _ _))]
        have missed : key item ∉ start := fun early => present (later early)
        have separate :
            (∀ other ∈ items, key other ∈ keys ++ [key item] →
                key other ∈ start) ↔
              (∀ other ∈ items, key other ∈ keys → key other ∈ start) ∧
                ∀ other ∈ items, key item = key other → key item ∈ start := by
          constructor
          · intro every
            constructor
            · intro other member there
              exact every other member (List.mem_append_left _ there)
            · intro other member same
              rw [same]
              apply every other member
              simp [same]
          · rintro ⟨every, apart⟩ other member there
            rcases List.mem_append.mp there with there | isLast
            · exact every other member there
            · have same : key other = key item := List.mem_singleton.mp isLast
              rw [same]
              exact apart other member same.symm
        rw [separate]
        simp only [missed, present, not_false_eq_true, decide_true, true_and,
          false_implies]
        tauto

theorem Below.length_eq {lower upper : List Bool} (below : Below lower upper) :
    lower.length = upper.length :=
  List.Forall₂.length_eq below

theorem Below.count_le {lower upper : List Bool} (below : Below lower upper) :
    lower.count true ≤ upper.count true := by
  induction below with
  | nil => exact Nat.le_refl 0
  | @cons first second lower upper implies _ induction =>
      cases first with
      | false =>
          rw [List.count_cons_of_ne (by decide)]
          exact Nat.le_trans induction List.count_le_count_cons
      | true =>
          rw [implies rfl, List.count_cons_self, List.count_cons_self]
          exact Nat.succ_le_succ induction

/-- Of two different lists the lower one says yes less often. -/
theorem Below.eq_of_count_eq {lower upper : List Bool}
    (below : Below lower upper)
    (counts : lower.count true = upper.count true) : lower = upper := by
  induction below with
  | nil => rfl
  | @cons first second lower upper implies rest induction =>
      have restLe := Below.count_le rest
      cases first with
      | false =>
          cases second with
          | false =>
              rw [List.count_cons_of_ne (by decide),
                List.count_cons_of_ne (by decide)] at counts
              rw [induction counts]
          | true =>
              rw [List.count_cons_of_ne (by decide), List.count_cons_self]
                at counts
              omega
      | true =>
          rw [implies rfl, List.count_cons_self, List.count_cons_self] at counts
          rw [implies rfl, induction (Nat.succ.inj counts)]

end DbosRelay.Library.Reconciliation
