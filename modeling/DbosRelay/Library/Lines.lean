import Mathlib.Data.List.Basic

/-!
# Fields before a text

A text preceded by fields, each of them closed by a separator.  The fields can be
told from the whole if none of them holds the separator; the text after them may
hold it.
-/

namespace DbosRelay.Library.Lines

variable {α : Type*}

/-- The fields, each followed by the separator, and then the rest. -/
def joined (separator : α) (fields : List (List α)) (rest : List α) : List α :=
  fields.foldr (fun field rest => field ++ separator :: rest) rest

variable {separator : α}

/-- The first separator ends the first field. -/
theorem append_cons_inj {field other rest otherRest : List α}
    (free : separator ∉ field) (otherFree : separator ∉ other) :
    field ++ separator :: rest = other ++ separator :: otherRest ↔
      field = other ∧ rest = otherRest := by
  constructor
  · intro same
    induction field generalizing other with
    | nil =>
        cases other with
        | nil => exact ⟨rfl, (List.cons.inj same).2⟩
        | cons first later =>
            have isFirst := (List.cons.inj same).1
            exact absurd (isFirst ▸ List.mem_cons_self) otherFree
    | cons first later induction =>
        cases other with
        | nil =>
            have isFirst := (List.cons.inj same).1
            exact absurd (isFirst ▸ List.mem_cons_self) free
        | cons otherFirst otherLater =>
            obtain ⟨sameFirst, sameLater⟩ := List.cons.inj same
            obtain ⟨fields, rests⟩ := induction
              (fun member => free (List.mem_cons_of_mem first member))
              (fun member =>
                otherFree (List.mem_cons_of_mem otherFirst member)) sameLater
            exact ⟨by rw [sameFirst, fields], rests⟩
  · rintro ⟨rfl, rfl⟩
    rfl

/-- As many fields are told apart as there are. -/
theorem joined_inj {fields others : List (List α)} {rest otherRest : List α}
    (asMany : fields.length = others.length)
    (free : ∀ field ∈ fields, separator ∉ field)
    (otherFree : ∀ field ∈ others, separator ∉ field) :
    joined separator fields rest = joined separator others otherRest ↔
      fields = others ∧ rest = otherRest := by
  induction fields generalizing others with
  | nil =>
      rw [List.length_nil] at asMany
      rw [List.length_eq_zero_iff.mp asMany.symm]
      exact ⟨fun same => ⟨rfl, same⟩, And.right⟩
  | cons field later induction =>
      cases others with
      | nil => cases asMany
      | cons other otherLater =>
          rw [List.forall_mem_cons] at free otherFree
          have rests := induction (Nat.succ.inj asMany) free.2 otherFree.2
          unfold joined at rests ⊢
          rw [List.foldr_cons, List.foldr_cons,
            append_cons_inj free.1 otherFree.1, rests, List.cons.injEq,
            and_assoc]

end DbosRelay.Library.Lines
