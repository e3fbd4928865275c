import Mathlib.Data.List.Infix

/-!
# Searching a text made of parts

A pattern which occurs in two texts one after the other occurs in one of them,
unless it straddles the place where they meet.  It does not if no beginning of it
ends the first text, or if a symbol it does not have stands between the two.
-/

namespace DbosRelay.Library.Searching

variable {α : Type*} {pattern first second : List α}

/-- No beginning of the pattern ends the text. -/
def Guarded (pattern text : List α) : Prop :=
  ∀ start ∈ pattern.inits, start ≠ [] → ¬start <:+ text

instance [DecidableEq α] (pattern text : List α) :
    Decidable (Guarded pattern text) :=
  inferInstanceAs (Decidable (∀ start ∈ pattern.inits, _))

/-- After a guarded text a pattern starts anew. -/
theorem infix_append_iff_of_guarded (guarded : Guarded pattern first) :
    pattern <:+: first ++ second ↔
      pattern <:+: first ∨ pattern <:+: second := by
  rw [List.infix_append_iff]
  constructor
  · rintro (inFirst | inSecond | ⟨start, rest, rfl, ends, starts⟩)
    · exact .inl inFirst
    · exact .inr inSecond
    · by_cases empty : start = []
      · subst empty
        exact .inr starts.isInfix
      · exact absurd ends (guarded start ((List.mem_inits _ _).mpr ⟨rest, rfl⟩) empty)
  · rintro (inFirst | inSecond)
    · exact .inl inFirst
    · exact .inr (.inl inSecond)

/-- A pattern without the separator lies on one side of it. -/
theorem infix_append_cons_iff {separator : α} (foreign : separator ∉ pattern)
    (nonempty : pattern ≠ []) :
    pattern <:+: first ++ separator :: second ↔
      pattern <:+: first ∨ pattern <:+: second := by
  rw [List.infix_append_iff, List.infix_cons_iff]
  have onto : ∀ part, part <:+ pattern → part <+: separator :: second →
      part = [] := by
    intro part suffix starts
    cases part with
    | nil => rfl
    | cons symbol rest =>
        obtain ⟨same, -⟩ := List.cons_prefix_cons.mp starts
        exact absurd (suffix.subset (same ▸ List.mem_cons_self)) foreign
  constructor
  · rintro (inFirst | (starts | inSecond) | ⟨start, rest, rfl, ends, starts⟩)
    · exact .inl inFirst
    · exact absurd (onto pattern List.suffix_rfl starts) nonempty
    · exact .inr inSecond
    · have none := onto rest (List.suffix_append start rest) starts
      subst none
      rw [List.append_nil]
      exact .inl ends.isInfix
  · rintro (inFirst | inSecond)
    · exact .inl inFirst
    · exact .inr (.inl (.inr inSecond))

end DbosRelay.Library.Searching
