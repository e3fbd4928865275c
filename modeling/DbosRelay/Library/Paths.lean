import Mathlib.Data.List.DropRight
import Mathlib.Data.List.Induction

/-!
# Paths and their segments

A path is a text in which a separator stands between the segments.  One
separator is taken off the end, then all of them off both ends, and the rest is
split.  A segment may itself contain separators, since it was decoded before
the path was looked at; what stands before it is found all the same.
-/

namespace DbosRelay.Library.Paths

variable {α : Type*} [DecidableEq α]

/-- Take one separator off the end. -/
def trimSuffix (separator : α) (text : List α) : List α :=
  if text.getLast? = some separator then text.dropLast else text

/-- Take the separators off both ends. -/
def trim (separator : α) (text : List α) : List α :=
  (text.dropWhile (· == separator)).rdropWhile (· == separator)

/-- The segments of a path. -/
def segments (separator : α) (text : List α) : List (List α) :=
  (trim separator (trimSuffix separator text)).splitOn separator

variable {separator : α}

theorem trim_append_separator (text : List α) :
    trim separator (text ++ [separator]) = trim separator text := by
  unfold trim
  rw [List.dropWhile_append]
  split_ifs with allSeparators
  · rw [List.isEmpty_iff.mp allSeparators]
    simp
  · exact List.rdropWhile_concat_pos _ _ _ (beq_self_eq_true separator)

theorem trim_trimSuffix (text : List α) :
    trim separator (trimSuffix separator text) = trim separator text := by
  unfold trimSuffix
  split_ifs with ends
  · obtain ⟨init, rfl⟩ := List.getLast?_eq_some_iff.mp ends
    rw [List.dropLast_concat, trim_append_separator]
  · rfl

/-- What ends with no separator is kept. -/
theorem rdropWhile_append {first : List α} (rest : List α)
    (kept : first.rdropWhile (· == separator) = first) :
    (first ++ rest).rdropWhile (· == separator) =
      first ++ rest.rdropWhile (· == separator) := by
  induction rest using List.reverseRecOn with
  | nil => simpa using kept
  | append_singleton init last induction =>
      rw [← List.append_assoc]
      by_cases isSeparator : (last == separator) = true
      · rw [List.rdropWhile_concat_pos (· == separator) _ last isSeparator,
          List.rdropWhile_concat_pos (· == separator) _ last isSeparator, induction]
      · rw [List.rdropWhile_concat_neg (· == separator) _ last isSeparator,
          List.rdropWhile_concat_neg (· == separator) _ last isSeparator, List.append_assoc]

/-- A segment which is not empty and has no separator in it. -/
def Clean (separator : α) (segment : List α) : Prop :=
  segment ≠ [] ∧ separator ∉ segment

/-- Segments with a separator before each. -/
def join (separator : α) (pieces : List (List α)) : List α :=
  pieces.flatMap fun piece => separator :: piece

omit [DecidableEq α] in
@[simp]
theorem join_nil : join separator ([] : List (List α)) = [] :=
  rfl

omit [DecidableEq α] in
theorem join_cons (piece : List α) (pieces : List (List α)) :
    join separator (piece :: pieces) =
      separator :: (piece ++ join separator pieces) :=
  List.flatMap_cons

omit [DecidableEq α] in
theorem join_append (first second : List (List α)) :
    join separator (first ++ second) =
      join separator first ++ join separator second :=
  List.flatMap_append

theorem splitOn_join {piece : List α} {pieces : List (List α)}
    (clean : ∀ segment ∈ piece :: pieces, Clean separator segment) :
    (piece ++ join separator pieces).splitOn separator = piece :: pieces := by
  induction pieces generalizing piece with
  | nil =>
      rw [join_nil, List.append_nil]
      exact List.splitOn_eq_singleton (clean piece List.mem_cons_self).2
  | cons next pieces induction =>
      rw [join_cons, List.splitOn_append_cons_self_of_not_mem
        (clean piece List.mem_cons_self).2]
      rw [induction fun segment member =>
        clean segment (List.mem_cons_of_mem piece member)]

omit [DecidableEq α] in
theorem getLast_join {piece : List α} {pieces : List (List α)}
    (clean : ∀ segment ∈ piece :: pieces, Clean separator segment)
    (nonempty : piece ++ join separator pieces ≠ []) :
    (piece ++ join separator pieces).getLast nonempty ≠ separator := by
  induction pieces generalizing piece with
  | nil =>
      have absent := (clean piece List.mem_cons_self).2
      intro last
      have member := List.getLast_mem nonempty
      rw [last, join_nil, List.append_nil] at member
      exact absent member
  | cons next pieces induction =>
      have rest : next ++ join separator pieces ≠ [] := by
        have := (clean next (by simp)).1
        simp [this]
      have last := induction (fun segment member =>
        clean segment (List.mem_cons_of_mem piece member)) rest
      simpa only [join_cons, List.getLast_append_of_right_ne_nil _ _
        (List.cons_ne_nil _ _), List.getLast_cons rest] using last

/--
The segments of a path begin with the clean segments it begins with; there are
no others if nothing follows these.
-/
theorem segments_join {pieces : List (List α)} (raw : List (List α))
    (clean : ∀ segment ∈ pieces, Clean separator segment) (some : pieces ≠ []) :
    ∃ more, segments separator (join separator (pieces ++ raw)) =
      pieces ++ more ∧ (raw = [] → more = []) := by
  obtain ⟨piece, pieces, rfl⟩ := List.exists_cons_of_ne_nil some
  have starts : ((piece ++ join separator pieces) ++
      join separator raw).dropWhile (· == separator) =
        (piece ++ join separator pieces) ++ join separator raw := by
    obtain ⟨nonempty, absent⟩ := clean piece List.mem_cons_self
    obtain ⟨head, piece, rfl⟩ := List.exists_cons_of_ne_nil nonempty
    have different : ¬(head == separator) = true := by
      intro same
      exact absent (beq_iff_eq.mp same ▸ List.mem_cons_self)
    simp [different]
  have ends : (piece ++ join separator pieces).rdropWhile (· == separator) =
      piece ++ join separator pieces := by
    rw [List.rdropWhile_eq_self_iff]
    intro nonempty same
    exact getLast_join clean nonempty (beq_iff_eq.mp same)
  have trimmed : trim separator (join separator (piece :: pieces ++ raw)) =
      (piece ++ join separator pieces) ++
        (join separator raw).rdropWhile (· == separator) := by
    have first : ∀ text, (separator :: text).dropWhile (· == separator) =
        text.dropWhile (· == separator) :=
      fun _ => List.dropWhile_cons_of_pos (beq_self_eq_true separator)
    rw [join_append, join_cons, List.cons_append, trim, first, starts,
      rdropWhile_append _ ends]
  unfold segments
  rw [trim_trimSuffix, trimmed]
  -- What is left of the rest is nothing, or begins with a separator.
  cases left : (join separator raw).rdropWhile (· == separator) with
  | nil =>
      refine ⟨[], ?_, fun _ => rfl⟩
      rw [List.append_nil, List.append_nil, splitOn_join clean]
  | cons head rest =>
      cases raw with
      | nil => cases left
      | cons next raw =>
          have begins := List.rdropWhile_prefix (· == separator)
            (l := join separator (next :: raw))
          rw [left, join_cons, List.cons_prefix_cons] at begins
          obtain ⟨rfl, -⟩ := begins
          refine ⟨rest.splitOn head, ?_, nofun⟩
          rw [List.splitOn_append_cons_self, splitOn_join clean]

end DbosRelay.Library.Paths
