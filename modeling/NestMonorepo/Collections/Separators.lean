import Mathlib.Data.List.Basic

/-! # Splitting lists at a separator

A list is split by its first separator in one way only. Without such a bound, two ways to
split a list differ by what one of them moves across.
-/

namespace Collections

variable {α : Type} {first second rest other moved : List α} {separator another : α}

/-- A list has one split at an entry that is in neither part before it: the two separators
meet at the first place where either of them can stand. -/
theorem append_cons_inj (absent : separator ∉ second) (otherAbsent : another ∉ first)
    (same : first ++ separator :: rest = second ++ another :: other) :
    first = second ∧ separator = another ∧ rest = other := by
  induction first generalizing second with
  | nil =>
      cases second with
      | nil =>
          injection same with head tail
          exact ⟨rfl, head, tail⟩
      | cons entry second =>
          injection same with head
          exact (absent (head ▸ List.mem_cons_self)).elim
  | cons entry first ih =>
      cases second with
      | nil =>
          injection same with head
          exact (otherAbsent (head ▸ List.mem_cons_self)).elim
      | cons next second =>
          injection same with head tail
          obtain ⟨parts, separators, rests⟩ := ih
            (fun member => absent (List.mem_cons_of_mem _ member))
            (fun member => otherAbsent (List.mem_cons_of_mem _ member)) tail
          exact ⟨by rw [head, parts], separators, rests⟩

/-- Two splits of a list at a separator are equal, or one moves a separator and what
stands before it across. -/
theorem append_cons_eq_append_cons :
    first ++ separator :: rest = second ++ separator :: other ↔
      (first = second ∧ rest = other) ∨
        (∃ moved, second = first ++ separator :: moved ∧ rest = moved ++ separator :: other) ∨
          ∃ moved, first = second ++ separator :: moved ∧ other = moved ++ separator :: rest := by
  constructor
  · intro same
    rcases List.append_eq_append_iff.mp same with
      ⟨between, longer, rests⟩ | ⟨between, longer, rests⟩
    · cases between with
      | nil =>
          rw [List.append_nil] at longer
          injection rests with _ rests
          exact .inl ⟨longer.symm, rests⟩
      | cons entry moved =>
          injection rests with head rests
          rw [← head] at longer
          exact .inr (.inl ⟨moved, longer, rests⟩)
    · cases between with
      | nil =>
          rw [List.append_nil] at longer
          injection rests with _ rests
          exact .inl ⟨longer, rests.symm⟩
      | cons entry moved =>
          injection rests with head rests
          rw [← head] at longer
          exact .inr (.inr ⟨moved, longer, rests⟩)
  · rintro (⟨rfl, rfl⟩ | ⟨moved, rfl, rfl⟩ | ⟨moved, rfl, rfl⟩)
    · rfl
    · rw [List.append_assoc, List.cons_append]
    · rw [List.append_assoc, List.cons_append]

/-- A list with a separator is a part of one that has it once only with what is around it. -/
theorem suffix_and_prefix_of_infix (absent : separator ∉ second) (otherAbsent : separator ∉ other)
    (found : first ++ separator :: rest <:+: second ++ separator :: other) :
    first <:+ second ∧ rest <+: other := by
  obtain ⟨before, after, same⟩ := found
  have split :
      (before ++ first) ++ separator :: (rest ++ after) = second ++ separator :: other := by
    rw [← same, List.append_assoc, List.append_assoc, List.append_assoc, List.cons_append]
  rcases append_cons_eq_append_cons.mp split with ⟨fronts, backs⟩ | ⟨moved, longer, -⟩ |
    ⟨moved, -, longer⟩
  · exact ⟨⟨before, fronts⟩, ⟨after, backs⟩⟩
  · rw [longer] at absent
    exact (absent (List.mem_append_right _ List.mem_cons_self)).elim
  · rw [longer] at otherAbsent
    exact (otherAbsent (List.mem_append_right _ List.mem_cons_self)).elim

end Collections
