import Mathlib.Data.List.Sort

/-! # Working off an ordered backlog

A round takes the first entries of a backlog, a bounded batch. Each of them leaves, or it
comes back in its place with less left of its budget. However the rounds go, the backlog
is empty after as many of them as the budget allows for each batch.
-/

namespace Collections

variable {α : Type}

/-! ## Sorting a part -/

section Sorting

variable (relation : α → α → Prop) [DecidableRel relation]

/-- An entry that comes before all others is inserted in front. -/
theorem orderedInsert_eq_cons {entry : α} {entries : List α}
    (first : ∀ other ∈ entries, relation entry other) :
    entries.orderedInsert relation entry = entry :: entries := by
  cases entries with
  | nil => rfl
  | cons head rest => rw [List.orderedInsert_cons, if_pos (first head List.mem_cons_self)]

/-- Inserting in order and filtering may be exchanged where the entries were in order. The
induction is on the entries. -/
theorem filter_orderedInsert [IsTrans α relation] (keep : α → Bool) (entry : α) {entries : List α}
    (sorted : entries.Pairwise relation) : (entries.orderedInsert relation entry).filter keep =
      if keep entry then (entries.filter keep).orderedInsert relation entry
      else entries.filter keep := by
  induction entries with
  | nil =>
      rw [List.orderedInsert_nil, List.filter_cons]
      rfl
  | cons head rest ih =>
      obtain ⟨least, sorted⟩ := List.pairwise_cons.mp sorted
      by_cases before : relation entry head
      · have first : ∀ other ∈ (head :: rest).filter keep, relation entry other := by
          intro other member
          rcases List.mem_cons.mp (List.mem_of_mem_filter member) with rfl | inside
          · exact before
          · exact IsTrans.trans entry head other before (least other inside)
        rw [List.orderedInsert_cons, if_pos before, List.filter_cons,
          orderedInsert_eq_cons relation first]
      · rw [List.orderedInsert_cons, if_neg before, List.filter_cons, ih sorted, List.filter_cons]
        by_cases kept : keep head = true
        · rw [if_pos kept, if_pos kept, List.orderedInsert_cons, if_neg before]
          split <;> rfl
        · rw [if_neg kept, if_neg kept]

/-- What is kept of a sorted list is sorted as if nothing else had been there. -/
theorem filter_insertionSort [Std.Total relation] [IsTrans α relation] (keep : α → Bool)
    (entries : List α) : (entries.insertionSort relation).filter keep =
      (entries.filter keep).insertionSort relation := by
  induction entries with
  | nil => rfl
  | cons entry rest ih =>
      rw [List.insertionSort_cons, filter_orderedInsert relation keep entry
        (List.pairwise_insertionSort relation rest), ih, List.filter_cons]
      split
      · rw [List.insertionSort_cons]
      · rfl

end Sorting

/-! ## Rounds -/

/-- One round: the entries of the batch that come back have less left, the others stay. -/
def Round (limit : Nat) (left : α → Nat) (before after : List α) : Prop :=
  ∃ fate : α → Option α, (∀ entry ∈ before.take limit, ∀ back, fate entry = some back →
      0 < left back ∧ left back < left entry) ∧
    after = (before.take limit).filterMap fate ++ before.drop limit

section Rounds

variable {limit budget : Nat} {left : α → Nat} {before after : List α} {rounds : Nat → List α}

/-- The backlog is a front of one batch with at most `spare` left to each entry, and a
rest of bounded length. -/
def Fronted (limit : Nat) (left : α → Nat) (spare rest : Nat) (backlog : List α) : Prop :=
  ∃ front back, backlog = front ++ back ∧ front.length ≤ limit ∧ back.length ≤ rest ∧
    ∀ entry ∈ front, left entry ≤ spare

/-- Every entry has something left, within the budget. -/
def Budgeted (left : α → Nat) (budget : Nat) (backlog : List α) : Prop :=
  ∀ entry ∈ backlog, 0 < left entry ∧ left entry ≤ budget

/-- A round spends of the budgets and leaves what is still to be spent within them. -/
theorem Budgeted.round (budgeted : Budgeted left budget before)
    (round : Round limit left before after) : Budgeted left budget after := by
  obtain ⟨fate, falls, rfl⟩ := round
  intro entry member
  rcases List.mem_append.mp member with back | rest
  · obtain ⟨old, batch, same⟩ := List.mem_filterMap.mp back
    have fell := falls old batch entry same
    have bound := (budgeted old (List.mem_of_mem_take batch)).2
    omega
  · exact budgeted entry (List.mem_of_mem_drop rest)

/-- A round takes something from every entry of the front. -/
theorem Fronted.round {spare rest : Nat} (fronted : Fronted limit left (spare + 1) rest before)
    (round : Round limit left before after) : Fronted limit left spare rest after := by
  obtain ⟨fate, falls, rfl⟩ := round
  obtain ⟨front, back, rfl, short, bounded, spared⟩ := fronted
  have batch : (front ++ back).take limit = front ++ back.take (limit - front.length) := by
    rw [List.take_append, List.take_of_length_le short]
  have remaining : (front ++ back).drop limit = back.drop (limit - front.length) := by
    rw [List.drop_append, List.drop_of_length_le short, List.nil_append]
  rw [batch] at falls
  rw [batch, remaining, List.filterMap_append, List.append_assoc]
  refine ⟨_, _, rfl, ?_, ?_, ?_⟩
  · exact Nat.le_trans (List.length_filterMap_le _ _) short
  · have fewer := List.length_filterMap_le fate (back.take (limit - front.length))
    have parts := congrArg List.length (List.take_append_drop (limit - front.length) back)
    rw [List.length_append] at parts ⊢
    omega
  · intro entry member
    obtain ⟨old, present, same⟩ := List.mem_filterMap.mp member
    have fell := (falls old (List.mem_append_left _ present) entry same).2
    have before := spared old present
    omega

section Runs

variable (steps : ∀ count, Round limit left (rounds count) (rounds (count + 1)))
include steps

/-- So do any number of rounds. -/
theorem Budgeted.run (budgeted : Budgeted left budget (rounds 0)) (count : Nat) :
    Budgeted left budget (rounds count) := by
  induction count with
  | zero => exact budgeted
  | succ count ih => exact ih.round (steps count)

/-- A backlog is shorter by a whole batch after as many rounds as the budget of an entry
allows: by then everything in the first batch has spent its budget. -/
theorem length_after_budget (budgeted : Budgeted left budget (rounds 0)) :
    (rounds budget).length ≤ (rounds 0).length - limit := by
  have fronted : ∀ count ≤ budget, Fronted limit left (budget - count)
      ((rounds 0).length - limit) (rounds count) := by
    intro count within
    induction count with
    | zero =>
        refine ⟨(rounds 0).take limit, (rounds 0).drop limit, ?_, ?_, ?_, ?_⟩
        · rw [List.take_append_drop]
        · exact List.length_take_le _ _
        · rw [List.length_drop]
        · exact fun entry member => (budgeted entry (List.mem_of_mem_take member)).2
    | succ count ih =>
        apply Fronted.round _ (steps count)
        have fewer : budget - (count + 1) + 1 = budget - count := by omega
        rw [fewer]
        exact ih (by omega)
  obtain ⟨front, back, parts, _, bounded, spent⟩ := fronted budget (Nat.le_refl _)
  have none : front = [] := by
    apply List.eq_nil_iff_forall_not_mem.mpr
    intro entry member
    have left := (budgeted.run steps budget entry (parts ▸ List.mem_append_left _ member)).1
    have nothing := spent entry member
    omega
  rw [parts, none, List.nil_append]
  exact bounded

omit steps in
/-- A backlog of so many batches is worked off. -/
theorem drained (batches : Nat) : ∀ rounds : Nat → List α,
    (∀ count, Round limit left (rounds count) (rounds (count + 1))) →
    Budgeted left budget (rounds 0) → (rounds 0).length ≤ batches * limit →
      rounds (budget * batches) = [] := by
  induction batches with
  | zero =>
      intro rounds _ _ short
      apply List.eq_nil_of_length_eq_zero
      simpa using short
  | succ batches ih =>
      intro rounds steps budgeted short
      have shorter := length_after_budget steps budgeted
      rw [Nat.succ_mul] at short
      rw [Nat.mul_succ, Nat.add_comm]
      have later : ∀ count, Round limit left (rounds (budget + count))
          (rounds (budget + (count + 1))) := fun count => steps (budget + count)
      refine ih _ later (budgeted.run steps budget) ?_
      rw [Nat.add_zero]
      omega

end Runs

end Rounds

end Collections
