import Mathlib.Data.List.Basic
import Mathlib.Tactic.TypeStar

/-! # Working through a list with a journal

The entries are taken in order. Each is started and, if it succeeds, recorded under its
key; the first that does not succeed ends the round. So whatever stands before a started
entry has been recorded by then.
-/

namespace Collections

variable {α κ : Type*}

/-- One line of the journal. -/
inductive Note (α κ : Type*) where
  | started (entry : α)
  | recorded (key : κ)
  deriving DecidableEq, Repr

section Rounds

variable (key : α → κ) (succeeds : α → Bool)

/-- The journal of one round. -/
def journal : List α → List (Note α κ)
  | [] => []
  | entry :: rest =>
      if succeeds entry then .started entry :: .recorded (key entry) :: journal rest
      else [.started entry]

variable {key succeeds} {work : List α}

/-- What stands before a started entry has succeeded and is recorded. The induction is on
the work, whose first failure ends the journal. -/
theorem journal_split {before after : List (Note α κ)} {entry : α}
    (split : journal key succeeds work = before ++ .started entry :: after) :
    ∃ done rest, work = done ++ entry :: rest ∧
      before = done.flatMap fun other => [.started other, .recorded (key other)] := by
  induction work generalizing before with
  | nil => exact (List.append_ne_nil_of_right_ne_nil _ (List.cons_ne_nil _ _) split.symm).elim
  | cons head tail ih =>
      rw [journal] at split
      cases holds : succeeds head with
      | false =>
          rw [holds, if_neg Bool.false_ne_true] at split
          cases before with
          | nil =>
              simp only [List.nil_append, List.cons.injEq, Note.started.injEq] at split
              exact ⟨[], tail, by rw [split.1, List.nil_append], rfl⟩
          | cons note before => simp at split
      | true =>
          rw [holds, if_pos rfl] at split
          match before with
          | [] =>
              simp only [List.nil_append, List.cons.injEq, Note.started.injEq] at split
              exact ⟨[], tail, by rw [split.1, List.nil_append], rfl⟩
          | [note] => simp at split
          | first :: second :: before =>
              simp only [List.cons_append, List.cons.injEq] at split
              obtain ⟨rfl, rfl, split⟩ := split
              obtain ⟨done, rest, rfl, rfl⟩ := ih split
              exact ⟨head :: done, rest, rfl, rfl⟩

/-- What was started is part of the work. -/
theorem mem_of_started {entry : α} (started : .started entry ∈ journal key succeeds work) :
    entry ∈ work := by
  obtain ⟨before, after, split⟩ := List.append_of_mem started
  obtain ⟨done, rest, rfl, -⟩ := journal_split split
  exact List.mem_append_right _ List.mem_cons_self

/-- Recorded are the entries before the first one that fails. -/
theorem recorded_iff {name : κ} : .recorded name ∈ journal key succeeds work ↔
    ∃ entry ∈ work.takeWhile succeeds, key entry = name := by
  induction work with
  | nil => simp only [journal, List.not_mem_nil, List.takeWhile_nil, false_and, exists_false]
  | cons head tail ih =>
      cases holds : succeeds head with
      | false =>
          simp only [journal, holds, Bool.false_eq_true, ↓reduceIte, List.mem_singleton,
            reduceCtorEq, List.takeWhile_cons, List.not_mem_nil, false_and, exists_false]
      | true =>
          simp only [journal, holds, ↓reduceIte, List.mem_cons, reduceCtorEq,
            Note.recorded.injEq, false_or, ih, List.takeWhile_cons, exists_eq_or_imp,
            eq_comm (a := name)]

/-- In a round that follows an order, an entry waits for all before it. -/
theorem recorded_before {precedes : α → α → Prop}
    (sorted : work.Pairwise fun first second => ¬precedes second first)
    {before after : List (Note α κ)} {entry other : α}
    (split : journal key succeeds work = before ++ .started entry :: after)
    (irreflexive : ¬precedes entry entry) (member : other ∈ work)
    (earlier : precedes other entry) : .recorded (key other) ∈ before := by
  obtain ⟨done, rest, rfl, rfl⟩ := journal_split split
  rcases List.mem_append.mp member with inside | behind
  · rw [List.mem_flatMap]
    exact ⟨other, inside, List.mem_cons_of_mem _ List.mem_cons_self⟩
  · rcases List.mem_cons.mp behind with rfl | later
    · exact (irreflexive earlier).elim
    · have apart := (List.pairwise_append.mp sorted).2.1
      exact ((List.pairwise_cons.mp apart).1 other later earlier).elim

/-- With distinct keys no entry is started once its key is recorded. -/
theorem not_recorded_before (distinct : (work.map key).Nodup) {before after : List (Note α κ)}
    {entry : α} (split : journal key succeeds work = before ++ .started entry :: after) :
    .recorded (key entry) ∉ before := by
  obtain ⟨done, rest, rfl, rfl⟩ := journal_split split
  intro recorded
  obtain ⟨other, member, noted⟩ := List.mem_flatMap.mp recorded
  have same : key entry = key other := by
    simpa only [List.mem_cons, reduceCtorEq, Note.recorded.injEq, List.not_mem_nil, or_false,
      false_or] using noted
  rw [List.map_append, List.map_cons, List.nodup_append] at distinct
  exact distinct.2.2 _ (List.mem_map_of_mem member) _ List.mem_cons_self same.symm

end Rounds

end Collections
