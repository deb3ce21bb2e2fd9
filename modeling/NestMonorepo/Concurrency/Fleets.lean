import Mathlib.Algebra.BigOperators.Group.List.Basic
import Mathlib.Algebra.Order.Group.Multiset

/-! # Fleets of members around shared state

A fleet is a shared state and members with a state of their own. One step lets a member join
or lets one member act, on the shared state and its own. What every action keeps holds
wherever the steps lead; what every action conserves, a quantity that the shared state and
the members hold together, is conserved.
-/

namespace Concurrency

/-- How the members of a fleet start and what their actions do. -/
structure Fleets (Seed Action Shared Member : Type) where
  boot : Seed → Member
  perform : Action → Shared → Member → Shared × Member

structure Fleet (Shared Member : Type) where
  shared : Shared
  members : List Member

inductive FleetLabel (Seed Action : Type) where
  | join (seed : Seed)
  | act (index : Nat) (action : Action)

namespace Fleets

variable {Seed Action Shared Member : Type} (fleets : Fleets Seed Action Shared Member)

/-- A label that names no member does nothing. -/
def next : FleetLabel Seed Action → Fleet Shared Member → Fleet Shared Member
  | .join seed, fleet => { fleet with members := fleet.members ++ [fleets.boot seed] }
  | .act index action, fleet =>
      match fleet.members[index]? with
      | none => fleet
      | some member =>
          let (shared, moved) := fleets.perform action fleet.shared member
          ⟨shared, fleet.members.set index moved⟩

/-- The fleet after a list of steps. -/
def schedule (fleet : Fleet Shared Member) (labels : List (FleetLabel Seed Action)) :
    Fleet Shared Member := labels.foldl (fun current label => fleets.next label current) fleet

/-- The fleets reached by steps that are `allowed` where they are taken. -/
inductive Reaches (allowed : FleetLabel Seed Action → Fleet Shared Member → Prop)
    (start : Fleet Shared Member) : Fleet Shared Member → Prop where
  | refl : Reaches allowed start start
  | step {fleet} (label : FleetLabel Seed Action) : Reaches allowed start fleet →
      allowed label fleet → Reaches allowed start (fleets.next label fleet)

/-- Every step of a list is allowed where it is taken. -/
def Admits (allowed : FleetLabel Seed Action → Fleet Shared Member → Prop) :
    List (FleetLabel Seed Action) → Fleet Shared Member → Prop
  | [], _ => True
  | label :: rest, fleet => allowed label fleet ∧ Admits allowed rest (fleets.next label fleet)

instance Admits.decidable (allowed : FleetLabel Seed Action → Fleet Shared Member → Prop)
    [∀ label fleet, Decidable (allowed label fleet)] :
    ∀ labels fleet, Decidable (fleets.Admits allowed labels fleet)
  | [], _ => inferInstanceAs (Decidable True)
  | label :: rest, fleet =>
      have := Admits.decidable allowed rest (fleets.next label fleet)
      inferInstanceAs (Decidable (allowed label fleet ∧ _))

variable {fleets} {allowed : FleetLabel Seed Action → Fleet Shared Member → Prop}
  {start middle finish fleet : Fleet Shared Member} {index : Nat} {action : Action}
  {member : Member}

/-- An action is performed by the member it names, and the others stay as they are. -/
theorem next_act_of_get (present : fleet.members[index]? = some member) :
    fleets.next (.act index action) fleet = ⟨(fleets.perform action fleet.shared member).1,
      fleet.members.set index (fleets.perform action fleet.shared member).2⟩ := by
  simp only [next, present]

/-- An action of a member that does not exist changes nothing. -/
theorem next_act_of_none (absent : fleet.members[index]? = none) :
    fleets.next (.act index action) fleet = fleet := by
  simp only [next, absent]

/-- What replacing one entry does to a sum over the entries. -/
theorem sum_set_add {M : Type} [AddCommMonoid M] (quantity : Member → M) {members : List Member}
    (present : members[index]? = some member) (moved : Member) :
    ((members.set index moved).map quantity).sum + quantity member =
      (members.map quantity).sum + quantity moved := by
  induction members generalizing index with
  | nil => cases present
  | cons head rest ih =>
      cases index with
      | zero =>
          cases present
          rw [List.set_cons_zero, List.map_cons, List.sum_cons, List.map_cons, List.sum_cons,
            add_comm (quantity moved), add_right_comm, add_comm (List.sum _)]
      | succ index =>
          rw [List.set_cons_succ, List.map_cons, List.sum_cons, List.map_cons, List.sum_cons,
            add_assoc, ih present, add_assoc]

/-- What the members hold together is held by one of them. -/
theorem mem_sum {Item : Type} {quantity : Member → Multiset Item} {members : List Member}
    {item : Item} :
    item ∈ (members.map quantity).sum ↔ ∃ member ∈ members, item ∈ quantity member := by
  induction members with
  | nil => simp only [List.map_nil, List.sum_nil, Multiset.notMem_zero, List.not_mem_nil,
      false_and, exists_false]
  | cons head rest ih =>
      simp only [List.map_cons, List.sum_cons, Multiset.mem_add, ih, List.mem_cons,
        exists_eq_or_imp]

namespace Reaches

/-- A run after a run is a run. -/
theorem trans (first : fleets.Reaches allowed start middle)
    (second : fleets.Reaches allowed middle finish) : fleets.Reaches allowed start finish := by
  induction second with
  | refl => exact first
  | step label _ permitted ih => exact ih.step label permitted

/-- A run under an assumption is one under every weaker assumption. -/
theorem mono {weaker : FleetLabel Seed Action → Fleet Shared Member → Prop}
    (implies : ∀ label fleet, allowed label fleet → weaker label fleet)
    (reached : fleets.Reaches allowed start finish) : fleets.Reaches weaker start finish := by
  induction reached with
  | refl => exact .refl
  | step label _ permitted ih => exact ih.step label (implies _ _ permitted)

/-- A list of steps that are all allowed is a run. -/
theorem of_admits {labels : List (FleetLabel Seed Action)}
    (admitted : fleets.Admits allowed labels start) :
    fleets.Reaches allowed start (fleets.schedule start labels) := by
  induction labels generalizing start with
  | nil => exact .refl
  | cons label rest ih => exact (Reaches.refl.step label admitted.1).trans (ih admitted.2)

/-- Every list of labels is a run when nothing is forbidden. -/
theorem of_schedule (labels : List (FleetLabel Seed Action)) :
    fleets.Reaches (fun _ _ => True) start (fleets.schedule start labels) := by
  induction labels generalizing start with
  | nil => exact .refl
  | cons label rest ih => exact (Reaches.refl.step label trivial).trans ih

/-- A property of the shared state and of each member beside it, kept by every action for the
member that acts and for the others, holds of all wherever the steps lead. -/
theorem invariant (shares : Shared → Prop) (holds : Shared → Member → Prop)
    (initial : shares start.shared ∧ ∀ member ∈ start.members, holds start.shared member)
    (joins : ∀ seed fleet, allowed (.join seed) fleet → shares fleet.shared →
      holds fleet.shared (fleets.boot seed))
    (acts : ∀ index action member fleet, allowed (.act index action) fleet →
      fleet.members[index]? = some member → shares fleet.shared → holds fleet.shared member →
        shares (fleets.perform action fleet.shared member).1 ∧
          holds (fleets.perform action fleet.shared member).1
            (fleets.perform action fleet.shared member).2 ∧
          ∀ other, holds fleet.shared other →
            holds (fleets.perform action fleet.shared member).1 other)
    (reached : fleets.Reaches allowed start finish) :
    shares finish.shared ∧ ∀ member ∈ finish.members, holds finish.shared member := by
  induction reached with
  | refl => exact initial
  | @step fleet label _ permitted ih =>
      obtain ⟨shared, held⟩ := ih
      cases label with
      | join seed =>
          refine ⟨shared, fun member present => ?_⟩
          rcases List.mem_append.mp present with before | new
          · exact held member before
          · rw [List.mem_singleton.mp new]
            exact joins seed fleet permitted shared
      | act index action =>
          cases present : fleet.members[index]? with
          | none =>
              rw [next_act_of_none present]
              exact ⟨shared, held⟩
          | some member =>
              rw [next_act_of_get present]
              obtain ⟨kept, moved, others⟩ := acts index action member fleet permitted present
                shared (held member (List.mem_of_getElem? present))
              refine ⟨kept, fun other there => ?_⟩
              rcases List.mem_or_eq_of_mem_set there with before | same
              · exact others other (held other before)
              · rw [same]
                exact moved

/-- A relation of shared states that every action respects and that composes relates the
ends of every run. -/
theorem relates (relation : Shared → Shared → Prop) (refl : ∀ shared, relation shared shared)
    (trans : ∀ {first second third}, relation first second → relation second third →
      relation first third)
    (acts : ∀ index action member fleet, allowed (.act index action) fleet →
      fleets.Reaches allowed start fleet → fleet.members[index]? = some member →
        relation fleet.shared (fleets.perform action fleet.shared member).1)
    (reached : fleets.Reaches allowed start finish) : relation start.shared finish.shared := by
  induction reached with
  | refl => exact refl _
  | @step fleet label toFleet permitted ih =>
      cases label with
      | join seed => exact ih
      | act index action =>
          cases present : fleet.members[index]? with
          | none =>
              rw [next_act_of_none present]
              exact ih
          | some member =>
              rw [next_act_of_get present]
              exact trans ih (acts index action member fleet permitted toFleet present)

/-- What the shared state has taken in is what it has given out and what the members hold, if
no action breaks the balance. -/
theorem balance {M : Type} [AddCancelCommMonoid M] (taken given : Shared → M)
    (quantity : Member → M)
    (initial : taken start.shared = given start.shared + (start.members.map quantity).sum)
    (joins : ∀ seed, quantity (fleets.boot seed) = 0)
    (acts : ∀ action shared member,
      taken (fleets.perform action shared member).1 + (given shared + quantity member) =
        taken shared + (given (fleets.perform action shared member).1 +
          quantity (fleets.perform action shared member).2))
    (reached : fleets.Reaches allowed start finish) :
    taken finish.shared = given finish.shared + (finish.members.map quantity).sum := by
  induction reached with
  | refl => exact initial
  | @step fleet label _ _ ih =>
      cases label with
      | join seed =>
          change taken fleet.shared = given fleet.shared +
            ((fleet.members ++ [fleets.boot seed]).map quantity).sum
          rw [List.map_append, List.sum_append, List.map_singleton, List.sum_singleton, joins,
            add_zero, ih]
      | act index action =>
          cases present : fleet.members[index]? with
          | none =>
              rw [next_act_of_none present]
              exact ih
          | some member =>
              rw [next_act_of_get present]
              have step := acts action fleet.shared member
              have sums := sum_set_add quantity present
                (fleets.perform action fleet.shared member).2
              apply add_right_cancel (b := given fleet.shared + quantity member)
              calc _ = taken fleet.shared + (given (fleets.perform action fleet.shared member).1 +
                    quantity (fleets.perform action fleet.shared member).2) := step
                _ = given fleet.shared + given (fleets.perform action fleet.shared member).1 +
                    ((fleet.members.map quantity).sum +
                      quantity (fleets.perform action fleet.shared member).2) := by
                  rw [ih]
                  simp only [add_assoc, add_left_comm, add_comm]
                _ = _ := by
                  rw [← sums]
                  simp only [add_assoc, add_left_comm, add_comm]

end Reaches

end Fleets

end Concurrency
