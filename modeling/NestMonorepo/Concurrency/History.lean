import Mathlib.Data.Set.Basic
import NestMonorepo.Concurrency.Pool

/-! # What a run has been through

A schedule is a list of decisions, and each of its positions has the pool the run has
reached by then. A thread knows what the replies to its own commands have taught it so
far. `Program.Heeds` judges a program by what it knows when it performs a command, and
`System.PerformsAt.presupposes` carries the judgement to every position of every run:
what a command presupposes was learnt at earlier positions by the same thread.
-/

namespace Concurrency

variable {Operation Command Fact : Type} {Reply : Command → Type} {ε ε' α β State Event : Type}

/-! ## Knowledge -/

/-- What the reply to a command teaches, and what an operation is to know when it performs
one. More knowledge does no harm. -/
structure Lore (Operation Command : Type) (Reply : Command → Type) (Fact : Type) where
  teaches : (command : Command) → Reply command → Set Fact
  presupposes : Operation → Command → Set Fact → Prop
  monotone : ∀ {operation command known more}, known ⊆ more →
    presupposes operation command known → presupposes operation command more

namespace Program

variable (lore : Lore Operation Command Reply Fact) (operation : Operation)

/-- Whatever it is answered, the program knows what its next command presupposes, and where
it ends the outcome satisfies `post`. -/
def Heeds (post : Except ε α → Set Fact → Prop) : Program Command Reply ε α → Set Fact → Prop
  | ret value, known => post (.ok value) known
  | fail error, known => post (.error error) known
  | call command next, known => lore.presupposes operation command known ∧
      ∀ reply, (next reply).Heeds post (known ∪ lore.teaches command reply)

variable {lore operation} {known more : Set Fact} {post weaker : Except ε α → Set Fact → Prop}
  {program : Program Command Reply ε α}

/-- More knowledge and a weaker postcondition do no harm. -/
theorem Heeds.weaken (heeds : program.Heeds lore operation post known) (implies : known ⊆ more)
    (ends : ∀ outcome {known more}, known ⊆ more → post outcome known → weaker outcome more) :
    program.Heeds lore operation weaker more := by
  induction program generalizing known more with
  | ret value => exact ends _ implies heeds
  | fail error => exact ends _ implies heeds
  | call command next ih =>
      exact ⟨lore.monotone implies heeds.1, fun reply =>
        ih reply (heeds.2 reply) (Set.union_subset_union_left _ implies)⟩

/-- The rest of a program is judged by what is known where the first part ends. -/
theorem Heeds.bind {next : α → Program Command Reply ε β} {mid : Except ε α → Set Fact → Prop}
    {post : Except ε β → Set Fact → Prop} (heeds : program.Heeds lore operation mid known)
    (thrown : ∀ error later, mid (.error error) later → post (.error error) later)
    (rest : ∀ value later, mid (.ok value) later → (next value).Heeds lore operation post later) :
    (program >>= next).Heeds lore operation post known := by
  induction program generalizing known with
  | ret value => exact rest value known heeds
  | fail error => exact thrown error known heeds
  | call command reply ih => exact ⟨heeds.1, fun answer => ih answer (heeds.2 answer)⟩

/-- The body of a `try` is judged as it stands; its outcome is a value. -/
theorem Heeds.attempt {post : Except ε' (Except ε α) → Set Fact → Prop}
    (heeds : program.Heeds lore operation (fun outcome => post (.ok outcome)) known) :
    (program.attempt : Program Command Reply ε' _).Heeds lore operation post known := by
  induction program generalizing known with
  | ret value => exact heeds
  | fail error => exact heeds
  | call command next ih => exact ⟨heeds.1, fun reply => ih reply (heeds.2 reply)⟩

/-- A program whose commands presuppose nothing loses no knowledge. -/
theorem Heeds.of_only (free : program.Only fun command => lore.presupposes operation command ∅) :
    program.Heeds lore operation (fun _ later => known ⊆ later) known := by
  induction program generalizing known with
  | ret value => exact subset_rfl
  | fail error => exact subset_rfl
  | call command next ih =>
      refine ⟨lore.monotone (Set.empty_subset known) free.1, fun reply => ?_⟩
      exact (ih reply (free.2 reply)).weaken subset_rfl fun _ _ _ wider kept =>
        (Set.subset_union_left.trans kept).trans wider

end Program

/-! ## Positions of a run -/

namespace System

variable (system : System Operation Command Reply ε α State Event)

/-- The pool before the decision at a position is taken. -/
def before (start : Pool Operation Command Reply ε α State) (labels : List (Label Operation Event))
    (position : Nat) : Pool Operation Command Reply ε α State :=
  system.schedule start (labels.take position)

/-- The decision at the position lets the thread perform the command. -/
def PerformsAt (start : Pool Operation Command Reply ε α State)
    (labels : List (Label Operation Event)) (position index : Nat)
    (thread : Thread Operation Command Reply ε α) (command : Command) : Prop :=
  labels[position]? = some (.step index) ∧
    (system.before start labels position).threads[index]? = some thread ∧
    thread.pending = some command

/-- The thread that performs a command at the position, and the command. -/
def performed (start : Pool Operation Command Reply ε α State)
    (labels : List (Label Operation Event)) (position : Nat) :
    Option (Nat × Thread Operation Command Reply ε α × Command) :=
  match labels[position]? with
  | some (.step index) =>
      (system.before start labels position).threads[index]?.bind fun thread =>
        thread.pending.map fun command => (index, thread, command)
  | _ => none

/-- What a thread has been taught in the course of a run. -/
def learnt (lore : Lore Operation Command Reply Fact)
    (start : Pool Operation Command Reply ε α State) (labels : List (Label Operation Event))
    (index : Nat) : Set Fact :=
  {fact | ∃ position thread command, system.PerformsAt start labels position index thread command ∧
    fact ∈ lore.teaches command
      (system.exec command (system.before start labels position).shared).2}

variable {system} {lore : Lore Operation Command Reply Fact}
  {start : Pool Operation Command Reply ε α State} {labels : List (Label Operation Event)}
  {label : Label Operation Event} {position index : Nat}
  {thread : Thread Operation Command Reply ε α} {command : Command}

/-- A schedule in two parts runs the second from where the first one leads. -/
theorem schedule_append (labels more : List (Label Operation Event)) :
    system.schedule start (labels ++ more) = system.schedule (system.schedule start labels) more :=
  List.foldl_append

/-- Before its first step a run is at its start. -/
theorem before_zero : system.before start labels 0 = start := rfl

/-- After all of its labels it is where the schedule leads. -/
theorem before_length :
    system.before start labels labels.length = system.schedule start labels := by
  rw [before, List.take_length]

/-- A step leads from the state before it to the state before the next. -/
theorem before_succ (here : labels[position]? = some label) :
    system.before start labels (position + 1) =
      system.next label (system.before start labels position) := by
  rw [before, List.take_add_one, here, Option.toList_some, schedule_append]
  rfl

/-- Past the end of a run nothing happens any more. -/
theorem before_of_length_le (past : labels.length ≤ position) :
    system.before start labels position = system.schedule start labels := by
  rw [before, List.take_of_length_le past]

/-- A prefix of a run has been through the same pools. -/
theorem before_take {count : Nat} (inside : position ≤ count) :
    system.before start (labels.take count) position = system.before start labels position := by
  rw [before, before, List.take_take, Nat.min_eq_left inside]

/-- What a thread performs at a position is what the run performs there. -/
theorem PerformsAt.performed
    (performs : system.PerformsAt start labels position index thread command) :
    system.performed start labels position = some (index, thread, command) := by
  obtain ⟨here, present, pending⟩ := performs
  simp only [System.performed, here, present, pending, Option.bind_some, Option.map_some]

/-- At a position one thread performs one command. -/
theorem PerformsAt.unique {other : Nat} {performer : Thread Operation Command Reply ε α}
    {performed : Command} (performs : system.PerformsAt start labels position index thread command)
    (again : system.PerformsAt start labels position other performer performed) :
    other = index ∧ performer = thread ∧ performed = command := by
  have same := again.performed.symm.trans performs.performed
  cases same
  exact ⟨rfl, rfl, rfl⟩

/-- A position at which something is performed is one of the run. -/
theorem PerformsAt.lt_length
    (performs : system.PerformsAt start labels position index thread command) :
    position < labels.length :=
  (List.getElem?_eq_some_iff.mp performs.1).1

/-- What a prefix of a run performs is what the run performs before its end. -/
theorem performsAt_take {count : Nat} :
    system.PerformsAt start (labels.take count) position index thread command ↔
      position < count ∧ system.PerformsAt start labels position index thread command := by
  unfold PerformsAt
  by_cases inside : position < count
  · rw [List.getElem?_take_of_lt inside, before_take (Nat.le_of_lt inside)]
    simp only [inside, true_and]
  · rw [List.getElem?_eq_none_iff.mpr
      ((List.length_take_le _ _).trans (Nat.not_lt.mp inside))]
    simp only [inside, false_and, reduceCtorEq]

/-- A thread that performs a command is running and stands at it. -/
theorem PerformsAt.running
    (performs : system.PerformsAt start labels position index thread command) :
    ∃ next, thread.status = .running (.call command next) :=
  Thread.running_of_pending performs.2.2

/-- The step of a thread about to perform a command. -/
theorem PerformsAt.shared
    (performs : system.PerformsAt start labels position index thread command) :
    (system.before start labels (position + 1)).shared =
      (system.exec command (system.before start labels position).shared).1 := by
  obtain ⟨next, running⟩ := performs.running
  rw [before_succ performs.1, next_step_of_get performs.2.1, running]
  rfl

variable (system start labels) in
/-- Where the shared state at the next position comes from: nothing happened to it, a thread
performed a command, or the environment stepped. -/
theorem before_shared_cases (position : Nat) :
    (system.before start labels (position + 1)).shared =
      (system.before start labels position).shared ∨
    (∃ index thread command, system.PerformsAt start labels position index thread command) ∨
    ∃ event, (system.before start labels (position + 1)).shared =
      system.environment event (system.before start labels position).shared := by
  cases here : labels[position]? with
  | none =>
      have past := List.getElem?_eq_none_iff.mp here
      refine .inl ?_
      rw [before_of_length_le past, before_of_length_le (Nat.le_succ_of_le past)]
  | some label =>
      rw [before_succ here]
      cases label with
      | spawn operation => exact .inl rfl
      | environment event => exact .inr (.inr ⟨event, rfl⟩)
      | crash index =>
          cases found : (system.before start labels position).threads[index]? with
          | none => exact .inl (by rw [next_crash_of_none found])
          | some thread => exact .inl (by rw [next_crash_of_get found])
      | step index =>
          cases found : (system.before start labels position).threads[index]? with
          | none => exact .inl (by rw [next_step_of_none found])
          | some thread =>
              cases pending : thread.pending with
              | some command => exact .inr (.inl ⟨index, thread, command, here, found, pending⟩)
              | none =>
                  refine .inl ?_
                  rw [next_step_of_get found]
                  exact (advance_of_idle pending).1

/-- Every thread of a run was spawned in its course. -/
theorem spawned_of_get (fresh : start.threads = [])
    (present : (system.before start labels position).threads[index]? = some thread) :
    .spawn thread.operation ∈ labels := by
  induction position generalizing thread with
  | zero =>
      rw [before_zero, fresh] at present
      cases present
  | succ position ih =>
      cases here : labels[position]? with
      | none =>
          have past := List.getElem?_eq_none_iff.mp here
          rw [before_of_length_le (Nat.le_succ_of_le past), ← before_of_length_le past] at present
          exact ih present
      | some label =>
          rw [before_succ here] at present
          rcases operation_of_next present with ⟨old, found, same⟩ | ⟨rfl, _⟩
          · exact same ▸ ih found
          · exact List.mem_of_getElem? here

/-- A schedule is admitted when each of its decisions is allowed at its position. -/
theorem admits_of_forall
    {allowed : Label Operation Event → Pool Operation Command Reply ε α State → Prop}
    (each : ∀ position label, labels[position]? = some label →
      allowed label (system.before start labels position)) :
    system.Admits allowed labels start := by
  induction labels generalizing start with
  | nil => trivial
  | cons label rest ih =>
      refine ⟨each 0 label rfl, ih fun position other here => ?_⟩
      exact each (position + 1) other here

/-- Each decision of an admitted schedule is allowed at its position. -/
theorem Admits.allowed
    {allowed : Label Operation Event → Pool Operation Command Reply ε α State → Prop}
    (admitted : system.Admits allowed labels start) (here : labels[position]? = some label) :
    allowed label (system.before start labels position) := by
  induction labels generalizing start position with
  | nil => cases here
  | cons first rest ih =>
      cases position with
      | zero =>
          cases here
          exact admitted.1
      | succ position => exact ih admitted.2 here

/-- A schedule in two parts is admitted when the first part is, and the second from where
the first one leads. -/
theorem admits_append
    {allowed : Label Operation Event → Pool Operation Command Reply ε α State → Prop}
    {labels more : List (Label Operation Event)} :
    system.Admits allowed (labels ++ more) start ↔ system.Admits allowed labels start ∧
      system.Admits allowed more (system.schedule start labels) := by
  induction labels generalizing start with
  | nil => exact ⟨fun admitted => ⟨trivial, admitted⟩, fun both => both.2⟩
  | cons label rest ih => exact (and_congr_right fun _ => ih).trans and_assoc.symm

/-- What is reached by allowed steps is where an admitted schedule ends. -/
theorem Reaches.exists_admits
    {allowed : Label Operation Event → Pool Operation Command Reply ε α State → Prop}
    {finish : Pool Operation Command Reply ε α State}
    (reached : system.Reaches allowed start finish) :
    ∃ labels, system.Admits allowed labels start ∧ system.schedule start labels = finish := by
  induction reached with
  | refl => exact ⟨[], trivial, rfl⟩
  | step label _ permitted ih =>
      obtain ⟨labels, admitted, rfl⟩ := ih
      exact ⟨labels ++ [label], admits_append.mpr ⟨admitted, permitted, trivial⟩,
        schedule_append labels [label]⟩

/-! ## What threads know -/

/-- In the course of a run a thread learns, and forgets nothing. -/
theorem mem_learnt_take {count : Nat} {fact : Fact}
    (known : fact ∈ system.learnt lore start (labels.take count) index) :
    ∃ position thread command, position < count ∧
      system.PerformsAt start labels position index thread command ∧
      fact ∈ lore.teaches command
        (system.exec command (system.before start labels position).shared).2 := by
  obtain ⟨position, thread, command, performs, taught⟩ := known
  obtain ⟨inside, performs⟩ := performsAt_take.mp performs
  rw [before_take (Nat.le_of_lt inside)] at taught
  exact ⟨position, thread, command, inside, performs, taught⟩

/-- What a thread has learnt it does not forget: a longer part of the run has taught it no
less. -/
theorem learnt_take_mono {first second : Nat} (le : first ≤ second) :
    system.learnt lore start (labels.take first) index ⊆
      system.learnt lore start (labels.take second) index := by
  rintro fact ⟨position, thread, command, performs, taught⟩
  obtain ⟨inside, performs⟩ := performsAt_take.mp performs
  have within := Nat.lt_of_lt_of_le inside le
  refine ⟨position, thread, command, performsAt_take.mpr ⟨within, performs⟩, ?_⟩
  rw [before_take (Nat.le_of_lt inside)] at taught
  rwa [before_take (Nat.le_of_lt within)]

/-- Each running thread heeds the lore with what it has learnt, at every position. The
induction is on the position. -/
theorem before_heeds (fresh : start.threads = [])
    (heeds : ∀ operation, (system.code operation).Heeds lore operation (fun _ _ => True) ∅)
    (position : Nat) :
    ∀ (index : Nat) thread program,
      (system.before start labels position).threads[index]? = some thread →
      thread.status = .running program → program.Heeds lore thread.operation (fun _ _ => True)
        (system.learnt lore start (labels.take position) index) := by
  induction position with
  | zero =>
      intro index thread program present
      rw [before_zero, fresh] at present
      cases present
  | succ position ih =>
      intro index thread program present running
      have kept : ∀ {thread : Thread Operation Command Reply ε α},
          (system.before start labels position).threads[index]? = some thread →
          thread.status = .running program → program.Heeds lore thread.operation (fun _ _ => True)
            (system.learnt lore start (labels.take (position + 1)) index) :=
        fun present running => (ih index _ program present running).weaken
          (learnt_take_mono (Nat.le_succ position)) fun _ _ _ _ _ => trivial
      cases here : labels[position]? with
      | none =>
          have past := List.getElem?_eq_none_iff.mp here
          rw [before_of_length_le (Nat.le_succ_of_le past), ← before_of_length_le past] at present
          exact kept present running
      | some label =>
          rw [before_succ here] at present
          rcases get_next present with ⟨same, _⟩ | ⟨operation, _, _, rfl⟩ |
            ⟨old, found, ⟨rfl, rfl⟩ | ⟨_, rfl⟩⟩
          · exact kept same running
          · cases running
            exact (heeds operation).weaken (Set.empty_subset _) fun _ _ _ _ _ => trivial
          · -- the thread has performed its command and learns from the reply
            cases pending : old.pending with
            | none => exact ((advance_of_idle pending).2 program running).elim
            | some command =>
                obtain ⟨next, runs⟩ := Thread.running_of_pending pending
                have judged := (ih index old _ found runs).2
                  (system.exec command (system.before start labels position).shared).2
                rw [runs] at running
                cases running
                refine judged.weaken (Set.union_subset (learnt_take_mono (Nat.le_succ position)) ?_)
                  fun _ _ _ _ _ => trivial
                intro fact taught
                refine ⟨position, old, command, performsAt_take.mpr
                  ⟨Nat.lt_succ_self position, here, found, pending⟩, ?_⟩
                rwa [before_take (Nat.le_succ position)]
          · exact (crash_ne_running old.status program running).elim

/-- What a thread performs it performs knowing what that presupposes. -/
theorem PerformsAt.presupposes (fresh : start.threads = [])
    (heeds : ∀ operation, (system.code operation).Heeds lore operation (fun _ _ => True) ∅)
    (performs : system.PerformsAt start labels position index thread command) :
    lore.presupposes thread.operation command
      (system.learnt lore start (labels.take position) index) := by
  obtain ⟨next, running⟩ := performs.running
  exact (before_heeds fresh heeds position index thread _ performs.2.1 running).1

end System

end Concurrency
