import NestMonorepo.Concurrency.Pool

/-! # Threads with roles of their own

Where a thread owns a part of the shared state, what it does itself differs from what it
expects of the others. A role separates the two, and the roles of a pool fit together
when what each thread does is what every other one expects.
-/

namespace Concurrency

variable {Operation Command : Type} {Reply : Command → Type} {ε α State Event : Type}

/-- What a thread expects of the others, and what it promises them. -/
structure Role (State : Type) where
  rely : State → State → Prop
  guarantee : State → State → Prop
  refl : ∀ state, rely state state
  trans : ∀ {first second third}, rely first second → rely second third → rely first third
  idle : ∀ state, guarantee state state

/-- An outcome that satisfies `post` wherever the others may move the state. -/
def Role.Settled (role : Role State) (keeps : State → Prop) (post : Except ε α → State → Prop)
    (outcome : Except ε α) (state : State) : Prop :=
  ∀ later, role.rely state later → keeps later → post outcome later

/-- An outcome that is settled for a role stays so while the others step. -/
theorem Role.Settled.of_rely {role : Role State} {keeps : State → Prop}
    {post : Except ε α → State → Prop} {outcome : Except ε α} {state later : State}
    (settled : role.Settled keeps post outcome state) (moved : role.rely state later) :
    role.Settled keeps post outcome later :=
  fun last further => settled last (role.trans moved further)

namespace Program

variable (exec : (command : Command) → State → State × Reply command) (keeps : State → Prop)
  (permitted : Command → State → Prop) (role : Role State)

/-- As long as the others do what the role expects, every permitted command keeps the
invariant and the role's promise, and the outcome satisfies `post`. -/
def Plays (post : Except ε α → State → Prop) : Program Command Reply ε α → State → Prop
  | ret value, state => role.Settled keeps post (.ok value) state
  | fail error, state => role.Settled keeps post (.error error) state
  | call command next, state => ∀ later, role.rely state later → keeps later →
      permitted command later →
        keeps (exec command later).1 ∧ role.guarantee later (exec command later).1 ∧
          (next (exec command later).2).Plays post (exec command later).1

variable {exec keeps permitted role} {post : Except ε α → State → Prop}

/-- A program that plays its role from a state does so from every later one. -/
theorem Plays.of_rely {program : Program Command Reply ε α} {state later : State}
    (plays : program.Plays exec keeps permitted role post state) (moved : role.rely state later) :
    program.Plays exec keeps permitted role post later := by
  cases program with
  | ret value => exact Role.Settled.of_rely plays moved
  | fail error => exact Role.Settled.of_rely plays moved
  | call command next => exact fun last further => plays last (role.trans moved further)

end Program

/-- The judgement at a thread's present status. -/
def Status.Plays (exec : (command : Command) → State → State × Reply command)
    (keeps : State → Prop) (permitted : Command → State → Prop) (role : Role State)
    (post : Except ε α → State → Prop) (state : State) : Status Command Reply ε α → Prop
  | .running program => program.Plays exec keeps permitted role post state
  | .returned value => role.Settled keeps post (.ok value) state
  | .thrown error => role.Settled keeps post (.error error) state
  | .crashed => True

/-- The same of a thread, whether it runs or has ended. -/
theorem Status.Plays.of_rely {exec : (command : Command) → State → State × Reply command}
    {keeps : State → Prop} {permitted : Command → State → Prop} {role : Role State}
    {post : Except ε α → State → Prop} {state later : State} {status : Status Command Reply ε α}
    (plays : status.Plays exec keeps permitted role post state) (moved : role.rely state later) :
    status.Plays exec keeps permitted role post later := by
  cases status with
  | running program => exact Program.Plays.of_rely plays moved
  | returned value => exact Role.Settled.of_rely plays moved
  | thrown error => exact Role.Settled.of_rely plays moved
  | crashed => trivial

namespace System

variable (system : System Operation Command Reply ε α State Event) (keeps : State → Prop)
  (permitted : Command → State → Prop) (role : Operation → Role State)
  (post : Operation → Except ε α → State → Prop)

/-- The shared state keeps the invariant and every thread plays its operation's role. -/
structure Cast (pool : Pool Operation Command Reply ε α State) : Prop where
  kept : keeps pool.shared
  threads : ∀ (index : Nat) (thread : Thread Operation Command Reply ε α),
    pool.threads[index]? = some thread →
      thread.status.Plays system.exec keeps permitted (role thread.operation)
      (post thread.operation) pool.shared

/-- Each thread of the pool promises what every other one expects. -/
def Compatible (role : Operation → Role State)
    (pool : Pool Operation Command Reply ε α State) : Prop :=
  ∀ (first second : Nat) (one other : Thread Operation Command Reply ε α), first ≠ second →
    pool.threads[first]? = some one → pool.threads[second]? = some other → ∀ state later,
      (role one.operation).guarantee state later → (role other.operation).rely state later

variable {system keeps permitted role post}

/-- One step of a thread that plays its role keeps the invariant and the promise. -/
theorem advance_plays {operation : Operation} {status : Status Command Reply ε α} {shared : State}
    (kept : keeps shared)
    (plays : status.Plays system.exec keeps permitted (role operation) (post operation) shared)
    (granted : ∀ command next, status = .running (.call command next) →
      permitted command shared) :
    keeps (system.advance status shared).1 ∧
      (role operation).guarantee shared (system.advance status shared).1 ∧
      (system.advance status shared).2.Plays system.exec keeps permitted (role operation)
        (post operation) (system.advance status shared).1 := by
  cases status with
  | running program =>
      cases program with
      | ret value => exact ⟨kept, (role operation).idle shared, plays⟩
      | fail error => exact ⟨kept, (role operation).idle shared, plays⟩
      | call command next =>
          exact plays shared ((role operation).refl shared) kept (granted command next rfl)
  | returned value => exact ⟨kept, (role operation).idle shared, plays⟩
  | thrown error => exact ⟨kept, (role operation).idle shared, plays⟩
  | crashed => exact ⟨kept, (role operation).idle shared, plays⟩

/-- What a thread of the cast does when it takes its step. -/
theorem Cast.step {pool : Pool Operation Command Reply ε α State} {index : Nat}
    {thread : Thread Operation Command Reply ε α}
    (cast : system.Cast keeps permitted role post pool)
    (present : pool.threads[index]? = some thread)
    (granted : ∀ command, thread.pending = some command → permitted command pool.shared) :
    keeps (system.next (.step index) pool).shared ∧
      (role thread.operation).guarantee pool.shared (system.next (.step index) pool).shared ∧
      (system.advance thread.status pool.shared).2.Plays system.exec keeps permitted
        (role thread.operation) (post thread.operation)
        (system.next (.step index) pool).shared := by
  rw [next_step_of_get present]
  refine advance_plays cast.kept (cast.threads index thread present) ?_
  intro command next running
  exact granted command (by rw [Thread.pending, running]; rfl)

/-- One scheduling decision leaves a cast whose roles fit together: what the stepping thread
guarantees, each of the others relies on. -/
theorem Cast.next {pool : Pool Operation Command Reply ε α State} {label : Label Operation Event}
    (cast : system.Cast keeps permitted role post pool)
    (compatible : Compatible role pool)
    (spawned : ∀ operation, label = .spawn operation → (system.code operation).Plays system.exec
      keeps permitted (role operation) (post operation) pool.shared)
    (granted : ∀ (index : Nat) (thread : Thread Operation Command Reply ε α) command,
      label = .step index → pool.threads[index]? = some thread →
        thread.pending = some command → permitted command pool.shared)
    (environment : ∀ event, label = .environment event →
      keeps (system.environment event pool.shared) ∧ ∀ operation,
        (role operation).rely pool.shared (system.environment event pool.shared)) :
    system.Cast keeps permitted role post (system.next label pool) := by
  cases label with
  | spawn operation =>
      refine ⟨cast.kept, fun index thread present => ?_⟩
      rcases get_next present with ⟨old, _⟩ | ⟨operation', same, _, rfl⟩ |
        ⟨_, _, ⟨stepped, _⟩ | ⟨crashed, _⟩⟩
      · exact cast.threads index thread old
      · cases same
        exact spawned operation rfl
      · exact nomatch stepped
      · exact nomatch crashed
  | step index =>
      cases found : pool.threads[index]? with
      | none => rwa [next_step_of_none found]
      | some thread =>
          obtain ⟨keeps', promised, plays⟩ := cast.step found
            fun command pending => granted index thread command rfl found pending
          refine ⟨keeps', fun place other present => ?_⟩
          by_cases same : index = place
          · subst same
            rw [next_step_of_get found,
              List.getElem?_set_self (List.getElem?_eq_some_iff.mp found).1] at present
            cases present
            exact plays
          · rw [next_step_of_get found, List.getElem?_set_ne same] at present
            exact (cast.threads place other present).of_rely
              (compatible index place thread other same found present _ _ promised)
  | crash index =>
      cases found : pool.threads[index]? with
      | none => rwa [next_crash_of_none found]
      | some thread =>
          refine ⟨?_, fun place other present => ?_⟩
          · rw [next_crash_of_get found]
            exact cast.kept
          · rw [next_crash_of_get found]
            rcases get_next present with ⟨old, _⟩ | ⟨_, spawned, _⟩ |
              ⟨old, running, ⟨stepped, _⟩ | ⟨_, rfl⟩⟩
            · exact cast.threads place other old
            · exact nomatch spawned
            · exact nomatch stepped
            · have plays := cast.threads place old running
              cases status : old.status with
              | running program => trivial
              | returned value => simpa only [crash, status] using plays
              | thrown error => simpa only [crash, status] using plays
              | crashed => trivial
  | environment event =>
      obtain ⟨keeps', moved⟩ := environment event rfl
      exact ⟨keeps', fun index thread present =>
        (cast.threads index thread present).of_rely (moved thread.operation)⟩

end System

end Concurrency
