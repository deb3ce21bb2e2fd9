import Mathlib.Data.List.Basic
import NestMonorepo.Concurrency.Program

/-! # Interleaved threads and their contracts

A system runs any number of threads over one shared state. A scheduler label
spawns an operation, lets one thread perform its next command (or deliver its
outcome), crashes a thread between two commands, or lets the environment move.

`Program.Always` is a rely/guarantee judgement: whatever the other threads do
within the contract's `rely`, every command is issued where its assertion holds,
stays within the contract, and the outcome satisfies the postcondition. The
assertion at a command also sees the continuation, so that it can say what the
thread will do next. `System.Reaches.sound` carries the judgement to every
thread of every interleaving.
-/

namespace Concurrency

variable {Operation Command : Type} {Reply : Command → Type} {ε α β State Event : Type}

/-- Where one thread stands. -/
inductive Status (Command : Type) (Reply : Command → Type) (ε α : Type) where
  | running (program : Program Command Reply ε α)
  | returned (value : α)
  | thrown (error : ε)
  | crashed

/-- One thread: the operation it was spawned for and where it stands. -/
structure Thread (Operation Command : Type) (Reply : Command → Type) (ε α : Type) where
  operation : Operation
  status : Status Command Reply ε α

/-- The shared state and every thread spawned so far. -/
structure Pool (Operation Command : Type) (Reply : Command → Type) (ε α State : Type) where
  shared : State
  threads : List (Thread Operation Command Reply ε α)

/-- The handlers of a service, what its commands do to the shared state, and
what may happen outside of them. -/
structure System (Operation Command : Type) (Reply : Command → Type)
    (ε α State Event : Type) where
  code : Operation → Program Command Reply ε α
  exec : (command : Command) → State → State × Reply command
  environment : Event → State → State

/-- One scheduling decision. -/
inductive Label (Operation Event : Type) where
  | spawn (operation : Operation)
  | step (thread : Nat)
  | crash (thread : Nat)
  | environment (event : Event)

namespace Thread

/-- The command a thread is about to perform. -/
def pending (thread : Thread Operation Command Reply ε α) : Option Command :=
  match thread.status with
  | .running program => program.pending
  | _ => none

/-- A thread with a pending command is running, and at that command. -/
theorem running_of_pending {thread : Thread Operation Command Reply ε α} {command : Command}
    (pending : thread.pending = some command) :
    ∃ next, thread.status = .running (.call command next) := by
  unfold Thread.pending at pending
  split at pending
  · rename_i program running
    cases program with
    | call issued next =>
        cases pending
        exact ⟨next, running⟩
    | _ => cases pending
  · cases pending

end Thread

namespace System

variable (system : System Operation Command Reply ε α State Event)

/-- One step of a thread on the shared state. -/
def advance : Status Command Reply ε α → State → State × Status Command Reply ε α
  | .running (.ret value), shared => (shared, .returned value)
  | .running (.fail error), shared => (shared, .thrown error)
  | .running (.call command next), shared =>
      ((system.exec command shared).1, .running (next (system.exec command shared).2))
  | status, shared => (shared, status)

/-- A crash stops a running thread where it stands. -/
def crash : Status Command Reply ε α → Status Command Reply ε α
  | .running _ => .crashed
  | status => status

/-- The pool after one scheduling decision; a label naming no thread changes
nothing. -/
def next : Label Operation Event → Pool Operation Command Reply ε α State →
    Pool Operation Command Reply ε α State
  | .spawn operation, pool =>
      { pool with threads := pool.threads ++ [⟨operation, .running (system.code operation)⟩] }
  | .step index, pool =>
      match pool.threads[index]? with
      | none => pool
      | some thread =>
          let (shared, status) := system.advance thread.status pool.shared
          ⟨shared, pool.threads.set index { thread with status := status }⟩
  | .crash index, pool =>
      match pool.threads[index]? with
      | none => pool
      | some thread =>
          { pool with
            threads := pool.threads.set index { thread with status := crash thread.status } }
  | .environment event, pool => { pool with shared := system.environment event pool.shared }

/-- The pool after a list of scheduling decisions. -/
def schedule (pool : Pool Operation Command Reply ε α State)
    (labels : List (Label Operation Event)) : Pool Operation Command Reply ε α State :=
  labels.foldl (fun current label => system.next label current) pool

/-- The pools reached by scheduling decisions that are `allowed` where they are
taken. -/
inductive Reaches
    (allowed : Label Operation Event → Pool Operation Command Reply ε α State → Prop)
    (start : Pool Operation Command Reply ε α State) :
    Pool Operation Command Reply ε α State → Prop where
  | refl : Reaches allowed start start
  | step {pool} (label : Label Operation Event) : Reaches allowed start pool →
      allowed label pool → Reaches allowed start (system.next label pool)

/-- Every decision of a schedule is allowed where it is taken. -/
def Admits (allowed : Label Operation Event → Pool Operation Command Reply ε α State → Prop) :
    List (Label Operation Event) → Pool Operation Command Reply ε α State → Prop
  | [], _ => True
  | label :: rest, pool => allowed label pool ∧ Admits allowed rest (system.next label pool)

instance Admits.decidable
    (allowed : Label Operation Event → Pool Operation Command Reply ε α State → Prop)
    [∀ label pool, Decidable (allowed label pool)] :
    ∀ labels pool, Decidable (system.Admits allowed labels pool)
  | [], _ => inferInstanceAs (Decidable True)
  | label :: rest, pool =>
      have := Admits.decidable allowed rest (system.next label pool)
      inferInstanceAs (Decidable (allowed label pool ∧ _))

variable {system}
  {allowed : Label Operation Event → Pool Operation Command Reply ε α State → Prop}
  {start middle finish : Pool Operation Command Reply ε α State}

namespace Reaches

/-- A run after a run is a run. -/
theorem trans (first : system.Reaches allowed start middle)
    (second : system.Reaches allowed middle finish) : system.Reaches allowed start finish := by
  induction second with
  | refl => exact first
  | step label _ permitted ih => exact ih.step label permitted

/-- A run under an assumption is one under every weaker assumption. -/
theorem mono
    {weaker : Label Operation Event → Pool Operation Command Reply ε α State → Prop}
    (implies : ∀ label pool, allowed label pool → weaker label pool)
    (reached : system.Reaches allowed start finish) : system.Reaches weaker start finish := by
  induction reached with
  | refl => exact .refl
  | step label _ permitted ih => exact ih.step label (implies _ _ permitted)

/-- An invariant kept by every allowed step holds wherever the steps lead. -/
theorem invariant (holds : Pool Operation Command Reply ε α State → Prop)
    (initial : holds start)
    (preserved : ∀ label pool, holds pool → allowed label pool → holds (system.next label pool))
    (reached : system.Reaches allowed start finish) : holds finish := by
  induction reached with
  | refl => exact initial
  | step label _ permitted ih => exact preserved label _ ih permitted

/-- A schedule whose decisions are all allowed is a run. -/
theorem of_admits {labels : List (Label Operation Event)}
    (admitted : system.Admits allowed labels start) :
    system.Reaches allowed start (system.schedule start labels) := by
  induction labels generalizing start with
  | nil => exact .refl
  | cons label rest ih => exact (Reaches.refl.step label admitted.1).trans (ih admitted.2)

/-- Every list of labels is a run when nothing is forbidden. -/
theorem of_schedule (labels : List (Label Operation Event)) :
    system.Reaches (fun _ _ => True) start (system.schedule start labels) := by
  induction labels generalizing start with
  | nil => exact .refl
  | cons label rest ih => exact (Reaches.refl.step label trivial).trans ih

end Reaches

/-! ## What one step changes -/

/-- A step advances the thread it names and leaves the others where they are. -/
theorem next_step_of_get {pool : Pool Operation Command Reply ε α State} {index : Nat}
    {thread : Thread Operation Command Reply ε α} (present : pool.threads[index]? = some thread) :
    system.next (.step index) pool =
      ⟨(system.advance thread.status pool.shared).1,
        pool.threads.set index
          { thread with status := (system.advance thread.status pool.shared).2 }⟩ := by
  simp only [next, present]

/-- A step of a thread that does not exist changes nothing. -/
theorem next_step_of_none {pool : Pool Operation Command Reply ε α State} {index : Nat}
    (absent : pool.threads[index]? = none) : system.next (.step index) pool = pool := by
  simp only [next, absent]

variable (system) in
/-- A step of a thread performs its pending command, or only delivers its outcome. -/
theorem next_step_cases {pool : Pool Operation Command Reply ε α State} {index : Nat}
    {thread : Thread Operation Command Reply ε α} (present : pool.threads[index]? = some thread) :
    (thread.pending = none ∧ ∃ status, system.next (.step index) pool =
      ⟨pool.shared, pool.threads.set index { thread with status }⟩) ∨
    ∃ command next, thread.status = .running (.call command next) ∧
      system.next (.step index) pool =
        ⟨(system.exec command pool.shared).1, pool.threads.set index
          { thread with status := .running (next (system.exec command pool.shared).2) }⟩ := by
  rw [next_step_of_get present]
  cases status : thread.status with
  | running program =>
      cases program with
      | ret value => exact .inl ⟨by rw [Thread.pending, status]; rfl, _, rfl⟩
      | fail error => exact .inl ⟨by rw [Thread.pending, status]; rfl, _, rfl⟩
      | call command next => exact .inr ⟨command, next, rfl, rfl⟩
  | returned value => exact .inl ⟨by rw [Thread.pending, status], _, rfl⟩
  | thrown error => exact .inl ⟨by rw [Thread.pending, status], _, rfl⟩
  | crashed => exact .inl ⟨by rw [Thread.pending, status], _, rfl⟩

/-- A thread with nothing to perform leaves the state alone and does not run on. -/
theorem advance_of_idle {thread : Thread Operation Command Reply ε α} {shared : State}
    (idle : thread.pending = none) : (system.advance thread.status shared).1 = shared ∧
      ∀ program, (system.advance thread.status shared).2 ≠ .running program := by
  cases status : thread.status with
  | running program =>
      cases program with
      | ret value => exact ⟨rfl, fun _ => nofun⟩
      | fail error => exact ⟨rfl, fun _ => nofun⟩
      | call command next =>
          rw [Thread.pending, status] at idle
          cases idle
  | returned value => exact ⟨rfl, fun _ => nofun⟩
  | thrown error => exact ⟨rfl, fun _ => nofun⟩
  | crashed => exact ⟨rfl, fun _ => nofun⟩

/-- A crashed thread is not running. -/
theorem crash_ne_running (status : Status Command Reply ε α) (program : Program Command Reply ε α) :
    crash status ≠ .running program := by
  cases status <;> exact nofun

/-- A crash ends the thread it names and leaves the shared state alone. -/
theorem next_crash_of_get {pool : Pool Operation Command Reply ε α State} {index : Nat}
    {thread : Thread Operation Command Reply ε α} (present : pool.threads[index]? = some thread) :
    system.next (.crash index) pool =
      { pool with
        threads := pool.threads.set index { thread with status := crash thread.status } } := by
  simp only [next, present]

/-- A crash of a thread that does not exist changes nothing. -/
theorem next_crash_of_none {pool : Pool Operation Command Reply ε α State} {index : Nat}
    (absent : pool.threads[index]? = none) : system.next (.crash index) pool = pool := by
  simp only [next, absent]

variable (system) in
/-- Where the shared state of the next pool comes from. One scheduling decision performs one
command at most, or is a step of the environment. -/
theorem shared_next (label : Label Operation Event)
    (pool : Pool Operation Command Reply ε α State) :
    (system.next label pool).shared = pool.shared ∨
    (∃ thread ∈ pool.threads, ∃ command next, thread.status = .running (.call command next) ∧
      (system.next label pool).shared = (system.exec command pool.shared).1) ∨
    ∃ event, (system.next label pool).shared = system.environment event pool.shared := by
  cases label with
  | spawn operation => exact .inl rfl
  | environment event => exact .inr (.inr ⟨event, rfl⟩)
  | crash index =>
      cases found : pool.threads[index]? with
      | none => exact .inl (by rw [next_crash_of_none found])
      | some thread => exact .inl (by rw [next_crash_of_get found])
  | step index =>
      cases found : pool.threads[index]? with
      | none => exact .inl (by rw [next_step_of_none found])
      | some thread =>
          rcases system.next_step_cases found with
            ⟨-, status, same⟩ | ⟨command, next, running, same⟩
          · exact .inl (by rw [same])
          · exact .inr (.inl ⟨thread, List.mem_of_getElem? found, command, next, running,
              by rw [same]⟩)

end System

/-! ## Contracts -/

/-- What a family of threads may do to the shared state (`rely`, a preorder),
what it keeps (`keeps`), and which commands are performed where (`permitted`). -/
structure Contract (Command State : Type) where
  rely : State → State → Prop
  refl : ∀ state, rely state state
  trans : ∀ {first second third}, rely first second → rely second third → rely first third
  keeps : State → Prop
  permitted : Command → State → Prop

/-- An outcome that satisfies `post` wherever the others may move the state. -/
def Contract.Settled (contract : Contract Command State) (post : Except ε α → State → Prop)
    (outcome : Except ε α) (state : State) : Prop :=
  ∀ later, contract.rely state later → contract.keeps later → post outcome later

/-- An outcome that is settled stays so while the others step. -/
theorem Contract.Settled.of_rely {contract : Contract Command State}
    {post : Except ε α → State → Prop} {outcome : Except ε α} {state later : State}
    (settled : contract.Settled post outcome state) (moved : contract.rely state later) :
    contract.Settled post outcome later :=
  fun last further => settled last (contract.trans moved further)

/-- What is asserted of a thread about to perform a command. -/
abbrev CallAssertion (Command : Type) (Reply : Command → Type) (ε α State : Type) : Type :=
  (command : Command) → (Reply command → Program Command Reply ε α) → State → Prop

namespace Program

variable (exec : (command : Command) → State → State × Reply command)
  (contract : Contract Command State)

/-- Whatever the others do, every command is issued where `atCall` holds, every
permitted one stays within the contract, and the outcome satisfies `post`. -/
def Always (atCall : CallAssertion Command Reply ε α State) (post : Except ε α → State → Prop) :
    Program Command Reply ε α → State → Prop
  | ret value, state => contract.Settled post (.ok value) state
  | fail error, state => contract.Settled post (.error error) state
  | call command next, state => ∀ later, contract.rely state later → contract.keeps later →
      atCall command next later ∧
        (contract.permitted command later →
          contract.keeps (exec command later).1 ∧ contract.rely later (exec command later).1 ∧
            Always atCall post (next (exec command later).2) (exec command later).1)

variable {exec contract} {atCall : CallAssertion Command Reply ε α State}
  {post : Except ε α → State → Prop}

/-- The judgement survives everything the contract lets the others do. -/
theorem Always.of_rely {program : Program Command Reply ε α} {state later : State}
    (valid : program.Always exec contract atCall post state) (moved : contract.rely state later) :
    program.Always exec contract atCall post later := by
  cases program with
  | ret value => exact fun last further => valid last (contract.trans moved further)
  | fail error => exact fun last further => valid last (contract.trans moved further)
  | call command next => exact fun last further => valid last (contract.trans moved further)

/-- The outcome may be judged less strictly. -/
theorem Always.weaken {weaker : Except ε α → State → Prop} {program : Program Command Reply ε α}
    {state : State} (valid : program.Always exec contract atCall post state)
    (implies : ∀ outcome later, post outcome later → weaker outcome later) :
    program.Always exec contract atCall weaker state := by
  induction program generalizing state with
  | ret value => exact fun later moved kept => implies _ later (valid later moved kept)
  | fail error => exact fun later moved kept => implies _ later (valid later moved kept)
  | call command next ih =>
      intro later moved kept
      obtain ⟨issued, performed⟩ := valid later moved kept
      refine ⟨issued, fun granted => ?_⟩
      obtain ⟨keeps, relies, rest⟩ := performed granted
      exact ⟨keeps, relies, ih _ rest⟩

/-- It is enough to establish the judgement wherever the others may have moved. -/
theorem Always.of_settled {program : Program Command Reply ε α} {state : State}
    (settled : ∀ later, contract.rely state later → contract.keeps later →
      program.Always exec contract atCall post later) :
    program.Always exec contract atCall post state := by
  cases program with
  | ret value =>
      exact fun later moved kept => settled later moved kept later (contract.refl _) kept
  | fail error =>
      exact fun later moved kept => settled later moved kept later (contract.refl _) kept
  | call command next =>
      exact fun later moved kept => settled later moved kept later (contract.refl _) kept

/-- A `try` block: what its body was judged by carries over when each assertion
in the body implies the one around it, and each outcome is handled well. -/
theorem Always.attempt_bind {ε' β : Type} {caught : CallAssertion Command Reply ε' β State}
    {after : Except ε' β → State → Prop} {body : Program Command Reply ε α}
    {handler : Except ε α → Program Command Reply ε' β} {state : State}
    (valid : body.Always exec contract atCall post state)
    (calls : ∀ command next later, atCall command next later →
      caught command (fun answer => (next answer).attempt >>= handler) later)
    (handled : ∀ outcome later, contract.keeps later → post outcome later →
      (handler outcome).Always exec contract caught after later) :
    (body.attempt >>= handler).Always exec contract caught after state := by
  induction body generalizing state with
  | ret value =>
      exact of_settled fun later moved kept => handled (.ok value) later kept
        (valid later moved kept)
  | fail error =>
      exact of_settled fun later moved kept => handled (.error error) later kept
        (valid later moved kept)
  | call command next ih =>
      intro later moved kept
      obtain ⟨issued, performed⟩ := valid later moved kept
      refine ⟨calls command next later issued, fun granted => ?_⟩
      obtain ⟨keeps, relies, rest⟩ := performed granted
      exact ⟨keeps, relies, ih _ rest⟩

/-- Running alone, a program all of whose commands are permitted stays within its
contract and ends well. -/
theorem Always.run {program : Program Command Reply ε α} {state : State}
    (valid : program.Always exec contract atCall post state) (kept : contract.keeps state)
    (granted : ∀ command next later, atCall command next later →
      contract.permitted command later) :
    contract.keeps (program.run exec state).1 ∧ contract.rely state (program.run exec state).1 ∧
      post (program.run exec state).2 (program.run exec state).1 := by
  induction program generalizing state with
  | ret value => exact ⟨kept, contract.refl state, valid state (contract.refl state) kept⟩
  | fail error => exact ⟨kept, contract.refl state, valid state (contract.refl state) kept⟩
  | call command next ih =>
      obtain ⟨issued, performed⟩ := valid state (contract.refl state) kept
      obtain ⟨keeps, relies, rest⟩ := performed (granted command next state issued)
      obtain ⟨remains, moved, ends⟩ := ih _ rest keeps
      exact ⟨remains, contract.trans relies moved, ends⟩

end Program

/-- The judgement at a thread's present status. -/
def Status.Always (exec : (command : Command) → State → State × Reply command)
    (contract : Contract Command State) (atCall : CallAssertion Command Reply ε α State)
    (post : Except ε α → State → Prop) (state : State) : Status Command Reply ε α → Prop
  | .running program => program.Always exec contract atCall post state
  | .returned value => contract.Settled post (.ok value) state
  | .thrown error => contract.Settled post (.error error) state
  | .crashed => True

/-- What is always true of a thread from a state is so from every later state that the
others may lead to. -/
theorem Status.Always.of_rely {exec : (command : Command) → State → State × Reply command}
    {contract : Contract Command State} {atCall : CallAssertion Command Reply ε α State}
    {post : Except ε α → State → Prop} {state later : State}
    {status : Status Command Reply ε α} (valid : status.Always exec contract atCall post state)
    (moved : contract.rely state later) : status.Always exec contract atCall post later := by
  cases status with
  | running program => exact Program.Always.of_rely valid moved
  | returned value => exact Contract.Settled.of_rely valid moved
  | thrown error => exact Contract.Settled.of_rely valid moved
  | crashed => trivial

namespace System

variable (system : System Operation Command Reply ε α State Event)
  (contract : Contract Command State)
  (atCall : Operation → CallAssertion Command Reply ε α State)
  (post : Operation → Except ε α → State → Prop)

/-- The shared state keeps the invariant and every thread satisfies its
operation's judgement. -/
structure Sound (pool : Pool Operation Command Reply ε α State) : Prop where
  keeps : contract.keeps pool.shared
  threads : ∀ thread ∈ pool.threads, thread.status.Always system.exec contract
    (atCall thread.operation) (post thread.operation) pool.shared

variable {system contract atCall post}

/-- One step of a sound thread stays within the contract and leaves the thread
sound. -/
theorem advance_sound {operation : Operation} {status : Status Command Reply ε α} {shared : State}
    (keeps : contract.keeps shared)
    (valid : status.Always system.exec contract (atCall operation) (post operation) shared)
    (granted : ∀ command next, status = .running (.call command next) →
      contract.permitted command shared) :
    contract.keeps (system.advance status shared).1 ∧
      contract.rely shared (system.advance status shared).1 ∧
      (system.advance status shared).2.Always system.exec contract (atCall operation)
        (post operation) (system.advance status shared).1 := by
  cases status with
  | running program =>
      cases program with
      | ret value => exact ⟨keeps, contract.refl shared, valid⟩
      | fail error => exact ⟨keeps, contract.refl shared, valid⟩
      | call command next =>
          exact (valid shared (contract.refl shared) keeps).2 (granted command next rfl)
  | returned value => exact ⟨keeps, contract.refl shared, valid⟩
  | thrown error => exact ⟨keeps, contract.refl shared, valid⟩
  | crashed => exact ⟨keeps, contract.refl shared, valid⟩

/-- What a scheduling decision must respect for contracts to be carried along. -/
structure Respects (system : System Operation Command Reply ε α State Event)
    (contract : Contract Command State)
    (allowed : Label Operation Event → Pool Operation Command Reply ε α State → Prop) :
    Prop where
  permits : ∀ {index pool thread command}, allowed (.step index) pool →
    pool.threads[index]? = some thread → thread.pending = some command →
      contract.permitted command pool.shared
  environment : ∀ {event pool}, allowed (.environment event) pool → contract.keeps pool.shared →
    contract.keeps (system.environment event pool.shared) ∧
      contract.rely pool.shared (system.environment event pool.shared)

/-- A thread list with one entry replaced holds the replacement and old entries. -/
theorem forall_mem_set {threads : List (Thread Operation Command Reply ε α)} {index : Nat}
    {replacement : Thread Operation Command Reply ε α}
    {holds : Thread Operation Command Reply ε α → Prop} (old : ∀ thread ∈ threads, holds thread)
    (new : holds replacement) : ∀ thread ∈ threads.set index replacement, holds thread := by
  intro thread member
  rcases List.mem_or_eq_of_mem_set member with present | same
  · exact old thread present
  · exact same ▸ new

/-- One allowed decision keeps a pool sound and moves the shared state within
the contract. -/
theorem Sound.next
    {allowed : Label Operation Event → Pool Operation Command Reply ε α State → Prop}
    (respects : system.Respects contract allowed)
    (spawns : ∀ operation pool, allowed (.spawn operation) pool → contract.keeps pool.shared →
      (system.code operation).Always system.exec contract (atCall operation) (post operation)
        pool.shared)
    {pool : Pool Operation Command Reply ε α State} {label : Label Operation Event}
    (sound : system.Sound contract atCall post pool) (permitted : allowed label pool) :
    system.Sound contract atCall post (system.next label pool) ∧
      contract.rely pool.shared (system.next label pool).shared := by
  cases label with
  | spawn operation =>
      refine ⟨⟨sound.keeps, ?_⟩, contract.refl _⟩
      intro thread member
      rcases List.mem_append.mp member with present | added
      · exact sound.threads thread present
      · rw [List.mem_singleton.mp added]
        exact spawns operation pool permitted sound.keeps
  | step index =>
      cases found : pool.threads[index]? with
      | none => rw [next_step_of_none found]; exact ⟨sound, contract.refl _⟩
      | some thread =>
          rw [next_step_of_get found]
          have valid := sound.threads thread (List.mem_of_getElem? found)
          obtain ⟨keeps, moved, stepped⟩ := advance_sound sound.keeps valid
            fun command next running => respects.permits permitted found
              (by simp only [Thread.pending, running, Program.pending_call])
          exact ⟨⟨keeps, forall_mem_set
            (fun other member => (sound.threads other member).of_rely moved) stepped⟩, moved⟩
  | crash index =>
      cases found : pool.threads[index]? with
      | none => rw [next_crash_of_none found]; exact ⟨sound, contract.refl _⟩
      | some thread =>
          rw [next_crash_of_get found]
          have valid := sound.threads thread (List.mem_of_getElem? found)
          refine ⟨⟨sound.keeps, forall_mem_set sound.threads ?_⟩, contract.refl _⟩
          cases status : thread.status with
          | running program => trivial
          | returned value => simpa only [crash, status] using valid
          | thrown error => simpa only [crash, status] using valid
          | crashed => trivial
  | environment event =>
      obtain ⟨keeps, moved⟩ := respects.environment permitted sound.keeps
      exact ⟨⟨keeps, fun thread member => (sound.threads thread member).of_rely moved⟩, moved⟩

/-- Every pool of every interleaving is sound, and its shared state is one the
contract lets the start move to. -/
theorem Reaches.sound
    {allowed : Label Operation Event → Pool Operation Command Reply ε α State → Prop}
    (respects : system.Respects contract allowed)
    (spawns : ∀ operation pool, allowed (.spawn operation) pool → contract.keeps pool.shared →
      (system.code operation).Always system.exec contract (atCall operation) (post operation)
        pool.shared)
    {start finish : Pool Operation Command Reply ε α State}
    (initial : system.Sound contract atCall post start)
    (reached : system.Reaches allowed start finish) :
    system.Sound contract atCall post finish ∧ contract.rely start.shared finish.shared := by
  induction reached with
  | refl => exact ⟨initial, contract.refl _⟩
  | step label _ permitted ih =>
      obtain ⟨stepped, moved⟩ := ih.1.next respects spawns permitted
      exact ⟨stepped, contract.trans ih.2 moved⟩

/-! ## Properties of single threads -/

/-- Where a thread of the pool after one decision comes from: it stood still, has just been
spawned, took the step, or crashed. -/
theorem get_next {pool : Pool Operation Command Reply ε α State} {label : Label Operation Event}
    {index : Nat} {thread : Thread Operation Command Reply ε α}
    (present : (system.next label pool).threads[index]? = some thread) :
    (pool.threads[index]? = some thread ∧ label ≠ .step index) ∨
    (∃ operation, label = .spawn operation ∧ index = pool.threads.length ∧
      thread = ⟨operation, .running (system.code operation)⟩) ∨
    ∃ old, pool.threads[index]? = some old ∧
      (label = .step index ∧
        thread = { old with status := (system.advance old.status pool.shared).2 } ∨
      label = .crash index ∧ thread = { old with status := crash old.status }) := by
  cases label with
  | spawn operation =>
      rw [next, List.getElem?_append] at present
      split at present
      · exact .inl ⟨present, nofun⟩
      · obtain ⟨last, single⟩ := List.getElem?_eq_some_iff.mp present
        have only : index - pool.threads.length = 0 := Nat.lt_one_iff.mp last
        refine .inr (.inl ⟨operation, rfl, by omega, ?_⟩)
        simpa only [only, List.getElem_cons_zero] using single.symm
  | step stepping =>
      cases found : pool.threads[stepping]? with
      | none =>
          rw [next_step_of_none found] at present
          refine .inl ⟨present, ?_⟩
          rintro ⟨rfl⟩
          rw [found] at present
          cases present
      | some old =>
          rw [next_step_of_get found, List.getElem?_set] at present
          split at present
          · rename_i same
            subst same
            split at present
            · cases present
              exact .inr (.inr ⟨old, found, .inl ⟨rfl, rfl⟩⟩)
            · cases present
          · rename_i differ
            exact .inl ⟨present, by rintro ⟨rfl⟩; exact differ rfl⟩
  | crash stopping =>
      cases found : pool.threads[stopping]? with
      | none =>
          rw [next_crash_of_none found] at present
          exact .inl ⟨present, nofun⟩
      | some old =>
          rw [next_crash_of_get found, List.getElem?_set] at present
          split at present
          · rename_i same
            subst same
            split at present
            · cases present
              exact .inr (.inr ⟨old, found, .inr ⟨rfl, rfl⟩⟩)
            · cases present
          · exact .inl ⟨present, nofun⟩
  | environment event => exact .inl ⟨present, nofun⟩

/-- A thread keeps its operation; a new one comes last. -/
theorem operation_of_next {pool : Pool Operation Command Reply ε α State}
    {label : Label Operation Event} {index : Nat} {thread : Thread Operation Command Reply ε α}
    (present : (system.next label pool).threads[index]? = some thread) :
    (∃ old, pool.threads[index]? = some old ∧ old.operation = thread.operation) ∨
      label = .spawn thread.operation ∧ index = pool.threads.length := by
  rcases get_next present with ⟨old, _⟩ | ⟨operation, rfl, rfl, rfl⟩ |
    ⟨old, found, ⟨_, rfl⟩ | ⟨_, rfl⟩⟩
  · exact .inl ⟨thread, old, rfl⟩
  · exact .inr ⟨rfl, rfl⟩
  · exact .inl ⟨old, found, rfl⟩
  · exact .inl ⟨old, found, rfl⟩

/-- A property of single threads that each thread's own steps keep, and that the
decisions for others cannot take away, holds of every thread wherever the
interleavings lead. -/
theorem Reaches.thread_invariant
    {allowed : Label Operation Event → Pool Operation Command Reply ε α State → Prop}
    {start finish : Pool Operation Command Reply ε α State}
    (holds : Nat → Thread Operation Command Reply ε α → State → Prop)
    (initial : ∀ index thread, start.threads[index]? = some thread →
      holds index thread start.shared)
    (spawns : ∀ operation pool, system.Reaches allowed start pool →
      allowed (.spawn operation) pool →
      holds pool.threads.length ⟨operation, .running (system.code operation)⟩ pool.shared)
    (steps : ∀ index thread pool, system.Reaches allowed start pool →
      allowed (.step index) pool → pool.threads[index]? = some thread →
      holds index thread pool.shared →
      holds index { thread with status := (system.advance thread.status pool.shared).2 }
        (system.advance thread.status pool.shared).1)
    (crashes : ∀ index thread shared, holds index thread shared →
      holds index { thread with status := crash thread.status } shared)
    (moves : ∀ label index thread pool, system.Reaches allowed start pool →
      allowed label pool → holds index thread pool.shared →
      holds index thread (system.next label pool).shared)
    (reached : system.Reaches allowed start finish) :
    ∀ index thread, finish.threads[index]? = some thread → holds index thread finish.shared := by
  induction reached with
  | refl => exact initial
  | @step pool label reached permitted ih =>
      intro index thread present
      rcases get_next present with
        ⟨same, _⟩ | ⟨operation, rfl, rfl, rfl⟩ | ⟨old, found, ⟨rfl, rfl⟩ | ⟨rfl, rfl⟩⟩
      · exact moves label index thread pool reached permitted (ih index thread same)
      · exact spawns operation pool reached permitted
      · rw [next_step_of_get found]
        exact steps index old pool reached permitted found (ih index old found)
      · rw [next_crash_of_get found]
        exact crashes index old _ (ih index old found)

/-- The same for a property that also looks back at the run: the decisions for others
lengthen the run behind every thread. -/
theorem Reaches.thread_history
    {allowed : Label Operation Event → Pool Operation Command Reply ε α State → Prop}
    {start finish : Pool Operation Command Reply ε α State}
    (holds : Pool Operation Command Reply ε α State → Nat →
      Thread Operation Command Reply ε α → Prop)
    (initial : ∀ index thread, start.threads[index]? = some thread → holds start index thread)
    (spawns : ∀ operation pool, system.Reaches allowed start pool →
      allowed (.spawn operation) pool → holds (system.next (.spawn operation) pool)
        pool.threads.length ⟨operation, .running (system.code operation)⟩)
    (steps : ∀ index thread pool, system.Reaches allowed start pool →
      allowed (.step index) pool → pool.threads[index]? = some thread → holds pool index thread →
      holds (system.next (.step index) pool) index
        { thread with status := (system.advance thread.status pool.shared).2 })
    (crashes : ∀ index thread pool, holds pool index thread →
      holds (system.next (.crash index) pool) index { thread with status := crash thread.status })
    (others : ∀ label index thread pool, system.Reaches allowed start pool →
      allowed label pool → label ≠ .step index → holds pool index thread →
      holds (system.next label pool) index thread)
    (reached : system.Reaches allowed start finish) :
    ∀ index thread, finish.threads[index]? = some thread → holds finish index thread := by
  induction reached with
  | refl => exact initial
  | @step pool label reached permitted ih =>
      intro index thread present
      rcases get_next present with
        ⟨same, other⟩ | ⟨operation, rfl, rfl, rfl⟩ | ⟨old, found, ⟨rfl, rfl⟩ | ⟨rfl, rfl⟩⟩
      · exact others label index thread pool reached permitted other (ih index thread same)
      · exact spawns operation pool reached permitted
      · exact steps index old pool reached permitted found (ih index old found)
      · exact crashes index old pool (ih index old found)

variable (system) in
/-- Threads keep their place and their operation; a decision changes at most their status. -/
theorem next_of_get {pool : Pool Operation Command Reply ε α State}
    (label : Label Operation Event) {index : Nat} {thread : Thread Operation Command Reply ε α}
    (present : pool.threads[index]? = some thread) :
    ∃ later, (system.next label pool).threads[index]? = some later ∧
      later.operation = thread.operation := by
  have bound := (List.getElem?_eq_some_iff.mp present).1
  cases label with
  | spawn operation =>
      refine ⟨thread, ?_, rfl⟩
      rw [next, List.getElem?_append_left bound]
      exact present
  | step stepping =>
      by_cases same : stepping = index
      · subst same
        refine ⟨{ thread with status := (system.advance thread.status pool.shared).2 }, ?_, rfl⟩
        rw [next_step_of_get present]
        exact List.getElem?_set_self bound
      · refine ⟨thread, ?_, rfl⟩
        cases found : pool.threads[stepping]? with
        | none => rwa [next_step_of_none found]
        | some other => rwa [next_step_of_get found, List.getElem?_set_ne same]
  | crash stopping =>
      by_cases same : stopping = index
      · subst same
        refine ⟨{ thread with status := crash thread.status }, ?_, rfl⟩
        rw [next_crash_of_get present]
        exact List.getElem?_set_self bound
      · refine ⟨thread, ?_, rfl⟩
        cases found : pool.threads[stopping]? with
        | none => rwa [next_crash_of_none found]
        | some other => rwa [next_crash_of_get found, List.getElem?_set_ne same]
  | environment event => exact ⟨thread, present, rfl⟩

/-- Threads are never removed. -/
theorem length_threads_next (label : Label Operation Event)
    (pool : Pool Operation Command Reply ε α State) :
    pool.threads.length ≤ (system.next label pool).threads.length := by
  cases label with
  | spawn operation =>
      rw [next, List.length_append]
      exact Nat.le_add_right _ _
  | step index =>
      cases found : pool.threads[index]? with
      | none => exact Nat.le_of_eq (by rw [next_step_of_none found])
      | some thread => exact Nat.le_of_eq (by rw [next_step_of_get found, List.length_set])
  | crash index =>
      cases found : pool.threads[index]? with
      | none => exact Nat.le_of_eq (by rw [next_crash_of_none found])
      | some thread => exact Nat.le_of_eq (by rw [next_crash_of_get found, List.length_set])
  | environment event => exact Nat.le_refl _

/-- A run only adds threads. -/
theorem Reaches.length_threads
    {allowed : Label Operation Event → Pool Operation Command Reply ε α State → Prop}
    {start finish : Pool Operation Command Reply ε α State}
    (reached : system.Reaches allowed start finish) :
    start.threads.length ≤ finish.threads.length := by
  induction reached with
  | refl => exact Nat.le_refl _
  | step label _ _ ih => exact Nat.le_trans ih (length_threads_next label _)

end System

/-! ## One thread of a system that keeps a contract -/

/-- The contract as one thread may use it once every step of the system is known to
stay within it: its own commands need no justification. -/
def Contract.kept (contract : Contract Command State)
    (exec : (command : Command) → State → State × Reply command) : Contract Command State :=
  { contract with
    permitted := fun command state =>
      contract.keeps (exec command state).1 ∧ contract.rely state (exec command state).1 }

namespace Program

variable {exec : (command : Command) → State → State × Reply command}
  {contract : Contract Command State} {atCall : CallAssertion Command Reply ε α State}
  {post : Except ε α → State → Prop} {allowed : Command → Prop} {state : State}

/-- To verify a call it is enough to verify it in the later states that keep the contract,
and to go on from a state that the call left with the contract kept. -/
theorem Always.call_kept {command : Command} {next : Reply command → Program Command Reply ε α}
    (rest : ∀ later, contract.rely state later → contract.keeps later →
      atCall command next later ∧ (contract.keeps (exec command later).1 →
        contract.rely later (exec command later).1 →
          (next (exec command later).2).Always exec (contract.kept exec) atCall post
            (exec command later).1)) :
    (call command next).Always exec (contract.kept exec) atCall post state :=
  fun later moved kept => ⟨(rest later moved kept).1,
    fun granted => ⟨granted.1, granted.2, (rest later moved kept).2 granted.1 granted.2⟩⟩

/-- Commands of which nothing is asserted, whatever outcome they lead to. -/
theorem Only.always {program : Program Command Reply ε α} (only : program.Only allowed)
    (calm : ∀ command next later, allowed command → atCall command next later)
    (ends : ∀ outcome later, post outcome later) :
    program.Always exec (contract.kept exec) atCall post state := by
  induction program generalizing state with
  | ret value => exact fun later _ _ => ends _ later
  | fail error => exact fun later _ _ => ends _ later
  | call command next ih =>
      apply Always.call_kept
      exact fun later _ _ => ⟨calm command next later only.1, fun _ _ => ih _ (only.2 _)⟩

/-- Commands of which nothing is asserted, before the rest. -/
theorem Only.always_bind {program : Program Command Reply ε β}
    {next : β → Program Command Reply ε α} (only : program.Only allowed)
    (calm : ∀ command continuation later, allowed command → atCall command continuation later)
    (thrown : ∀ error later, post (.error error) later)
    (rest : ∀ value later, contract.rely state later →
      (next value).Always exec (contract.kept exec) atCall post later) :
    (program >>= next).Always exec (contract.kept exec) atCall post state := by
  induction program generalizing state with
  | ret value => exact rest value state (contract.refl state)
  | fail error => exact fun later _ _ => thrown error later
  | call command reply ih =>
      apply Always.call_kept
      intro later moved _
      refine ⟨calm command _ later only.1, fun _ stepped => ih _ (only.2 _) ?_⟩
      intro value last further
      exact rest value last (contract.trans (contract.trans moved stepped) further)

end Program

/-- Threads judged where they stand stay judged in a system that keeps the
contract; the judgement may concern some of the threads only. -/
theorem System.Reaches.judged
    {system : System Operation Command Reply ε α State Event}
    {allowed : Label Operation Event → Pool Operation Command Reply ε α State → Prop}
    {start finish : Pool Operation Command Reply ε α State} {contract : Contract Command State}
    (atCall : Operation → CallAssertion Command Reply ε α State)
    (post : Operation → Except ε α → State → Prop) (concerns : Nat → Prop)
    (stays : ∀ label pool, system.Reaches allowed start pool → allowed label pool →
      contract.keeps pool.shared ∧ contract.keeps (system.next label pool).shared ∧
        contract.rely pool.shared (system.next label pool).shared)
    (initial : ∀ index thread, concerns index → start.threads[index]? = some thread →
      thread.status.Always system.exec (contract.kept system.exec) (atCall thread.operation)
        (post thread.operation) start.shared)
    (spawns : ∀ operation pool, system.Reaches allowed start pool →
      concerns pool.threads.length → (system.code operation).Always system.exec
        (contract.kept system.exec) (atCall operation) (post operation) pool.shared)
    (reached : system.Reaches allowed start finish) :
    ∀ index thread, concerns index → finish.threads[index]? = some thread →
      thread.status.Always system.exec (contract.kept system.exec) (atCall thread.operation)
        (post thread.operation) finish.shared := by
  intro index thread concerned present
  revert concerned
  refine reached.thread_invariant (fun index thread shared => concerns index →
    thread.status.Always system.exec (contract.kept system.exec) (atCall thread.operation)
      (post thread.operation) shared) ?_ ?_ ?_ ?_ ?_ index thread present
  · exact fun index thread present concerned => initial index thread concerned present
  · exact fun operation pool toPool _ concerned => spawns operation pool toPool concerned
  · intro index thread pool toPool permitted present judged concerned
    obtain ⟨keeps, keepsNext, moved⟩ := stays _ _ toPool permitted
    rw [next_step_of_get present] at keepsNext moved
    have kept : (contract.kept system.exec).keeps pool.shared := keeps
    refine (advance_sound kept (judged concerned) fun command next running => ?_).2.2
    rw [running] at keepsNext moved
    exact ⟨keepsNext, moved⟩
  · intro index thread shared judged concerned
    have now := judged concerned
    cases status : thread.status with
    | running program => trivial
    | returned value => simpa only [crash, status] using now
    | thrown error => simpa only [crash, status] using now
    | crashed => trivial
  · intro label index thread pool toPool permitted judged concerned
    exact (judged concerned).of_rely (stays _ _ toPool permitted).2.2

end Concurrency
