import Mathlib.Logic.Basic
import Mathlib.Tactic.TypeStar

/-! # Programs over commands with typed replies

A service handler performs commands (a query, a write, a call to a peer), each
answered by a value of a type that depends on the command, and continues with
the answer; it ends by returning or by throwing. Awaiting a command is where
other handlers may run, so the same program has a sequential meaning
(`Program.run`) and, in a pool of threads, an interleaved one.
-/

namespace Concurrency

/-- A handler: it returns, throws, or performs one command and continues with
the reply. -/
inductive Program (Command : Type) (Reply : Command → Type) (ε α : Type) where
  | ret (value : α)
  | fail (error : ε)
  | call (command : Command) (next : Reply command → Program Command Reply ε α)

namespace Program

variable {Command : Type} {Reply : Command → Type} {ε ε' α β γ State : Type}

/-- Continue with the returned value; a thrown error skips the rest. -/
def bind : Program Command Reply ε α → (α → Program Command Reply ε β) →
    Program Command Reply ε β
  | ret value, next => next value
  | fail error, _ => fail error
  | call command reply, next => call command fun answer => (reply answer).bind next

instance : Monad (Program Command Reply ε) where
  pure := ret
  bind := bind

/-- Perform one command and return its reply. -/
def perform (command : Command) : Program Command Reply ε (Reply command) :=
  call command ret

/-- Run a program to its outcome without letting its error escape: the body of
a `try`. -/
def attempt : Program Command Reply ε α → Program Command Reply ε' (Except ε α)
  | ret value => ret (.ok value)
  | fail error => ret (.error error)
  | call command next => call command fun answer => (next answer).attempt

/-- End with a given outcome. -/
def ofExcept : Except ε α → Program Command Reply ε α
  | .ok value => ret value
  | .error error => fail error

/-- `pure` is the program that returns at once. -/
@[simp] theorem pure_eq (value : α) :
    (pure value : Program Command Reply ε α) = ret value := rfl

/-- A returned value is handed on. -/
@[simp] theorem ret_bind (value : α) (next : α → Program Command Reply ε β) :
    ret value >>= next = next value := rfl

/-- A failure skips what follows. -/
@[simp] theorem fail_bind (error : ε) (next : α → Program Command Reply ε β) :
    (fail error : Program Command Reply ε α) >>= next = fail error := rfl

/-- What follows a command's continuation follows the command. -/
@[simp] theorem call_bind (command : Command) (reply : Reply command → Program Command Reply ε α)
    (next : α → Program Command Reply ε β) :
    call command reply >>= next = call command fun answer => reply answer >>= next := rfl

/-- A single command followed by its continuation. -/
@[simp] theorem perform_bind (command : Command)
    (next : Reply command → Program Command Reply ε β) :
    perform command >>= next = call command next := rfl

/-- A caught program that returns has a value. -/
@[simp] theorem attempt_ret (value : α) :
    (ret value : Program Command Reply ε α).attempt =
      (ret (.ok value) : Program Command Reply ε' _) := rfl

/-- A caught program that fails returns its error as a value. -/
@[simp] theorem attempt_fail (error : ε) :
    (fail error : Program Command Reply ε α).attempt =
      (ret (.error error) : Program Command Reply ε' _) := rfl

/-- Catching passes over a command to its continuation. -/
@[simp] theorem attempt_call (command : Command)
    (next : Reply command → Program Command Reply ε α) :
    (call command next).attempt =
      (call command fun answer => (next answer).attempt : Program Command Reply ε' _) := rfl

/-- A performed command never fails by itself. -/
@[simp] theorem attempt_perform (command : Command) :
    (perform command : Program Command Reply ε _).attempt =
      (call command fun answer => ret (.ok answer) : Program Command Reply ε' _) := rfl

/-- A computed value is returned. -/
@[simp] theorem ofExcept_ok (value : α) :
    (ofExcept (.ok value) : Program Command Reply ε α) = ret value := rfl

/-- A computed error is thrown. -/
@[simp] theorem ofExcept_error (error : ε) :
    (ofExcept (.error error) : Program Command Reply ε α) = fail error := rfl

/-- Sequencing is associative, so blocks of a handler can be regrouped. -/
theorem bind_assoc (program : Program Command Reply ε α)
    (first : α → Program Command Reply ε β) (second : β → Program Command Reply ε γ) :
    (program >>= first) >>= second = program >>= fun value => first value >>= second := by
  induction program with
  | ret value => rfl
  | fail error => rfl
  | call command next ih =>
      simp only [call_bind]
      congr 1
      funext answer
      exact ih answer

/-- The command a program is about to perform, if any. -/
def pending : Program Command Reply ε α → Option Command
  | call command _ => some command
  | _ => none

/-- A program that has returned waits for no command. -/
@[simp] theorem pending_ret (value : α) :
    (ret value : Program Command Reply ε α).pending = none := rfl

/-- A program that has failed waits for no command. -/
@[simp] theorem pending_fail (error : ε) :
    (fail error : Program Command Reply ε α).pending = none := rfl

/-- A program at a call waits for that command. -/
@[simp] theorem pending_call (command : Command)
    (next : Reply command → Program Command Reply ε α) :
    (call command next).pending = some command := rfl

/-! ## Running alone -/

/-- Run a program with nothing in between its commands. -/
def run (exec : (command : Command) → State → State × Reply command) :
    Program Command Reply ε α → State → State × Except ε α
  | ret value, state => (state, .ok value)
  | fail error, state => (state, .error error)
  | call command next, state => (next (exec command state).2).run exec (exec command state).1

variable (exec : (command : Command) → State → State × Reply command)

/-- Returning leaves the state alone. -/
@[simp] theorem run_ret (value : α) (state : State) :
    (ret value : Program Command Reply ε α).run exec state = (state, .ok value) := rfl

/-- Failing leaves the state alone. -/
@[simp] theorem run_fail (error : ε) (state : State) :
    (fail error : Program Command Reply ε α).run exec state = (state, .error error) := rfl

/-- A call is executed and the rest runs from the state it leaves. -/
@[simp] theorem run_call (command : Command)
    (next : Reply command → Program Command Reply ε α) (state : State) :
    (call command next).run exec state =
      (next (exec command state).2).run exec (exec command state).1 := rfl

/-- To run a sequence is to run its first part and, if this has returned, the rest from
where it left the state. -/
theorem run_bind (program : Program Command Reply ε α)
    (next : α → Program Command Reply ε β) (state : State) :
    (program >>= next).run exec state =
      match program.run exec state with
      | (after, .ok value) => (next value).run exec after
      | (after, .error error) => (after, .error error) := by
  induction program generalizing state with
  | ret value => rfl
  | fail error => rfl
  | call command reply ih => exact ih _ _

/-- A program that returned carries on in the state it left. -/
theorem run_bind_of_ok {program : Program Command Reply ε α} {state after : State} {value : α}
    (ran : program.run exec state = (after, .ok value))
    (next : α → Program Command Reply ε β) :
    (program >>= next).run exec state = (next value).run exec after := by
  rw [run_bind, ran]

/-- A program that threw ends the whole. -/
theorem run_bind_of_error {program : Program Command Reply ε α} {state after : State} {error : ε}
    (ran : program.run exec state = (after, .error error))
    (next : α → Program Command Reply ε β) :
    (program >>= next).run exec state = (after, .error error) := by
  rw [run_bind, ran]

/-- A caught program leaves the state as the program does, and never fails. -/
theorem run_attempt (program : Program Command Reply ε α) (state : State) :
    (program.attempt : Program Command Reply ε' _).run exec state =
      ((program.run exec state).1, .ok (program.run exec state).2) := by
  induction program generalizing state with
  | ret value => rfl
  | fail error => rfl
  | call command next ih => exact ih _ _

/-- A relation that every command respects and that composes is respected by
the whole run. -/
theorem run_relation (relation : State → State → Prop) (refl : ∀ state, relation state state)
    (trans : ∀ {first second third}, relation first second → relation second third →
      relation first third)
    (step : ∀ command state, relation state (exec command state).1)
    (program : Program Command Reply ε α) (state : State) :
    relation state (program.run exec state).1 := by
  induction program generalizing state with
  | ret value => exact refl state
  | fail error => exact refl state
  | call command next ih => exact trans (step command state) (ih _ _)

/-! ## The commands a program may perform -/

/-- Whatever it is answered, the program only performs `allowed` commands. -/
def Only (allowed : Command → Prop) : Program Command Reply ε α → Prop
  | call command next => allowed command ∧ ∀ reply, (next reply).Only allowed
  | _ => True

variable {exec} {allowed : Command → Prop}

/-- Returning performs no command. -/
@[simp] theorem only_ret (value : α) :
    (ret value : Program Command Reply ε α).Only allowed := trivial

/-- Failing performs no command. -/
@[simp] theorem only_fail (error : ε) :
    (fail error : Program Command Reply ε α).Only allowed := trivial

/-- A program that keeps to a set of commands keeps to every larger one. -/
theorem Only.mono {weaker : Command → Prop} {program : Program Command Reply ε α}
    (only : program.Only allowed) (implies : ∀ command, allowed command → weaker command) :
    program.Only weaker := by
  induction program with
  | ret value => trivial
  | fail error => trivial
  | call command next ih => exact ⟨implies command only.1, fun reply => ih reply (only.2 reply)⟩

/-- A sequence keeps to the commands that both of its parts keep to. -/
theorem Only.bind {program : Program Command Reply ε α} {next : α → Program Command Reply ε β}
    (only : program.Only allowed) (rest : ∀ value, (next value).Only allowed) :
    (program >>= next).Only allowed := by
  induction program with
  | ret value => exact rest value
  | fail error => trivial
  | call command reply ih => exact ⟨only.1, fun answer => ih answer (only.2 answer)⟩

/-- Catching the errors of a program adds no command. -/
theorem Only.attempt {program : Program Command Reply ε α} (only : program.Only allowed) :
    (program.attempt : Program Command Reply ε' _).Only allowed := by
  induction program with
  | ret value => trivial
  | fail error => trivial
  | call command reply ih => exact ⟨only.1, fun answer => ih answer (only.2 answer)⟩

/-- Every program keeps to the set of all commands. -/
theorem only_true (program : Program Command Reply ε α) : program.Only fun _ => True := by
  induction program with
  | ret value => trivial
  | fail error => trivial
  | call command next ih => exact ⟨trivial, ih⟩

/-- A single command keeps to a set that it is in. -/
theorem only_perform {command : Command} (permitted : allowed command) :
    (perform command : Program Command Reply ε _).Only allowed :=
  ⟨permitted, fun _ => trivial⟩

/-- A result that is just passed on performs no command. -/
theorem only_ofExcept (outcome : Except ε α) :
    (ofExcept outcome : Program Command Reply ε α).Only allowed := by
  cases outcome <;> trivial

/-- A relation that the allowed commands respect is respected by the whole run. -/
theorem Only.run_relation {program : Program Command Reply ε α} (only : program.Only allowed)
    (relation : State → State → Prop) (refl : ∀ state, relation state state)
    (trans : ∀ {first second third}, relation first second → relation second third →
      relation first third)
    (step : ∀ command state, allowed command → relation state (exec command state).1)
    (state : State) : relation state (program.run exec state).1 := by
  induction program generalizing state with
  | ret value => exact refl state
  | fail error => exact refl state
  | call command next ih => exact trans (step command state only.1) (ih _ (only.2 _) _)

/-! ## The errors a program may throw -/

/-- Whatever it is answered, the program only throws errors that `thrown` allows. -/
def Throws (thrown : ε → Prop) : Program Command Reply ε α → Prop
  | ret _ => True
  | fail error => thrown error
  | call _ next => ∀ reply, (next reply).Throws thrown

section Throws

variable {thrown : ε → Prop}

/-- What returns throws nothing. -/
theorem throws_ret (value : α) : (ret value : Program Command Reply ε α).Throws thrown := trivial

/-- A command does not throw by itself: its reply is a value. -/
theorem throws_perform (command : Command) :
    (perform command : Program Command Reply ε _).Throws thrown := fun _ => trivial

/-- A sequence throws what its parts throw. -/
theorem Throws.bind {program : Program Command Reply ε α} {next : α → Program Command Reply ε β}
    (throws : program.Throws thrown) (rest : ∀ value, (next value).Throws thrown) :
    (program >>= next).Throws thrown := by
  induction program with
  | ret value => exact rest value
  | fail error => exact throws
  | call command reply ih => exact fun answer => ih answer (throws answer)

/-- A body whose errors are caught, and what is made of them. -/
theorem Throws.attempt_bind {caught : ε' → Prop} {program : Program Command Reply ε α}
    {next : Except ε α → Program Command Reply ε' β} (throws : program.Throws thrown)
    (returned : ∀ value, (next (.ok value)).Throws caught)
    (failed : ∀ error, thrown error → (next (.error error)).Throws caught) :
    (program.attempt >>= next).Throws caught := by
  induction program with
  | ret value => exact returned value
  | fail error => exact failed error throws
  | call command reply ih => exact fun answer => ih answer (throws answer)

/-- A run that ends with an error ends with one that is allowed. -/
theorem Throws.run {program : Program Command Reply ε α} (throws : program.Throws thrown)
    {state : State} {error : ε} (failed : (program.run exec state).2 = .error error) :
    thrown error := by
  induction program generalizing state with
  | ret value => cases failed
  | fail raised =>
      cases failed
      exact throws
  | call command next ih => exact ih _ (throws _) failed

end Throws

/-! ## Running up to a point -/

/-- Disturbed between its commands by `moves` alone, the program comes to where `goal`
holds, and `meanwhile` holds on the way. -/
def Until (exec : (command : Command) → State → State × Reply command)
    (moves : State → State → Prop) (meanwhile goal : Program Command Reply ε α → State → Prop) :
    Program Command Reply ε α → State → Prop
  | call command next, state => goal (call command next) state ∨
      meanwhile (call command next) state ∧ ∀ later, moves state later →
        (next (exec command later).2).Until exec moves meanwhile goal (exec command later).1
  | ret value, state => goal (ret value) state
  | fail error, state => goal (fail error) state

section Until

variable {moves : State → State → Prop} {meanwhile goal : Program Command Reply ε α → State → Prop}
  {program : Program Command Reply ε α} {state later : State}

/-- A program on its way has come to its goal, or it performs one more command. -/
theorem Until.cases (onItsWay : program.Until exec moves meanwhile goal state) :
    goal program state ∨ ∃ command next, program = call command next ∧
      meanwhile program state ∧ ∀ later, moves state later →
        (next (exec command later).2).Until exec moves meanwhile goal (exec command later).1 := by
  cases program with
  | ret value => exact .inl onItsWay
  | fail error => exact .inl onItsWay
  | call command next =>
      rcases onItsWay with reached | ⟨holds, rest⟩
      · exact .inl reached
      · exact .inr ⟨command, next, rfl, holds, rest⟩

end Until

end Program

end Concurrency
