import NestMonorepo.Concurrency.Program

/-! # Commands that are programs themselves

Where a command of one interface takes several commands of another, a program over the
first is one over the second.
-/

namespace Concurrency

variable {Command Finer : Type} {Reply : Command → Type} {FinerReply : Finer → Type}
  {ε α β : Type}

namespace Program

/-- The program with each command replaced by what answers it. -/
def expand (answer : (command : Command) → Program Finer FinerReply ε (Reply command)) :
    Program Command Reply ε α → Program Finer FinerReply ε α
  | ret value => ret value
  | fail error => fail error
  | call command next => answer command >>= fun reply => (next reply).expand answer

variable {answer : (command : Command) → Program Finer FinerReply ε (Reply command)}

/-- Expanding the commands of two programs one after the other is expanding each. -/
theorem expand_bind (program : Program Command Reply ε α)
    (next : α → Program Command Reply ε β) :
    (program >>= next).expand answer =
      program.expand answer >>= fun value => (next value).expand answer := by
  induction program with
  | ret value => rfl
  | fail error => rfl
  | call command reply ih =>
      rw [call_bind]
      simp only [expand, ih, bind_assoc]

/-- What the expanded program performs, command by command. -/
theorem Only.expand {allowed : Command → Prop} {finer : Finer → Prop}
    {program : Program Command Reply ε α} (only : program.Only allowed)
    (answers : ∀ command, allowed command → (answer command).Only finer) :
    (program.expand answer).Only finer := by
  induction program with
  | ret value => trivial
  | fail error => trivial
  | call command next ih =>
      exact .bind (answers command only.1) fun reply => ih reply (only.2 reply)

end Program

end Concurrency
