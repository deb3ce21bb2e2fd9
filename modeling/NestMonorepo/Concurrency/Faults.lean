import NestMonorepo.Concurrency.Program

/-! # Programs alone with their faults

Where a command may be answered in more than one way, a program that runs alone has many
runs, and a crash may end each of them after any command. `Program.Throughout` judges all
of them at once: an invariant holds at every point of every run, and the postcondition at
its end.
-/

namespace Concurrency

variable {Command : Type} {Reply : Command → Type} {ε ε' α β State : Type}

/-- What a command may leave behind and answer. -/
abbrev Attempts (Command : Type) (Reply : Command → Type) (State : Type) : Type :=
  (command : Command) → State → State × Reply command → Prop

namespace Program

/-- The points a program comes to. -/
inductive Comes (attempts : Attempts Command Reply State) (program : Program Command Reply ε α)
    (state : State) : Program Command Reply ε α → State → Prop
  | here : Comes attempts program state program state
  | call {command next before after} : Comes attempts program state (call command next) before →
      attempts command before after → Comes attempts program state (next after.2) after.1

/-- The invariant holds at every point the program comes to, and the postcondition where
it ends. -/
def Throughout (attempts : Attempts Command Reply State) (holds : State → Prop)
    (post : Except ε α → State → Prop) : Program Command Reply ε α → State → Prop
  | ret value, state => holds state ∧ post (.ok value) state
  | fail error, state => holds state ∧ post (.error error) state
  | call command next, state => holds state ∧ ∀ after, attempts command state after →
      (next after.2).Throughout attempts holds post after.1

variable {attempts : Attempts Command Reply State} {holds weaker : State → Prop}
  {post : Except ε α → State → Prop} {program point : Program Command Reply ε α}
  {state later : State}

/-- A command first, and the points after it. -/
theorem Comes.first {command : Command} {next : Reply command → Program Command Reply ε α}
    {after : State × Reply command} (answered : attempts command state after)
    (comes : (next after.2).Comes attempts after.1 point later) :
    (Program.call command next).Comes attempts state point later := by
  induction comes with
  | here => exact .call .here answered
  | call _ further ih => exact .call ih further

/-- What holds throughout a program holds where it starts. -/
theorem Throughout.now (throughout : program.Throughout attempts holds post state) :
    holds state := by
  cases program <;> exact throughout.1

/-- The judgement holds on from every point. -/
theorem Throughout.comes (throughout : program.Throughout attempts holds post state)
    (comes : program.Comes attempts state point later) :
    point.Throughout attempts holds post later := by
  induction comes with
  | here => exact throughout
  | call _ answered ih => exact ih.2 _ answered

/-- What holds throughout may be weakened, and so may what holds at the ends. -/
theorem Throughout.mono {mid : Except ε α → State → Prop}
    (throughout : program.Throughout attempts holds mid state)
    (implies : ∀ state, holds state → weaker state)
    (ends : ∀ outcome state, holds state → mid outcome state → post outcome state) :
    program.Throughout attempts weaker post state := by
  induction program generalizing state with
  | ret value => exact ⟨implies _ throughout.1, ends _ _ throughout.1 throughout.2⟩
  | fail error => exact ⟨implies _ throughout.1, ends _ _ throughout.1 throughout.2⟩
  | call command next ih =>
      exact ⟨implies _ throughout.1, fun after answered => ih _ (throughout.2 after answered)⟩

/-- What holds throughout a program and, from wherever it returns, throughout what follows
holds throughout both. -/
theorem Throughout.bind {next : α → Program Command Reply ε β} {mid : Except ε α → State → Prop}
    {post : Except ε β → State → Prop} (throughout : program.Throughout attempts holds mid state)
    (thrown : ∀ error state, holds state → mid (.error error) state → post (.error error) state)
    (rest : ∀ value state, holds state → mid (.ok value) state →
      (next value).Throughout attempts holds post state) :
    (program >>= next).Throughout attempts holds post state := by
  induction program generalizing state with
  | ret value => exact rest value _ throughout.1 throughout.2
  | fail error => exact ⟨throughout.1, thrown _ _ throughout.1 throughout.2⟩
  | call command reply ih =>
      exact ⟨throughout.1, fun after answered => ih _ (throughout.2 after answered)⟩

/-- The body of a `try`. -/
theorem Throughout.attempt {post : Except ε' (Except ε α) → State → Prop}
    (throughout : program.Throughout attempts holds (fun outcome => post (.ok outcome)) state) :
    (program.attempt : Program Command Reply ε' _).Throughout attempts holds post state := by
  induction program generalizing state with
  | ret value => exact throughout
  | fail error => exact throughout
  | call command next ih =>
      exact ⟨throughout.1, fun after answered => ih _ (throughout.2 after answered)⟩

end Program

end Concurrency
