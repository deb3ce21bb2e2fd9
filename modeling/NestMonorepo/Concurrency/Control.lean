import Mathlib.Data.List.Basic
import NestMonorepo.Concurrency.Pool

/-! # Threads at control points

Where the places a thread passes through can be listed, a pool is a shared state with a
list of points, and its invariants are invariants of these. A `Control` says what each
point stands for in the code and where one step leads from it.
-/

namespace Concurrency

variable {Operation Command : Type} {Reply : Command → Type} {ε α State Event Point Kind : Type}

/-- The points of a system's threads, one step at a time. Each kind of operation has
points of its own. -/
structure Control (system : System Operation Command Reply ε α State Event)
    (Point Kind : Type) where
  status : Point → Status Command Reply ε α
  start : Operation → Point
  step : Point → State → State × Point
  kind : Point → Kind
  sort : Operation → Kind
  kind_start : ∀ operation, kind (start operation) = sort operation
  kind_step : ∀ point state, kind (step point state).2 = kind point
  starts : ∀ operation, status (start operation) = .running (system.code operation)
  steps : ∀ point state, system.advance (status point) state =
    ((step point state).1, status (step point state).2)

/-- A decision that stops no thread. -/
def Label.Alive : Label Operation Event → Prop
  | .crash _ => False
  | _ => True

namespace Control

variable {system : System Operation Command Reply ε α State Event}
  (control : Control system Point Kind)

/-- Each thread of the pool stands at its point, one of its operation's kind. -/
def Tracks (points : List Point) (pool : Pool Operation Command Reply ε α State) : Prop :=
  pool.threads.map (fun thread => (control.sort thread.operation, thread.status)) =
    points.map fun point => (control.kind point, control.status point)

/-- What one decision makes of the state and the points. -/
inductive Moves : Label Operation Event → State → List Point → State → List Point → Prop
  | spawn (operation : Operation) {state points} :
      Moves (.spawn operation) state points state (points ++ [control.start operation])
  | step {index point state points} : points[index]? = some point →
      Moves (.step index) state points (control.step point state).1
        (points.set index (control.step point state).2)
  | idle {index : Nat} {state points} : points[index]? = none →
      Moves (.step index) state points state points
  | environment (event : Event) {state points} :
      Moves (.environment event) state points (system.environment event state) points

variable {control} {points : List Point} {pool : Pool Operation Command Reply ε α State}

/-- A thread stands at the point of its place. -/
theorem Tracks.point (tracks : control.Tracks points pool) {index : Nat}
    {thread : Thread Operation Command Reply ε α} (present : pool.threads[index]? = some thread) :
    ∃ point, points[index]? = some point ∧ thread.status = control.status point ∧
      control.kind point = control.sort thread.operation := by
  have same := congrArg (fun statuses => statuses[index]?) tracks
  simp only [List.getElem?_map, present, Option.map_some] at same
  obtain ⟨point, found, status⟩ := Option.map_eq_some_iff.mp same.symm
  injection status with kind status
  exact ⟨point, found, status.symm, kind⟩

/-- Each point is that of a thread. -/
theorem Tracks.thread (tracks : control.Tracks points pool) {index : Nat} {point : Point}
    (present : points[index]? = some point) :
    ∃ thread, pool.threads[index]? = some thread ∧ thread.status = control.status point ∧
      control.kind point = control.sort thread.operation := by
  have same := congrArg (fun statuses => statuses[index]?) tracks
  simp only [List.getElem?_map, present, Option.map_some] at same
  obtain ⟨thread, found, status⟩ := Option.map_eq_some_iff.mp same
  injection status with kind status
  exact ⟨thread, found, status, kind.symm⟩

/-- As many threads as points stand at a status of a kind. -/
theorem Tracks.countP (tracks : control.Tracks points pool)
    (stands : Status Command Reply ε α → Bool) :
    pool.threads.countP (fun thread => stands thread.status) =
      points.countP fun point => stands (control.status point) := by
  have same := congrArg (List.countP fun tracked => stands tracked.2) tracks
  rw [List.countP_map, List.countP_map] at same
  exact same

/-- The points move along with the threads: a step of the system is a step of the point that
the stepping thread stands at. -/
theorem Tracks.next (tracks : control.Tracks points pool) {label : Label Operation Event}
    (alive : label.Alive) : ∃ moved, control.Tracks moved (system.next label pool) ∧
      control.Moves label pool.shared points (system.next label pool).shared moved := by
  cases label with
  | spawn operation =>
      refine ⟨_, ?_, .spawn operation⟩
      unfold Tracks at tracks ⊢
      simp only [System.next, List.map_append, List.map_cons, List.map_nil, tracks,
        control.starts, control.kind_start]
  | step index =>
      cases found : pool.threads[index]? with
      | none =>
          have absent : points[index]? = none := by
            by_contra present
            obtain ⟨point, there⟩ := Option.ne_none_iff_exists'.mp present
            obtain ⟨thread, contrary, _⟩ := tracks.thread there
            rw [found] at contrary
            cases contrary
          rw [System.next_step_of_none found]
          exact ⟨points, tracks, .idle absent⟩
      | some thread =>
          obtain ⟨point, there, status, kind⟩ := tracks.point found
          rw [System.next_step_of_get found, status, control.steps]
          refine ⟨_, ?_, .step there⟩
          unfold Tracks at tracks ⊢
          simp only [List.map_set, tracks, control.kind_step, kind]
  | crash index => exact alive.elim
  | environment event => exact ⟨points, tracks, .environment event⟩

end Control

/-- An invariant of the state and the points holds wherever the threads are led. -/
theorem System.Reaches.controlled
    {system : System Operation Command Reply ε α State Event} (control : Control system Point Kind)
    {allowed : Label Operation Event → Pool Operation Command Reply ε α State → Prop}
    {start finish : Pool Operation Command Reply ε α State}
    (holds : State → List Point → Prop)
    (alive : ∀ label pool, allowed label pool → label.Alive)
    (preserved : ∀ label pool points moved, system.Reaches allowed start pool →
      control.Tracks points pool → allowed label pool → holds pool.shared points →
        control.Moves label pool.shared points (system.next label pool).shared moved →
          holds (system.next label pool).shared moved)
    (initial : ∃ points, control.Tracks points start ∧ holds start.shared points)
    (reached : system.Reaches allowed start finish) :
    ∃ points, control.Tracks points finish ∧ holds finish.shared points := by
  induction reached with
  | refl => exact initial
  | step label toPool permitted ih =>
      obtain ⟨points, tracks, kept⟩ := ih
      obtain ⟨moved, tracked, moves⟩ := tracks.next (alive _ _ permitted)
      exact ⟨moved, tracked, preserved _ _ _ _ toPool tracks permitted kept moves⟩

/-- What replacing one entry does to the number of entries of a kind. -/
theorem countP_set_add (kind : α → Bool) {entries : List α} {index : Nat} {old : α}
    (present : entries[index]? = some old) (new : α) :
    (entries.set index new).countP kind + (if kind old then 1 else 0) =
      entries.countP kind + if kind new then 1 else 0 := by
  obtain ⟨bound, there⟩ := List.getElem?_eq_some_iff.mp present
  rw [List.countP_set bound, there]
  cases holds : kind old with
  | false => simp
  | true =>
      have some := List.countP_pos_iff.mpr ⟨old, List.mem_of_getElem? present, holds⟩
      simp only [↓reduceIte]
      omega

/-- Of a list with at most one entry of a kind, two such entries stand at one place and are
one. -/
theorem index_eq_of_countP_le_one {kind : α → Bool} {entries : List α}
    (single : entries.countP kind ≤ 1) {first second : Nat} {one other : α}
    (present : entries[first]? = some one) (also : entries[second]? = some other)
    (holds : kind one = true) (too : kind other = true) : first = second := by
  induction entries generalizing first second with
  | nil => cases present
  | cons head rest ih =>
      have counted : ∀ {index : Nat} {entry : α}, rest[index]? = some entry →
          kind entry = true → 0 < rest.countP kind := by
        intro index entry there of
        exact List.countP_pos_iff.mpr ⟨entry, List.mem_of_getElem? there, of⟩
      rw [List.countP_cons] at single
      cases first with
      | zero =>
          cases second with
          | zero => rfl
          | succ second =>
              cases present
              have more := counted also too
              rw [if_pos holds] at single
              omega
      | succ first =>
          cases second with
          | zero =>
              cases also
              have more := counted present holds
              rw [if_pos too] at single
              omega
          | succ second =>
              have fewer : rest.countP kind ≤ 1 := by omega
              rw [ih fewer present also]

end Concurrency
