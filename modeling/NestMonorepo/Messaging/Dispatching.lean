import NestMonorepo.Concurrency.Control
import NestMonorepo.Messaging.Outbox

/-! # Units of work and sweeps over one outbox

Any number of units of work, each staging one event, run next to the dispatcher's
sweeps. What `publishEvent` does is left open: its n-th call returns or throws as an
outcome says. The places where a unit or a sweep can be suspended are listed as control
points.
-/

namespace NestMonorepo

open Collections Concurrency Handler

/-- A write of a domain mutation: it does not concern the outbox. -/
def Write.Mutates : Write → Prop
  | .insertOutbox _ | .updateOutbox _ _ => False
  | _ => True

/-- A unit of work: the event it stages, and the domain writes that its flush performs
before and after the event's. -/
structure UnitOfWork where
  params : StageOutboxParams
  before : List Write
  after : List Write
  mutates : ∀ write ∈ before ++ after, write.Mutates

/-- A unit's code: `stageOutboxEvent`, then `em.flush()`. -/
def UnitOfWork.perform (unit : UnitOfWork) : Handler StageOutboxResult := do
  let staged ← stageOutboxEvent unit.params
  let _ ← flush (unit.before ++ staged.writes ++ unit.after)
  pure staged

/-- What is scheduled. -/
inductive OutboxOperation where
  | unit (unit : UnitOfWork)
  | sweep

/-- Whether a sweep is scheduled. -/
def OutboxOperation.sweeps : OutboxOperation → Bool
  | .unit _ => false
  | .sweep => true

inductive OutboxAnswer where
  | staged (result : StageOutboxResult)
  | swept (result : OutboxDispatcher.SweepResult)

/-- The world of the outbox: the store, how often `publishEvent` was called, and the
rows for which it returned. -/
structure Dispatching where
  store : Backend
  calls : Nat := 0
  returned : List ObjectId := []

section System

variable [Libraries] (outcome : Nat → Except String Unit)

namespace Dispatching

/-- The commands of the backend, with free outcomes of `publishEvent`. -/
def exec : (command : Command) → Dispatching → Dispatching × Reply command
  | .publishEvent row _ _, state =>
      match outcome state.calls with
      | .ok () =>
          ({ state with calls := state.calls + 1, returned := state.returned ++ [row] }, .ok ())
      | .error message => ({ state with calls := state.calls + 1 }, .error message)
  | command, state =>
      ({ state with store := (Backend.exec command state.store).1 },
        (Backend.exec command state.store).2)

end Dispatching

/-- The code of what is scheduled. -/
def OutboxOperation.code : OutboxOperation → Handler OutboxAnswer
  | .unit work => do return .staged (← work.perform)
  | .sweep => do return .swept (← OutboxDispatcher.sweep)

/-- The outbox of one process. -/
def outboxService : System OutboxOperation Command Reply ServiceError OutboxAnswer Dispatching
    Backend.Event where
  code := OutboxOperation.code
  exec := Dispatching.exec outcome
  environment event state := { state with store := Backend.environment event state.store }

end System

abbrev OutboxPool : Type :=
  Pool OutboxOperation Command Reply ServiceError OutboxAnswer Dispatching

abbrev OutboxLabel : Type := Label OutboxOperation Backend.Event

abbrev OutboxThread : Type :=
  Thread OutboxOperation Command Reply ServiceError OutboxAnswer

/-- The key a thread is about to look up. -/
def lookup (thread : OutboxThread) : Option String :=
  match thread.pending with
  | some (.findOutboxEvent key) => some key
  | _ => none

/-- Where a thread of the outbox stands. -/
abbrev OutboxStatus : Type := Status Command Reply ServiceError OutboxAnswer

/-! ## The points of a unit of work -/

/-- What staging returns for a key that is stored. -/
def StageOutboxParams.revive (params : StageOutboxParams) (existing : OutboxEvent) :
    StageOutboxResult :=
  if existing.status = .failed then
    { row := existing.requeue params.payload, created := false,
      writes := existing.update (existing.requeue params.payload) }
  else { row := existing, created := false, writes := [] }

/-- Where a unit of work can be suspended. -/
inductive UnitPoint where
  | lookup (work : UnitOfWork)
  | drawId (work : UnitOfWork)
  | create (work : UnitOfWork) (id : ObjectId)
  | flush (work : UnitOfWork) (result : StageOutboxResult)
  | write (at_ : Millis) (writes : List Write) (result : StageOutboxResult)
  | answering (outcome : Except ServiceError StageOutboxResult)
  | ended (outcome : Except ServiceError StageOutboxResult)

namespace UnitPoint

/-- A row created by staging, for the flush. -/
def created (work : UnitOfWork) (id : ObjectId) (createdAt : Millis) : StageOutboxResult :=
  { row := work.params.row id createdAt, created := true,
    writes := [.insertOutbox (work.params.row id createdAt)] }

/-- The writes of a unit's flush. -/
def flushed (work : UnitOfWork) (result : StageOutboxResult) : List Write :=
  work.before ++ result.writes ++ work.after

/-- The flush of a unit that staged its event, and its answer. -/
def conclude (work : UnitOfWork) (result : StageOutboxResult) : Handler OutboxAnswer :=
  (Handler.flush (flushed work result) >>= fun _ => pure result) >>= fun staged =>
    pure (.staged staged)

def status : UnitPoint → OutboxStatus
  | .lookup work => .running (OutboxOperation.code (.unit work))
  | .drawId work => .running do
      let id ← newObjectId
      let createdAt ← now
      conclude work (created work id createdAt)
  | .create work id => .running do
      let createdAt ← now
      conclude work (created work id createdAt)
  | .flush work result => .running (conclude work result)
  | .write at_ writes result => .running do
      writeAll at_ writes
      return .staged result
  | .answering outcome => .running (Program.ofExcept (outcome.map .staged))
  | .ended (.ok result) => .returned (.staged result)
  | .ended (.error error) => .thrown error

section Step

variable [Libraries] (outcome : Nat → Except String Unit)

/-- One step of a unit of work. -/
def step : UnitPoint → Dispatching → Dispatching × UnitPoint
  | .lookup work, state =>
      (state, match (Dispatching.exec outcome (.findOutboxEvent work.params.idempotencyKey)
          state).2 with
        | .ok (some existing) => .flush work (work.params.revive existing)
        | .ok none => .drawId work
        | .error error => .answering (.error (.mongo error)))
  | .drawId work, state =>
      ((Dispatching.exec outcome .newObjectId state).1, .create work state.store.nextObjectId)
  | .create work id, state => (state, .flush work (created work id state.store.clock))
  | .flush work result, state => (state, .write state.store.clock (flushed work result) result)
  | .write _ [] result, state => (state, .ended (.ok result))
  | .write at_ (first :: rest) result, state =>
      ((Dispatching.exec outcome (.write first at_) state).1,
        match (Dispatching.exec outcome (.write first at_) state).2 with
        | .ok () => .write at_ rest result
        | .error error => .answering (.error (.mongo error)))
  | .answering outcome, state => (state, .ended outcome)
  | .ended outcome, state => (state, .ended outcome)

/-- One step of the thread is one step of its point, so the points simulate the code. -/
theorem advance_status (point : UnitPoint) (state : Dispatching) :
    (outboxService outcome).advance point.status state =
      ((step outcome point state).1, (step outcome point state).2.status) := by
  cases point with
  | lookup work =>
      rw [show (lookup work).status = .running (.call (.findOutboxEvent _) _) from rfl]
      simp only [step, System.advance, outboxService]
      generalize (Dispatching.exec outcome (.findOutboxEvent work.params.idempotencyKey) state).2 =
        reply
      cases reply with
      | error error => rfl
      | ok found =>
          cases found with
          | none => rfl
          | some existing =>
              change (_, Status.running (((if existing.status = .failed then pure _ else pure _ :
                Handler StageOutboxResult) >>= _) >>= _)) = _
              by_cases given : existing.status = .failed
              · simp only [StageOutboxParams.revive, given, ↓reduceIte]
                rfl
              · simp only [StageOutboxParams.revive, given, ↓reduceIte]
                rfl
  | drawId work => rfl
  | create work id => rfl
  | flush work result =>
      rw [status, conclude, Program.bind_assoc, flush_bind]
      rfl
  | write at_ writes result =>
      cases writes with
      | nil => rfl
      | cons first rest =>
          rw [status, writeAll_cons_bind]
          simp only [step, System.advance, outboxService]
          generalize (Dispatching.exec outcome (.write first at_) state).2 = reply
          cases reply <;> rfl
  | answering outcome => cases outcome <;> rfl
  | ended outcome => cases outcome <;> rfl

end Step

end UnitPoint

/-! ## The points of a sweep -/

/-- Where a sweep can be suspended. -/
inductive SweepPoint where
  | begin
  | find
  | dispatch (done : List Write) (rest : List OutboxEvent) (tally : OutboxDispatcher.SweepResult)
  | stamp (done : List Write) (row : OutboxEvent) (outcome : Except String Unit)
      (rest : List OutboxEvent) (tally : OutboxDispatcher.SweepResult)
  | write (at_ : Millis) (writes : List Write) (result : OutboxDispatcher.SweepResult)
  | countFailed (result : OutboxDispatcher.SweepResult)
  | close (outcome : Except ServiceError OutboxDispatcher.SweepResult)
  | answering (outcome : Except ServiceError OutboxDispatcher.SweepResult)
  | ended (outcome : Except ServiceError OutboxDispatcher.SweepResult)

namespace SweepPoint

open OutboxDispatcher

/-- The body of the `try`, with the `finally` and the answer behind it. -/
def closing (body : Handler SweepResult) : Handler OutboxAnswer :=
  (body.attempt >>= fun outcome => await .endSweep >>= fun _ => Program.ofExcept outcome) >>=
    fun result => pure (.swept result)

/-- The counts after the flush. -/
def counted (result : SweepResult) : Handler SweepResult := do
  let _ ← await (.countOutbox .pending) >>= ofReply
  let _ ← await (.countOutbox .failed) >>= ofReply
  pure result

/-- The rest of the loop, the flush and the counts. -/
def dispatching (done : List Write) (rest : List OutboxEvent) (tally : SweepResult) :
    Handler SweepResult :=
  OutboxDispatcher.dispatch rest tally >>= fun total =>
    flush (done ++ total.1) >>= fun _ => counted total.2

def status : SweepPoint → OutboxStatus
  | .begin => .running (OutboxOperation.code .sweep)
  | .find => .running (closing sweepPending)
  | .dispatch done rest tally => .running (closing (dispatching done rest tally))
  | .stamp done row outcome rest tally => .running (closing (now >>= fun at_ =>
      dispatching (done ++ row.update (attempted row at_ outcome)) rest (tally.count row outcome)))
  | .write at_ writes result => .running (closing (writeAll at_ writes >>= fun _ => counted result))
  | .countFailed result => .running (closing
      ((await (.countOutbox .failed) >>= ofReply) >>= fun _ => pure result))
  | .close outcome => .running ((await .endSweep >>= fun _ => Program.ofExcept outcome) >>=
      fun result => pure (.swept result))
  | .answering outcome => .running (Program.ofExcept outcome >>= fun result => pure (.swept result))
  | .ended (.ok result) => .returned (.swept result)
  | .ended (.error error) => .thrown error

section Step

variable [Libraries] (outcome : Nat → Except String Unit)

/-- One step of a sweep. -/
def step : SweepPoint → Dispatching → Dispatching × SweepPoint
  | .begin, state =>
      ((Dispatching.exec outcome .beginSweep state).1,
        if (Dispatching.exec outcome .beginSweep state).2 then .find else .answering (.ok ⟨0, 0⟩))
  | .find, state =>
      (state,
        match (Dispatching.exec outcome (.findPendingOutbox maxAttempts maxBatch) state).2 with
        | .ok pending =>
            if pending.isEmpty then .close (.ok ⟨0, 0⟩) else .dispatch [] pending ⟨0, 0⟩
        | .error error => .close (.error (.mongo error)))
  | .dispatch done [] tally, state => (state, .write state.store.clock done tally)
  | .dispatch done (row :: rest) tally, state =>
      ((Dispatching.exec outcome (.publishEvent row.id row.pattern row.payload) state).1,
        .stamp done row
          (Dispatching.exec outcome (.publishEvent row.id row.pattern row.payload) state).2
          rest tally)
  | .stamp done row published rest tally, state =>
      (state, .dispatch (done ++ row.update (attempted row state.store.clock published)) rest
        (tally.count row published))
  | .write _ [] result, state =>
      (state, match (Dispatching.exec outcome (.countOutbox .pending) state).2 with
        | .ok _ => .countFailed result
        | .error error => .close (.error (.mongo error)))
  | .write at_ (first :: rest) result, state =>
      ((Dispatching.exec outcome (.write first at_) state).1,
        match (Dispatching.exec outcome (.write first at_) state).2 with
        | .ok () => .write at_ rest result
        | .error error => .close (.error (.mongo error)))
  | .countFailed result, state =>
      (state, match (Dispatching.exec outcome (.countOutbox .failed) state).2 with
        | .ok _ => .close (.ok result)
        | .error error => .close (.error (.mongo error)))
  | .close result, state => ((Dispatching.exec outcome .endSweep state).1, .answering result)
  | .answering result, state => (state, .ended result)
  | .ended result, state => (state, .ended result)

omit [Libraries] in
/-- After the last row the sweep reads the clock, flushes its stamps and answers the tally. -/
theorem dispatching_nil (done : List Write) (tally : SweepResult) :
    dispatching done [] tally =
      .call .now fun at_ => writeAll at_ done >>= fun _ => counted tally := by
  rw [dispatching, OutboxDispatcher.dispatch, Program.pure_eq, Program.ret_bind, flush_bind,
    List.append_nil]

omit [Libraries] in
/-- For each row the sweep publishes, reads the clock, and leaves the stamp for the flush,
whether the publication was accepted or not. -/
theorem dispatching_cons (done : List Write) (row : OutboxEvent) (rest : List OutboxEvent)
    (tally : SweepResult) : dispatching done (row :: rest) tally =
      .call (.publishEvent row.id row.pattern row.payload) fun published => now >>= fun at_ =>
        dispatching (done ++ row.update (attempted row at_ published)) rest
          (tally.count row published) := by
  simp only [dispatching, OutboxDispatcher.dispatch, await, now, Program.perform_bind,
    Program.call_bind, Program.bind_assoc, Program.pure_eq, Program.ret_bind, List.append_assoc]

theorem advance_status (point : SweepPoint) (state : Dispatching) :
    (outboxService outcome).advance point.status state =
      ((step outcome point state).1, (step outcome point state).2.status) := by
  cases point with
  | begin =>
      rw [show status .begin = .running (.call .beginSweep _) from rfl]
      simp only [step, System.advance, outboxService]
      generalize (Dispatching.exec outcome .beginSweep state).2 = reply
      cases reply <;> rfl
  | find =>
      rw [show status .find = .running (.call (.findPendingOutbox _ _) _) from rfl]
      simp only [step, System.advance, outboxService]
      generalize (Dispatching.exec outcome (.findPendingOutbox maxAttempts maxBatch) state).2 =
        reply
      cases reply with
      | error error => rfl
      | ok pending => cases pending <;> rfl
  | dispatch done rest tally =>
      cases rest with
      | nil =>
          rw [status, dispatching_nil]
          rfl
      | cons row rest =>
          rw [status, dispatching_cons]
          rfl
  | stamp done row published rest tally => rfl
  | write at_ writes result =>
      cases writes with
      | nil =>
          rw [show status (.write at_ [] result) = .running (.call (.countOutbox .pending) _) from
            rfl]
          simp only [step, System.advance, outboxService]
          generalize (Dispatching.exec outcome (.countOutbox .pending) state).2 = reply
          cases reply <;> rfl
      | cons first rest =>
          rw [status, writeAll_cons_bind]
          rw [show closing (.call (.write first at_) _) = .call (.write first at_) _ from rfl]
          simp only [step, System.advance, outboxService]
          generalize (Dispatching.exec outcome (.write first at_) state).2 = reply
          cases reply <;> rfl
  | countFailed result =>
      rw [show status (.countFailed result) = .running (.call (.countOutbox .failed) _) from rfl]
      simp only [step, System.advance, outboxService]
      generalize (Dispatching.exec outcome (.countOutbox .failed) state).2 = reply
      cases reply <;> rfl
  | close outcome => rfl
  | answering outcome => cases outcome <;> rfl
  | ended outcome => cases outcome <;> rfl

end Step

end SweepPoint

/-! ## All threads -/

/-- The command a unit is about to perform. -/
def UnitPoint.command : UnitPoint → Option Command
  | .lookup work => some (.findOutboxEvent work.params.idempotencyKey)
  | .drawId _ => some .newObjectId
  | .create _ _ | .flush _ _ => some .now
  | .write at_ (first :: _) _ => some (.write first at_)
  | _ => none

/-- The command a sweep is about to perform. -/
def SweepPoint.command : SweepPoint → Option Command
  | .begin => some .beginSweep
  | .find => some (.findPendingOutbox OutboxDispatcher.maxAttempts OutboxDispatcher.maxBatch)
  | .dispatch _ (row :: _) _ => some (.publishEvent row.id row.pattern row.payload)
  | .dispatch _ [] _ | .stamp _ _ _ _ _ => some .now
  | .write at_ (first :: _) _ => some (.write first at_)
  | .write _ [] _ => some (.countOutbox .pending)
  | .countFailed _ => some (.countOutbox .failed)
  | .close _ => some .endSweep
  | _ => none

/-- Where a thread of the outbox can be suspended. -/
inductive OutboxPoint where
  | unit (point : UnitPoint)
  | sweep (point : SweepPoint)

namespace OutboxPoint

def status : OutboxPoint → OutboxStatus
  | .unit point => point.status
  | .sweep point => point.status

/-- Whether the thread is a sweep. -/
def sweeps : OutboxPoint → Bool
  | .unit _ => false
  | .sweep _ => true

def start : OutboxOperation → OutboxPoint
  | .unit work => .unit (.lookup work)
  | .sweep => .sweep .begin

/-- The command a thread is about to perform. -/
def command : OutboxPoint → Option Command
  | .unit point => point.command
  | .sweep point => point.command

/-- A thread that stands at a point is at the point's command. -/
theorem pending_of_status {point : OutboxPoint}
    {thread : OutboxThread}
    (stands : thread.status = point.status) : thread.pending = point.command := by
  unfold Thread.pending
  rw [stands]
  cases point with
  | unit point =>
      cases point with
      | write at_ writes result => cases writes <;> rfl
      | answering outcome => cases outcome <;> rfl
      | ended outcome => cases outcome <;> rfl
      | _ => rfl
  | sweep point =>
      cases point with
      | dispatch done rest tally => cases rest <;> rfl
      | write at_ writes result => cases writes <;> rfl
      | answering outcome => cases outcome <;> rfl
      | ended outcome => cases outcome <;> rfl
      | _ => rfl

end OutboxPoint

section Control

variable [Libraries] (outcome : Nat → Except String Unit)

/-- One step of a thread of the outbox. -/
def OutboxPoint.step : OutboxPoint → Dispatching → Dispatching × OutboxPoint
  | .unit point, state =>
      ((UnitPoint.step outcome point state).1, .unit (UnitPoint.step outcome point state).2)
  | .sweep point, state =>
      ((SweepPoint.step outcome point state).1, .sweep (SweepPoint.step outcome point state).2)

/-- The threads of the outbox pass through the points. -/
def outboxControl : Control (outboxService outcome) OutboxPoint Bool where
  status := OutboxPoint.status
  start := OutboxPoint.start
  step := OutboxPoint.step outcome
  kind := OutboxPoint.sweeps
  sort := OutboxOperation.sweeps
  kind_start operation := by cases operation <;> rfl
  kind_step point _ := by cases point <;> rfl
  starts operation := by cases operation <;> rfl
  steps point state := by
    cases point with
    | unit point => exact UnitPoint.advance_status outcome point state
    | sweep point => exact SweepPoint.advance_status outcome point state

variable {outcome}

/-- A thread is about to perform the command of its point. -/
theorem point_of_thread {points : List OutboxPoint} {pool : OutboxPool}
    (tracks : (outboxControl outcome).Tracks points pool) {index : Nat}
    {thread : OutboxThread}
    (present : pool.threads[index]? = some thread) :
    ∃ point, points[index]? = some point ∧ thread.pending = point.command ∧
      thread.operation.sweeps = point.sweeps := by
  obtain ⟨point, there, stands, kind⟩ := tracks.point present
  exact ⟨point, there, OutboxPoint.pending_of_status stands, kind.symm⟩

/-- Behind every tracked point there is a thread, at that point's command. -/
theorem thread_of_point {points : List OutboxPoint} {pool : OutboxPool}
    (tracks : (outboxControl outcome).Tracks points pool) {index : Nat} {point : OutboxPoint}
    (present : points[index]? = some point) :
    ∃ thread, pool.threads[index]? = some thread ∧ thread.pending = point.command ∧
      thread.operation.sweeps = point.sweeps := by
  obtain ⟨thread, there, stands, kind⟩ := tracks.thread present
  exact ⟨thread, there, OutboxPoint.pending_of_status stands, kind.symm⟩

/-- A write applies and is stored, or it fails and nothing changes. -/
theorem Dispatching.exec_write (write : Write) (at_ : Millis) (state : Dispatching) :
    state.store.Applies write ∧ Dispatching.exec outcome (.write write at_) state =
        ({ state with store := state.store.stored at_ write }, .ok ()) ∨
      ¬state.store.Applies write ∧ ∃ error,
        Dispatching.exec outcome (.write write at_) state = (state, .error error) := by
  by_cases applies : state.store.Applies write
  · refine .inl ⟨applies, ?_⟩
    simp only [Dispatching.exec, Backend.exec_write_of_applies applies]
  · refine .inr ⟨applies, ?_⟩
    cases up : state.store.databaseUp with
    | false =>
        refine ⟨unavailableError, ?_⟩
        simp only [Dispatching.exec, Backend.exec, up, Bool.false_eq_true, ↓reduceIte]
    | true =>
        cases violated : state.store.violation write with
        | none => exact (applies ⟨up, violated⟩).elim
        | some error =>
            refine ⟨error, ?_⟩
            simp only [Dispatching.exec, Backend.exec, up, ↓reduceIte,
              Backend.write_of_violation violated]

end Control

end NestMonorepo
