import NestMonorepo.Database.UnitOfWork

/-! # The transactional outbox

`stageOutboxEvent` adds a row to the caller's unit of work; the dispatcher
sweeps pending rows, publishes each and stamps what came of it.
-/

namespace NestMonorepo

open Concurrency Handler

/-- What a caller stages. -/
structure StageOutboxParams where
  target : String
  pattern : String
  payload : Payload
  idempotencyKey : String

/-- The row that is added for an event. -/
def StageOutboxParams.row (params : StageOutboxParams) (id : ObjectId) (createdAt : Millis) :
    OutboxEvent :=
  { id, createdAt, updatedAt := createdAt, target := params.target, pattern := params.pattern,
    payload := params.payload, idempotencyKey := params.idempotencyKey, status := .pending,
    attempts := 0 }

/-- `StageOutboxResult`, with what the staging leaves for the caller's flush. -/
structure StageOutboxResult where
  row : OutboxEvent
  created : Bool
  writes : List Write

/-- The row of an event that had been given up, put back in the queue. -/
def OutboxEvent.requeue (row : OutboxEvent) (payload : Payload) : OutboxEvent :=
  { row with status := .pending, attempts := 0, lastError := none, payload }

/-- `stageOutboxEvent`: the key decides whether a row is added, revived or left
as it is. -/
def stageOutboxEvent (params : StageOutboxParams) : Handler StageOutboxResult := do
  match ← findOutboxEvent params.idempotencyKey with
  | some existing =>
      if existing.status = .failed then
        let row := existing.requeue params.payload
        pure { row, created := false, writes := existing.update row }
      else pure { row := existing, created := false, writes := [] }
  | none => do
      let id ← newObjectId
      let createdAt ← now
      let row := params.row id createdAt
      pure { row, created := true, writes := [.insertOutbox row] }

/-! ## The dispatcher -/

namespace OutboxDispatcher

def maxBatch : Nat := 25

def maxAttempts : Nat := 10

/-- What a sweep reports. -/
structure SweepResult where
  dispatched : Nat
  failed : Nat
  deriving DecidableEq, Repr

/-- The row after one publication attempt. -/
def attempted (row : OutboxEvent) (now : Millis) : Except String Unit → OutboxEvent
  | .ok () =>
      { row with status := .sent, lastAttemptAt := some now, attempts := row.attempts + 1 }
  | .error message =>
      { row with
        attempts := row.attempts + 1
        lastAttemptAt := some now
        lastError := some message
        status := if row.attempts + 1 ≥ maxAttempts then .failed else row.status }

/-- The counters after one publication attempt. -/
def SweepResult.count (tally : SweepResult) (row : OutboxEvent) : Except String Unit → SweepResult
  | .ok () => { tally with dispatched := tally.dispatched + 1 }
  | .error _ =>
      if row.attempts + 1 ≥ maxAttempts then { tally with failed := tally.failed + 1 } else tally

/-- The loop over the batch; it leaves the writes of the closing flush. -/
def dispatch : List OutboxEvent → SweepResult → Handler (List Write × SweepResult)
  | [], tally => pure ([], tally)
  | row :: rest, tally => do
      let outcome ← await (.publishEvent row.id row.pattern row.payload)
      let at_ ← now
      let (writes, total) ← dispatch rest (tally.count row outcome)
      pure (row.update (attempted row at_ outcome) ++ writes, total)

/-- The body of the `try` in `sweep`. -/
def sweepPending : Handler SweepResult := do
  let pending ← await (.findPendingOutbox maxAttempts maxBatch) >>= ofReply
  if pending.isEmpty then pure ⟨0, 0⟩
  else
    let (writes, result) ← dispatch pending ⟨0, 0⟩
    let _ ← flush writes
    let _ ← await (.countOutbox .pending) >>= ofReply
    let _ ← await (.countOutbox .failed) >>= ofReply
    pure result

/-- `OutboxDispatcher.sweep`: one at a time, and the flag is cleared however the
body ends. -/
def sweep : Handler SweepResult := do
  if ← await .beginSweep then
    let outcome ← sweepPending.attempt
    await .endSweep
    Program.ofExcept outcome
  else pure ⟨0, 0⟩

end OutboxDispatcher

end NestMonorepo
