import Mathlib.Data.Set.Basic
import NestMonorepo.Users.Service

/-! # Telling outbox messages apart

Delivery is at least once, and consumers are told to drop what they have seen by
the row's `idempotencyKey`. The message itself carries the pattern and the payload,
with a trace id added; whether that is enough depends on the rows.
-/

namespace NestMonorepo

open EventBusService UsersService

/-- A publication of the row puts the message on the exchange. -/
def OutboxEvent.Publishes (row : OutboxEvent) (message : BusMessage) : Prop :=
  ∃ traceId bus,
    (RpcClientService.publishEvent row.id row.pattern row.payload traceId bus).1.accepted =
      bus.accepted ++ [(row.id, message)]

/-- Whatever was published of the rows, a message alone tells the key of its row. -/
def DeterminesKey (rows : Set OutboxEvent) : Prop :=
  ∃ keyOf : BusMessage → String, ∀ row ∈ rows, ∀ message, row.Publishes message →
    keyOf message = row.idempotencyKey

/-- The payloads are equal up to an added trace id. -/
def TracedAlike (first second : Payload) : Prop :=
  first = second ∨ ∃ traceId, attachTraceId traceId first = second ∨
    attachTraceId traceId second = first

/-- `parseUserDeleted`: the consumer's view of a deletion event. -/
def parseUserDeleted (raw : Payload) : Option String :=
  match raw.lookup "userId" with
  | some (.string userId) => if userId ≠ "" then some userId else none
  | _ => none

/-! ## Messages -/

section Messages

variable {row : OutboxEvent} {message : BusMessage}

/-- What is put on the exchange for a row: its pattern and the payload with a trace id, and
nothing else of the row. -/
theorem publishes_iff : row.Publishes message ↔
    ∃ traceId, message = ⟨row.pattern, attachTraceId traceId row.payload⟩ := by
  constructor
  · rintro ⟨traceId, bus, accepted⟩
    refine ⟨traceId, ?_⟩
    have grew : bus.accepted ≠ bus.accepted ++ [(row.id, message)] := by
      intro same
      have lengths := congrArg List.length same
      simp only [List.length_append, List.length_singleton] at lengths
      omega
    unfold RpcClientService.publishEvent EventBusService.publish at accepted
    split at accepted
    · split at accepted
      · exact (grew accepted).elim
      · split at accepted
        · exact (grew accepted).elim
        · split at accepted
          · have last := List.append_cancel_left accepted
            injection last with last
            exact (Prod.mk.inj last).2.symm
          · exact (grew accepted).elim
    · exact (grew accepted).elim
  · rintro ⟨traceId, rfl⟩
    exact ⟨traceId, ⟨true, some .open, false, []⟩, rfl⟩

/-- A traced payload is left as it is. -/
theorem attachTraceId_of_traced {payload : Payload}
    (traced : payload.any (fun field => field.1 = "__traceId") = true) (traceId : String) :
    attachTraceId traceId payload = payload := by
  rw [attachTraceId, if_pos traced]

/-- A payload that has a trace id keeps it. -/
theorem attachTraceId_attachTraceId (first second : String) (payload : Payload) :
    attachTraceId second (attachTraceId first payload) = attachTraceId first payload := by
  apply attachTraceId_of_traced
  rw [attachTraceId]
  split
  · assumption
  · simp only [List.any_append, List.any_cons, decide_true, Bool.true_or, Bool.or_true]

/-- Payloads that can become one message are equal up to a trace id. -/
theorem tracedAlike_of_attachTraceId {first second : String} {payload other : Payload}
    (same : attachTraceId first payload = attachTraceId second other) :
    TracedAlike payload other := by
  by_cases traced : payload.any (fun field => field.1 = "__traceId") = true
  · rw [attachTraceId_of_traced traced] at same
    exact .inr ⟨second, .inr same.symm⟩
  · by_cases also : other.any (fun field => field.1 = "__traceId") = true
    · rw [attachTraceId_of_traced also] at same
      exact .inr ⟨first, .inl same⟩
    · rw [attachTraceId, if_neg traced, attachTraceId, if_neg also] at same
      exact .inl (List.append_inj_left' same rfl)

/-- Such payloads do become one message. -/
theorem TracedAlike.common {payload other : Payload} (alike : TracedAlike payload other) :
    ∃ first second, attachTraceId first payload = attachTraceId second other := by
  rcases alike with rfl | ⟨traceId, rfl | rfl⟩
  · exact ⟨"", "", rfl⟩
  · exact ⟨traceId, "", (attachTraceId_attachTraceId traceId "" payload).symm⟩
  · exact ⟨"", traceId, attachTraceId_attachTraceId traceId "" other⟩

end Messages

/-! ## Keys -/

/-- The messages of the rows tell their keys exactly if rows with one pattern and
one payload, up to a trace id, have one key. -/
theorem determinesKey_iff (rows : Set OutboxEvent) : DeterminesKey rows ↔
    ∀ first ∈ rows, ∀ second ∈ rows, first.pattern = second.pattern →
      TracedAlike first.payload second.payload →
        first.idempotencyKey = second.idempotencyKey := by
  constructor
  · rintro ⟨keyOf, tells⟩ first member second also pattern alike
    obtain ⟨traceId, other, same⟩ := alike.common
    have published := publishes_iff.mpr
      ⟨traceId, (rfl : (⟨first.pattern, attachTraceId traceId first.payload⟩ : BusMessage) = _)⟩
    have again : second.Publishes ⟨first.pattern, attachTraceId traceId first.payload⟩ :=
      publishes_iff.mpr ⟨other, by rw [pattern, same]⟩
    rw [← tells first member _ published, tells second also _ again]
  · intro apart
    classical
    refine ⟨fun message =>
      if sent : ∃ row ∈ rows, row.Publishes message then sent.choose.idempotencyKey else "", ?_⟩
    intro row member message published
    have sent : ∃ row ∈ rows, row.Publishes message := ⟨row, member, published⟩
    simp only [dif_pos sent]
    obtain ⟨chosen, also⟩ := sent.choose_spec
    obtain ⟨traceId, rfl⟩ := publishes_iff.mp published
    obtain ⟨other, same⟩ := publishes_iff.mp also
    obtain ⟨pattern, payload⟩ := BusMessage.mk.inj same
    exact apart _ chosen row member pattern.symm (tracedAlike_of_attachTraceId payload.symm)

/-- Two rows staged under different keys with the same event. -/
def rowUnder (idempotencyKey : String) (id : ObjectId) : OutboxEvent where
  id
  createdAt := 0
  updatedAt := 0
  target := "user"
  pattern := "user.deleted"
  payload := [("userId", .string "u")]
  idempotencyKey

/-- Two rows with different idempotency keys may publish one and the same message, as the
key is not part of it; so the message does not determine the key. -/
theorem not_determinesKey_of_twins : ¬∀ rows, DeterminesKey rows := by
  intro determines
  obtain ⟨keyOf, tells⟩ := determines {rowUnder "user.deleted:u:a" 0, rowUnder "user.deleted:u:b" 1}
  have first := tells (rowUnder "user.deleted:u:a" 0) (Set.mem_insert _ _) _
    (publishes_iff.mpr ⟨"", rfl⟩)
  have second := tells (rowUnder "user.deleted:u:b" 1) (Set.mem_insert_of_mem _ rfl) _
    (publishes_iff.mpr ⟨"", rfl⟩)
  have same : "user.deleted:u:a" = "user.deleted:u:b" := first.symm.trans second
  revert same
  decide

/-! ## The events of this service -/

/-- The row is one that `deleteUser` stages for an id. -/
def OutboxEvent.OfDeletion (row : OutboxEvent) (userId : String) : Prop :=
  row.pattern = "user.deleted" ∧ row.payload = [("userId", .string userId)] ∧
    row.idempotencyKey = deletionKey userId

/-- The consumer reads the id out of every publication of a deletion event, and
with it the key. -/
theorem parseUserDeleted_of_publishes {row : OutboxEvent} {userId : String}
    {message : BusMessage} (deletion : row.OfDeletion userId) (nonempty : userId ≠ "")
    (published : row.Publishes message) : parseUserDeleted message.data = some userId := by
  obtain ⟨traceId, rfl⟩ := publishes_iff.mp published
  obtain ⟨-, payload, -⟩ := deletion
  have untraced : ([("userId", Json.string userId)] : Payload).any
      (fun field => field.1 = "__traceId") ≠ true := by
    simp
  rw [payload, attachTraceId, if_neg untraced]
  simp only [parseUserDeleted, List.cons_append, List.lookup_cons_self, ne_eq, nonempty,
    not_false_eq_true, ↓reduceIte]

/-- The deletion events of this service can be told apart without their keys. -/
theorem determinesKey_of_deletions {rows : Set OutboxEvent}
    (deletions : ∀ row ∈ rows, ∃ userId, userId ≠ "" ∧ row.OfDeletion userId) :
    DeterminesKey rows := by
  refine ⟨fun message => deletionKey ((parseUserDeleted message.data).getD ""), ?_⟩
  intro row member message published
  obtain ⟨userId, nonempty, deletion⟩ := deletions row member
  simp only [parseUserDeleted_of_publishes deletion nonempty published, Option.getD_some,
    deletion.2.2]

end NestMonorepo
