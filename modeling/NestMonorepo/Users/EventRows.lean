import NestMonorepo.Users.Reads

/-! # The rows of deletion events

A row of the outbox is inserted by a deletion, stamped by sweeps and, once it has been
given up, put back in the queue by another deletion of the same user. In the course of a
run it stays the row of one event: what a sweep has read of a pending row is what is
stored when its stamp comes.
-/

namespace NestMonorepo

open Collections Concurrency Handler UsersService

/-- The outbox is keyed by distinct ids. -/
def DistinctRows (store : Backend) : Prop :=
  (store.outbox.map OutboxEvent.id).Nodup

/-- Two stored rows with one id are the same row. -/
theorem DistinctRows.unique {store : Backend} {row other : OutboxEvent}
    (distinct : DistinctRows store) (left : row ∈ store.outbox) (right : other ∈ store.outbox)
    (same : row.id = other.id) : row = other :=
  List.inj_on_of_nodup_map distinct left right same

/-- A write that applies keeps the rows distinct. -/
theorem DistinctRows.stored {store : Backend} {write : Write} (distinct : DistinctRows store)
    (applies : store.Applies write) (at_ : Millis) : DistinctRows (store.stored at_ write) := by
  cases write with
  | insertOutbox row =>
      refine nodup_keys_append distinct ?_
      cases taken : fetch OutboxEvent.id row.id store.outbox with
      | none => rfl
      | some other =>
          have clean := applies.2
          simp only [Backend.violation, taken, Option.isSome_some,
            ↓reduceIte, reduceCtorEq] at clean
  | updateOutbox id changes =>
      change ((modifyAt OutboxEvent.id id (·.apply changes at_) store.outbox).map
        OutboxEvent.id).Nodup
      rw [modifyAt_keys fun row => (rfl : (row.apply changes at_).id = row.id)]
      exact distinct
  | _ => exact distinct

/-- Where a stored row comes from. -/
theorem mem_stored_outbox {store : Backend} {write : Write} {at_ : Millis} {row : OutboxEvent}
    (member : row ∈ (store.stored at_ write).outbox) :
    row ∈ store.outbox ∨ write = .insertOutbox row ∨
      ∃ old ∈ store.outbox, ∃ changes, write = .updateOutbox old.id changes ∧
        row = old.apply changes at_ := by
  cases write with
  | insertOutbox added =>
      rcases List.mem_append.mp member with present | single
      · exact .inl present
      · exact .inr (.inl (by rw [List.mem_singleton.mp single]))
  | updateOutbox id changes =>
      rcases mem_modifyAt member with ⟨present, _⟩ | ⟨old, present, rfl, rfl⟩
      · exact .inl present
      · exact .inr (.inr ⟨old, present, changes, rfl, rfl⟩)
  | _ => exact .inl member

section Rows

variable [Libraries]

/-- A later version of a row is of the same event. A row that has not been given up keeps
its payload and is not given up any more; one that has may be put back with the payload of
the deletion its key names. -/
structure OutboxEvent.Becomes (earlier later : OutboxEvent) : Prop where
  id : later.id = earlier.id
  idempotencyKey : later.idempotencyKey = earlier.idempotencyKey
  pattern : later.pattern = earlier.pattern
  kept : earlier.status ≠ .failed → later.status ≠ .failed ∧ later.payload = earlier.payload
  revived : earlier.status = .failed →
    later.status = .failed ∧ later.payload = earlier.payload ∨
      later.status ≠ .failed ∧ ∃ user : User,
        earlier.idempotencyKey = (deletionEvent user).idempotencyKey ∧
          later.payload = (deletionEvent user).payload

/-- A row is a later version of itself. -/
theorem OutboxEvent.Becomes.refl (row : OutboxEvent) : row.Becomes row where
  id := rfl
  idempotencyKey := rfl
  pattern := rfl
  kept queued := ⟨queued, rfl⟩
  revived failed := .inl ⟨failed, rfl⟩

/-- A later version of a later version is a later version. -/
theorem OutboxEvent.Becomes.trans {first second third : OutboxEvent}
    (left : first.Becomes second) (right : second.Becomes third) : first.Becomes third where
  id := right.id.trans left.id
  idempotencyKey := right.idempotencyKey.trans left.idempotencyKey
  pattern := right.pattern.trans left.pattern
  kept queued :=
    let ⟨still, payload⟩ := left.kept queued
    ⟨(right.kept still).1, (right.kept still).2.trans payload⟩
  revived failed := by
    rcases left.revived failed with ⟨still, payload⟩ | ⟨queued, user, key, revived⟩
    · rcases right.revived still with ⟨last, same⟩ | ⟨queued, user, key, revived⟩
      · exact .inl ⟨last, same.trans payload⟩
      · exact .inr ⟨queued, user, left.idempotencyKey ▸ key, revived⟩
    · exact .inr ⟨(right.kept queued).1, user, key, ((right.kept queued).2).trans revived⟩

/-- The key of a deletion's event determines its payload. -/
theorem deletionEvent_payload {user other : User}
    (same : (deletionEvent user).idempotencyKey = (deletionEvent other).idempotencyKey) :
    (deletionEvent user).payload = (deletionEvent other).payload := by
  have hexId : user.hexId = other.hexId := String.append_right_inj _ |>.mp same
  rw [deletionEvent, hexId]
  rfl

/-! ## One write -/

section Write

variable {stored : OutboxEvent}

omit [Libraries] in
/-- A row that was given up is pending again. -/
theorem revived_status {existing : OutboxEvent} (failed : existing.status = .failed)
    (status : OutboxEventStatus) : (changed existing.status .pending).getD status = .pending := by
  rw [changed_of_ne (by rw [failed]; decide), Option.getD_some]

/-- A row put back in the queue by the deletion its key names. -/
theorem OutboxEvent.Becomes.of_requeue {existing : OutboxEvent} {user : User}
    (version : existing.Becomes stored) (failed : existing.status = .failed)
    (key : existing.idempotencyKey = (deletionEvent user).idempotencyKey) (at_ : Millis) :
    stored.Becomes (stored.apply
      (existing.changes (existing.requeue (deletionEvent user).payload)) at_) := by
  have payload : (changed existing.payload (deletionEvent user).payload).getD stored.payload =
      (deletionEvent user).payload := by
    unfold changed
    split
    · rename_i same
      rcases version.revived failed with ⟨_, kept⟩ | ⟨_, other, keyOther, revived⟩
      · exact kept.trans same
      · exact revived.trans (deletionEvent_payload (keyOther.symm.trans key))
    · rfl
  have queued : (changed existing.status .pending).getD stored.status ≠ .failed := by
    rw [revived_status failed]
    decide
  refine ⟨rfl, rfl, rfl, fun still => ?_, fun _ => .inr ⟨queued, user, ?_, payload⟩⟩
  · refine ⟨queued, ?_⟩
    rcases version.revived failed with ⟨down, _⟩ | ⟨_, other, keyOther, revived⟩
    · exact (still down).elim
    · exact payload.trans ((deletionEvent_payload (key.symm.trans keyOther)).trans revived.symm)
  · exact version.idempotencyKey.trans key

/-- A row stamped after a publication that was tried while it was pending. -/
theorem OutboxEvent.Becomes.of_stamp {row : OutboxEvent} (version : row.Becomes stored)
    (pending : row.status = .pending) (now at_ : Millis) :
    stored.Becomes (stored.apply
      (row.changes (OutboxDispatcher.attempted row now (.ok ()))) at_) := by
  obtain ⟨still, _⟩ := version.kept (by rw [pending]; decide)
  have sent : (changed row.status .sent).getD stored.status ≠ .failed := by
    rw [changed_of_ne (by rw [pending]; decide), Option.getD_some]
    decide
  have payload : (changed row.payload row.payload).getD stored.payload = stored.payload := by
    rw [changed_self, Option.getD_none]
  exact ⟨rfl, rfl, rfl, fun _ => ⟨sent, payload⟩, fun failed => (still failed).elim⟩

end Write

/-! ## In the course of a run -/

section Run

variable {start : Backend} {labels : List ServiceLabel}

/-- In every state of a run the rows are distinct. -/
theorem standing_distinctRows (distinct : DistinctRows start) (position : Nat) :
    DistinctRows (standing start labels position).shared := by
  induction position with
  | zero => exact distinct
  | succ position ih =>
      rcases standing_cases start labels position with
        ⟨_, same⟩ | ⟨_, _, write, at_, writes, stored⟩
      · rw [DistinctRows, same]
        exact ih
      · rw [stored]
        exact ih.stored writes.applies at_

/-- The row an applied update of a row is computed from, as an earlier query found it: one
that was given up, revived by the deletion its key names, or a pending one, published since
and stamped. -/
inductive RowSource (start : Backend) (labels : List ServiceLabel) (position index : Nat)
    (id : ObjectId) (changes : OutboxChanges) : Prop
  | requeue {reading : Nat} {existing : OutboxEvent} {user : User} : reading < position →
      existing ∈ (standing start labels reading).shared.outbox → existing.id = id →
      existing.status = .failed →
      existing.idempotencyKey = (deletionEvent user).idempotencyKey →
      changes = existing.changes (existing.requeue (deletionEvent user).payload) →
      RowSource start labels position index id changes
  | stamp {reading publishing : Nat} {row : OutboxEvent}
      {thread : Thread UserOperation Command Reply ServiceError Answer} (now : Millis) :
      reading < position → row ∈ (standing start labels reading).shared.outbox → row.id = id →
      row.status = .pending → publishing < position →
      userService.PerformsAt ⟨start, []⟩ labels publishing index thread
        (.publishEvent row.id row.pattern row.payload) →
      changes = row.changes (OutboxDispatcher.attempted row now (.ok ())) →
      RowSource start labels position index id changes

/-- An update of a row that is applied in a run comes from one of the two sources: a
deletion that revives a row given up, or a sweep that stamps a published one. -/
theorem WritesAt.rowSource {position index : Nat} {operation : UserOperation} {id : ObjectId}
    {changes : OutboxChanges}
    (writes : WritesAt start labels position index operation (.updateOutbox id changes)) :
    RowSource start labels position index id changes := by
  cases writes.computedFrom with
  | device device => exact device.elim
  | requeue found read failed =>
      obtain ⟨reading, below, _, _, fetched⟩ := takenAt_of_learnt read
      exact .requeue below (fetch_some_mem fetched) rfl failed (fetch_some_key fetched) rfl
  | @stamp rows row outcome now batch inside tried =>
      obtain ⟨reading, below, _, maxAttempts, limit, _, rfl⟩ := takenAt_of_learnt batch
      obtain ⟨publishing, before, thread, performs, rfl⟩ := takenAt_of_learnt tried
      obtain ⟨present, pending, _⟩ := Backend.mem_pendingOutbox inside
      refine .stamp now below present rfl pending before performs ?_
      rw [show (Backend.exec (.publishEvent row.id row.pattern row.payload) _).2 = .ok () from
        RpcClientService.publishEvent_outcome _ _ _ _ _]

/-- An applied update of a row leaves it the row of its event, if the rows did so before. -/
theorem WritesAt.becomes {position index : Nat} {operation : UserOperation} {id : ObjectId}
    {changes : OutboxChanges} (distinct : DistinctRows start)
    (kept : ∀ reading < position, ∀ source ∈ (standing start labels reading).shared.outbox,
      ∃ version ∈ (standing start labels position).shared.outbox, source.Becomes version)
    (writes : WritesAt start labels position index operation (.updateOutbox id changes))
    {version : OutboxEvent} (present : version ∈ (standing start labels position).shared.outbox)
    (concerned : version.id = id) (at_ : Millis) : version.Becomes (version.apply changes at_) := by
  -- what the write was computed from is an earlier version of this row
  have earlier : ∀ {reading source}, reading < position →
      source ∈ (standing start labels reading).shared.outbox → source.id = id →
      source.Becomes version := by
    intro reading source before inside same
    obtain ⟨found, held, becomes⟩ := kept reading before source inside
    rwa [(standing_distinctRows distinct position).unique held present
      (becomes.id.trans (same.trans concerned.symm))] at becomes
  cases writes.rowSource with
  | requeue before inside same failed key computed =>
      rw [computed]
      exact .of_requeue (earlier before inside same) failed key at_
  | stamp now before inside same pending _ _ computed =>
      rw [computed]
      exact .of_stamp (earlier before inside same) pending now at_

variable (labels) in
/-- Over any part of a run a stored row becomes a later version of itself. The induction is
on the later position. -/
theorem rows_become (distinct : DistinctRows start) {first last : Nat} (order : first ≤ last) :
    ∀ row ∈ (standing start labels first).shared.outbox,
      ∃ version ∈ (standing start labels last).shared.outbox, row.Becomes version := by
  induction last using Nat.strong_induction_on generalizing first with
  | _ last ih =>
      intro row member
      rcases Nat.lt_or_eq_of_le order with below | rfl
      swap
      · exact ⟨row, member, .refl row⟩
      obtain ⟨last, rfl⟩ := Nat.exists_eq_succ_of_ne_zero (Nat.ne_zero_of_lt below)
      obtain ⟨version, present, becomes⟩ := ih last (Nat.lt_succ_self last)
        (Nat.lt_succ_iff.mp below) row member
      suffices next : ∃ later ∈ (standing start labels (last + 1)).shared.outbox,
          version.Becomes later by
        obtain ⟨later, inside, further⟩ := next
        exact ⟨later, inside, becomes.trans further⟩
      rcases standing_cases start labels last with
        ⟨_, same⟩ | ⟨index, operation, write, at_, writes, stored⟩
      · exact ⟨version, same ▸ present, .refl version⟩
      rw [stored]
      cases write with
      | insertOutbox added => exact ⟨version, List.mem_append_left _ present, .refl version⟩
      | updateOutbox id changes =>
          by_cases concerned : version.id = id
          · refine ⟨_, mem_modifyAt_of_eq present concerned, ?_⟩
            exact writes.becomes distinct (fun reading before => ih last (Nat.lt_succ_self last)
              (Nat.le_of_lt before)) present concerned at_
          · exact ⟨version, mem_modifyAt_of_ne present concerned, .refl version⟩
      | _ => exact ⟨version, present, .refl version⟩

/-- A deletion event is about the user its row is keyed by. -/
def OutboxEvent.Deletes (row : OutboxEvent) : Prop :=
  row.pattern = "user.deleted" → ∃ user : User,
    row.idempotencyKey = (deletionEvent user).idempotencyKey ∧
      row.payload = (deletionEvent user).payload

/-- A later version of a row that is about the user its key names is so too. -/
theorem OutboxEvent.Becomes.deletes {row later : OutboxEvent} (becomes : row.Becomes later)
    (deletes : row.Deletes) : later.Deletes := by
  intro pattern
  obtain ⟨user, key, payload⟩ := deletes (becomes.pattern.symm.trans pattern)
  rw [becomes.idempotencyKey]
  by_cases failed : row.status = .failed
  · rcases becomes.revived failed with ⟨_, same⟩ | ⟨_, other, keyed, revived⟩
    · exact ⟨user, key, same.trans payload⟩
    · exact ⟨other, keyed, revived⟩
  · exact ⟨user, key, (becomes.kept failed).2.trans payload⟩

/-- Every deletion event of a run is about the user its row is keyed by. -/
theorem rows_delete (distinct : DistinctRows start) (events : ∀ row ∈ start.outbox, row.Deletes)
    (position : Nat) : ∀ row ∈ (standing start labels position).shared.outbox, row.Deletes := by
  induction position with
  | zero => exact events
  | succ position ih =>
      intro row member
      rcases standing_cases start labels position with
        ⟨_, same⟩ | ⟨index, operation, write, at_, writes, stored⟩
      · exact ih row (same ▸ member)
      rw [stored] at member
      rcases mem_stored_outbox member with present | rfl | ⟨old, present, changes, rfl, rfl⟩
      · exact ih row present
      · cases writes.computedFrom with
        | device device => exact device.elim
        | row => exact fun _ => ⟨_, rfl, rfl⟩
      · refine (writes.becomes distinct (fun reading before => ?_) present rfl at_).deletes
          (ih old present)
        exact rows_become labels distinct (Nat.le_of_lt before)

/-- What a sweep publishes as a deletion event is the payload of a row that is stored then,
for the user it is keyed by. -/
theorem deletes_of_performs (distinct : DistinctRows start)
    (events : ∀ row ∈ start.outbox, row.Deletes) {position index : Nat}
    {thread : Thread UserOperation Command Reply ServiceError Answer} {id : ObjectId}
    {payload : Payload} (performs : userService.PerformsAt ⟨start, []⟩ labels position index thread
      (.publishEvent id "user.deleted" payload)) :
    ∃ user : User, payload = (deletionEvent user).payload ∧
      ∃ row ∈ (standing start labels position).shared.outbox,
        row.idempotencyKey = (deletionEvent user).idempotencyKey := by
  obtain ⟨rows, batch, row, inside, rfl, pattern, rfl⟩ :
      InBatch _ id "user.deleted" payload :=
    performs.presupposes rfl fun operation => handle_heedful operation
  obtain ⟨reading, before, _, maxAttempts, limit, _, rfl⟩ := takenAt_of_learnt batch
  obtain ⟨present, _⟩ := Backend.mem_pendingOutbox inside
  obtain ⟨user, key, same⟩ := rows_delete distinct events reading row present pattern
  obtain ⟨version, held, becomes⟩ := rows_become labels distinct (Nat.le_of_lt before) row present
  exact ⟨user, same, version, held, becomes.idempotencyKey.trans key⟩

end Run

end Rows

end NestMonorepo
