import NestMonorepo.Collections.Backlog
import NestMonorepo.Database.ObjectIds
import NestMonorepo.Messaging.Sweeps

/-! # The outbox drains

Every pending row has attempts left, so a sweep sees the oldest of them, and each sweep
takes an attempt from each row of its batch. Ten sweeps for every twenty-five rows leave
nothing pending, whatever the publications did.
-/

namespace NestMonorepo

open Collections Concurrency Handler OutboxDispatcher

/-! ## One sweep alone -/

/-- The stamps of a batch whose publications begin with the given call. -/
def stampsOf (outcome : Nat → Except String Unit) (at_ : Millis) :
    Nat → List OutboxEvent → List Write
  | _, [] => []
  | calls, row :: rest =>
      row.update (attempted row at_ (outcome calls)) ++ stampsOf outcome at_ (calls + 1) rest

/-- The rows of a batch whose publication returned. -/
def returnedOf (outcome : Nat → Except String Unit) : Nat → List OutboxEvent → List ObjectId
  | _, [] => []
  | calls, row :: rest =>
      match outcome calls with
      | .ok () => row.id :: returnedOf outcome (calls + 1) rest
      | .error _ => returnedOf outcome (calls + 1) rest

/-- What the stamps of a batch make of a stored row. -/
def restamp (outcome : Nat → Except String Unit) (at_ : Millis) :
    Nat → List OutboxEvent → OutboxEvent → OutboxEvent
  | _, [], stored => stored
  | calls, row :: rest, stored =>
      if stored.id = row.id then
        stored.apply (row.changes (attempted row at_ (outcome calls))) at_
      else restamp outcome at_ (calls + 1) rest stored

section Restamp

variable {outcome : Nat → Except String Unit} {at_ : Millis} {calls : Nat}
  {batch : List OutboxEvent} {stored : OutboxEvent}

/-- The rows whose publication returned are among the batch. -/
theorem returnedOf_sublist :
    (returnedOf outcome calls batch).Sublist (batch.map OutboxEvent.id) := by
  induction batch generalizing calls with
  | nil => exact .slnil
  | cons row rest ih =>
      rw [returnedOf, List.map_cons]
      split
      · exact ih.cons_cons _
      · exact ih.cons _

/-- A row outside the batch is not stamped. -/
theorem restamp_of_not_mem (outside : stored.id ∉ batch.map OutboxEvent.id) :
    restamp outcome at_ calls batch stored = stored := by
  induction batch generalizing calls with
  | nil => rfl
  | cons row rest ih =>
      rw [List.map_cons, List.mem_cons, not_or] at outside
      rw [restamp, if_neg outside.1, ih outside.2]

/-- A stamp keeps the id of its row. -/
@[simp] theorem restamp_id : (restamp outcome at_ calls batch stored).id = stored.id := by
  induction batch generalizing calls with
  | nil => rfl
  | cons row rest ih =>
      rw [restamp]
      split
      · rfl
      · exact ih

/-- A stamp keeps the creation time of its row. -/
@[simp] theorem restamp_createdAt :
    (restamp outcome at_ calls batch stored).createdAt = stored.createdAt := by
  induction batch generalizing calls with
  | nil => rfl
  | cons row rest ih =>
      rw [restamp]
      split
      · rfl
      · exact ih

/-- A row of the batch is stamped with what came of one publication. -/
theorem restamp_of_mem (distinct : (batch.map OutboxEvent.id).Nodup) (member : stored ∈ batch) :
    ∃ call, restamp outcome at_ calls batch stored =
      stored.apply (stored.changes (attempted stored at_ (outcome call))) at_ := by
  induction batch generalizing calls with
  | nil => cases member
  | cons row rest ih =>
      obtain ⟨outside, distinct⟩ := List.nodup_cons.mp distinct
      rcases List.mem_cons.mp member with rfl | inside
      · exact ⟨calls, by rw [restamp, if_pos rfl]⟩
      · have differ : stored.id ≠ row.id := by
          intro same
          exact outside (same ▸ List.mem_map.mpr ⟨stored, inside, rfl⟩)
        rw [restamp, if_neg differ]
        exact ih distinct inside

/-- A row whose publication returned is stamped as sent. The induction is on the batch,
whose publications are numbered one by one. -/
theorem restamp_of_returned (distinct : (batch.map OutboxEvent.id).Nodup)
    (visible : ∀ row ∈ batch, row.Visible)
    (returned : stored.id ∈ returnedOf outcome calls batch) :
    (restamp outcome at_ calls batch stored).status = .sent := by
  induction batch generalizing calls with
  | nil => cases returned
  | cons row rest ih =>
      obtain ⟨outside, distinct⟩ := List.nodup_cons.mp distinct
      have others : ∀ row ∈ rest, row.Visible := fun other member =>
        visible other (List.mem_cons_of_mem _ member)
      rw [restamp]
      split
      · rename_i same
        cases answer : outcome calls with
        | ok value =>
            change (changed row.status .sent).getD _ = _
            rw [(visible row List.mem_cons_self).1]
            rfl
        | error message =>
            simp only [returnedOf, answer] at returned
            have inside := returnedOf_sublist.subset returned
            exact (outside (same ▸ inside)).elim
      · rename_i differ
        apply ih distinct others
        simp only [returnedOf] at returned
        split at returned
        · exact (List.mem_cons.mp returned).resolve_left differ
        · exact returned

end Restamp

/-- The world after the publications of a batch. -/
def Dispatching.published (outcome : Nat → Except String Unit) (batch : List OutboxEvent)
    (state : Dispatching) : Dispatching :=
  { state with
    calls := state.calls + batch.length
    returned := state.returned ++ returnedOf outcome state.calls batch }

/-- The rows after the stamps of a batch. -/
def Dispatching.stamped (outcome : Nat → Except String Unit) (batch : List OutboxEvent)
    (calls : Nat) (at_ : Millis) (state : Dispatching) : Dispatching :=
  { state with store := { state.store with
      outbox := state.store.outbox.map (restamp outcome at_ calls batch) } }

section Run

variable [Libraries] {outcome : Nat → Except String Unit} {state : Dispatching}

/-- Reading the clock changes nothing. -/
theorem exec_now : Dispatching.exec outcome .now state = (state, state.store.clock) := rfl

/-- Publishing a row is one call of the bus, answered with that call's outcome. -/
theorem exec_publishEvent (row : OutboxEvent) :
    Dispatching.exec outcome (.publishEvent row.id row.pattern row.payload) state =
      (state.published outcome [row], outcome state.calls) := by
  cases answer : outcome state.calls with
  | ok value => simp only [Dispatching.exec, answer, Dispatching.published, returnedOf,
      List.length_singleton]
  | error message => simp only [Dispatching.exec, answer, Dispatching.published, returnedOf,
      List.length_singleton, List.append_nil]

omit [Libraries] in
/-- A batch is published one row after the other. -/
theorem published_cons (row : OutboxEvent) (rest : List OutboxEvent) :
    (state.published outcome [row]).published outcome rest =
      state.published outcome (row :: rest) := by
  unfold Dispatching.published
  cases answer : outcome state.calls with
  | ok value =>
      simp only [returnedOf, answer, List.length_cons, List.length_nil, List.append_assoc,
        List.cons_append, List.nil_append, Nat.add_assoc, Nat.add_comm 1, Nat.zero_add]
  | error message =>
      simp only [returnedOf, answer, List.length_cons, List.length_nil, List.append_nil,
        Nat.add_assoc, Nat.add_comm 1, Nat.zero_add]

variable (outcome) in
/-- The loop publishes the batch and leaves its stamps. -/
theorem run_dispatch (rest : List OutboxEvent) (tally : SweepResult) (state : Dispatching) :
    ∃ total, (dispatch rest tally).run (Dispatching.exec outcome) state =
      (state.published outcome rest,
        .ok (stampsOf outcome state.store.clock state.calls rest, total)) := by
  induction rest generalizing tally state with
  | nil => exact ⟨tally, by simp [dispatch, Dispatching.published, returnedOf, stampsOf]⟩
  | cons row rest ih =>
      obtain ⟨total, rested⟩ := ih (tally.count row (outcome state.calls))
        (state.published outcome [row])
      refine ⟨total, ?_⟩
      rw [dispatch]
      simp only [await, now, Program.perform_bind, Program.run_call, exec_publishEvent, exec_now]
      rw [Program.run_bind_of_ok _ rested, published_cons]
      rfl

/-- The flush of a batch's stamps on a database that answers: every row of the batch is
stamped and nothing else is written. -/
theorem run_writeAll (at_ : Millis) (calls : Nat) (batch : List OutboxEvent)
    (distinct : (batch.map OutboxEvent.id).Nodup) (state : Dispatching)
    (up : state.store.databaseUp = true) :
    (writeAll at_ (stampsOf outcome at_ calls batch)).run (Dispatching.exec outcome) state =
      (state.stamped outcome batch calls at_, .ok ()) := by
  induction batch generalizing calls state with
  | nil =>
      have same : restamp outcome at_ calls [] = id := rfl
      simp only [stampsOf, writeAll, Dispatching.stamped, same, List.map_id]
      rfl
  | cons row rest ih =>
      obtain ⟨outside, distinct⟩ := List.nodup_cons.mp distinct
      have applies : state.store.Applies (.updateOutbox row.id
        (row.changes (attempted row at_ (outcome calls)))) := ⟨up, rfl⟩
      rw [stampsOf, update_attempted, List.singleton_append, writeAll]
      simp only [await, Program.perform_bind, Program.call_bind, Program.run_call]
      rcases Dispatching.exec_write (.updateOutbox row.id
        (row.changes (attempted row at_ (outcome calls)))) at_ state with ⟨_, ran⟩ | ⟨refused, _⟩
      · have rested := ih (calls + 1) distinct
          { state with
            store := state.store.stored at_ (.updateOutbox row.id
              (row.changes (attempted row at_ (outcome calls)))) } up
        rw [ran, ofReply_ok, Program.ret_bind, rested]
        simp only [Dispatching.stamped, Backend.stored, modifyAt, List.map_map]
        congr 4
        funext stored
        by_cases same : stored.id = row.id
        · have apart : stored.id ∉ rest.map OutboxEvent.id := same ▸ outside
          simp only [Function.comp_apply, same, ↓reduceIte, restamp]
          exact restamp_of_not_mem apart
        · simp only [Function.comp_apply, same, ↓reduceIte, restamp]
      · exact (refused applies).elim

/-- The batch a sweep takes. -/
def Dispatching.batch (state : Dispatching) : List OutboxEvent :=
  state.store.pendingOutbox maxAttempts maxBatch

variable (outcome) in
/-- The world after a sweep with a database that answers. -/
def Dispatching.swept (state : Dispatching) : Dispatching :=
  (state.published outcome state.batch).stamped outcome state.batch state.calls state.store.clock

variable (outcome state) in
/-- The body of a sweep, run alone: it finds its batch, publishes it and flushes the stamps. -/
theorem run_sweepPending (up : state.store.databaseUp = true)
    (distinct : (state.batch.map OutboxEvent.id).Nodup) :
    (sweepPending.run (Dispatching.exec outcome) state).1 = state.swept outcome := by
  have found : Dispatching.exec outcome (.findPendingOutbox maxAttempts maxBatch) state =
      (state, .ok state.batch) := by
    simp only [Dispatching.exec, Backend.exec, Backend.answer, up, ↓reduceIte, Dispatching.batch]
  unfold sweepPending
  simp only [await, Program.perform_bind, Program.run_call, found, ofReply_ok, Program.call_bind,
    Program.ret_bind]
  by_cases none : state.batch = []
  · rw [Dispatching.swept, none]
    have same : restamp outcome state.store.clock state.calls [] = id := rfl
    simp only [List.isEmpty_nil, ↓reduceIte, Program.pure_eq, Program.run_ret,
      Dispatching.stamped, Dispatching.published, same, List.map_id, List.length_nil,
      Nat.add_zero, returnedOf, List.append_nil]
  · have nonempty : state.batch.isEmpty = false := by
      rw [List.isEmpty_eq_false_iff]
      exact none
    obtain ⟨total, dispatched⟩ := run_dispatch outcome state.batch ⟨0, 0⟩ state
    have flushed : (writeAll state.store.clock
        (stampsOf outcome state.store.clock state.calls state.batch)).run
          (Dispatching.exec outcome) (state.published outcome state.batch) =
        (state.swept outcome, .ok ()) := run_writeAll _ _ _ distinct _ up
    have counted : ∀ status, Dispatching.exec outcome (.countOutbox status)
        (state.swept outcome) = (state.swept outcome, .ok
          ((state.swept outcome).store.outbox.countP fun row => decide (row.status = status))) := by
      intro status
      have answers : (state.swept outcome).store.databaseUp = true := up
      simp only [Dispatching.exec, Backend.exec, Backend.answer, answers, ↓reduceIte]
    rw [nonempty]
    simp only [Bool.false_eq_true, ↓reduceIte]
    rw [Program.run_bind_of_ok _ dispatched]
    simp only
    have clock : (state.published outcome state.batch).store.clock = state.store.clock := rfl
    rw [flush_bind, Program.run_call, exec_now]
    simp only [clock]
    rw [Program.run_bind_of_ok _ flushed]
    simp only [Program.run_call, counted, ofReply_ok, Program.ret_bind, Program.pure_eq,
      Program.run_ret]

/-- A sweep run alone, with the flag down and a database that answers. -/
theorem run_sweep (up : state.store.databaseUp = true) (free : state.store.sweepRunning = false)
    (distinct : (state.batch.map OutboxEvent.id).Nodup) :
    (sweep.run (Dispatching.exec outcome) state).1 = state.swept outcome := by
  have began : Dispatching.exec outcome .beginSweep state =
      ({ state with store := { state.store with sweepRunning := true } }, true) := by
    simp only [Dispatching.exec, Backend.exec, free, Bool.false_eq_true, ↓reduceIte]
  have body := run_sweepPending outcome
    { state with store := { state.store with sweepRunning := true } } up distinct
  unfold sweep
  simp only [await, Program.perform_bind, Program.run_call, began, ↓reduceIte]
  rw [Program.run_bind_of_ok _ (Program.run_attempt _ _ _), body, Program.run_call]
  have cleared : (Dispatching.exec outcome .endSweep (Dispatching.swept outcome
      { state with store := { state.store with sweepRunning := true } })).1 =
        state.swept outcome := by
    rcases state with ⟨store, calls, returned⟩
    cases store
    cases free
    rfl
  rw [cleared]
  cases (sweepPending.run (Dispatching.exec outcome)
    { state with store := { state.store with sweepRunning := true } }).2 <;> rfl

end Run

/-! ## The queue -/

/-- The attempts a row has left. -/
def OutboxEvent.left (row : OutboxEvent) : Nat := maxAttempts - row.attempts

/-- A row put in front of the queue by its time. -/
abbrev OutboxEvent.Before (first second : OutboxEvent) : Prop :=
  first.createdAt ≤ second.createdAt

instance : Std.Total OutboxEvent.Before := ⟨fun _ _ => Nat.le_total _ _⟩

instance : IsTrans OutboxEvent OutboxEvent.Before := ⟨fun _ _ _ => Nat.le_trans⟩

/-- The pending rows, oldest first; rows of one time keep their order in the store. -/
def queueOf (rows : List OutboxEvent) : List OutboxEvent :=
  (rows.filter fun row => decide (row.status = .pending)).insertionSort OutboxEvent.Before

/-- No row is hidden from the sweep's query. -/
theorem pendingOutbox_eq {store : Backend} (accountable : store.Accountable) (limit : Nat) :
    store.pendingOutbox maxAttempts limit = (queueOf store.outbox).take limit := by
  have same : store.outbox.filter (fun row =>
      decide (row.status = .pending ∧ row.attempts < maxAttempts)) =
        store.outbox.filter fun row => decide (row.status = .pending) := by
    apply List.filter_congr
    intro row member
    have visible := (accountable.tallied row member).1
    simp only [decide_eq_decide]
    exact ⟨And.left, fun pending => ⟨pending, visible pending⟩⟩
  rw [Backend.pendingOutbox, same]
  rfl

/-- The queue holds the pending rows. -/
theorem mem_queueOf {rows : List OutboxEvent} {row : OutboxEvent} :
    row ∈ queueOf rows ↔ row ∈ rows ∧ row.status = .pending := by
  rw [queueOf, List.mem_insertionSort, List.mem_filter, decide_eq_true_eq]

/-- What comes back of a row: itself rewritten, if it is then pending. -/
def comeback (rewrite : OutboxEvent → OutboxEvent) (row : OutboxEvent) : Option OutboxEvent :=
  if (rewrite row).status = .pending then some (rewrite row) else none

/-- Rewriting rows in place, with nothing becoming pending, leaves the queue in order. -/
theorem queueOf_map {rows : List OutboxEvent} {rewrite : OutboxEvent → OutboxEvent}
    (times : ∀ row, (rewrite row).createdAt = row.createdAt)
    (settled : ∀ row ∈ rows, (rewrite row).status = .pending → row.status = .pending) :
    queueOf (rows.map rewrite) = (queueOf rows).filterMap (comeback rewrite) := by
  have parts : rows.filter ((fun row => decide (row.status = .pending)) ∘ rewrite) =
      (rows.filter fun row => decide (row.status = .pending)).filter
        ((fun row => decide (row.status = .pending)) ∘ rewrite) := by
    rw [List.filter_filter]
    apply List.filter_congr
    intro row member
    have before := settled row member
    simp only [Function.comp_apply, ← Bool.decide_and, decide_eq_decide]
    exact ⟨fun pending => ⟨pending, before pending⟩, And.left⟩
  rw [queueOf, List.filter_map, parts, ← List.map_insertionSort OutboxEvent.Before
    OutboxEvent.Before rewrite _ (fun first _ second _ => by
      simp only [OutboxEvent.Before, times]), ← filter_insertionSort OutboxEvent.Before,
    ← List.filterMap_eq_map, List.filterMap_filter]
  simp only [Function.comp_apply, decide_eq_true_eq]
  rfl

/-- A row that is stamped and still pending has one attempt less. -/
theorem stamped_pending {row stored : OutboxEvent} {at_ now : Millis}
    {published : Except String Unit} (visible : row.Visible)
    (pending : (stored.apply (row.changes (attempted row at_ published)) now).status = .pending) :
    (stored.apply (row.changes (attempted row at_ published)) now).attempts =
      row.attempts + 1 := by
  cases published with
  | ok value =>
      change (changed row.status .sent).getD _ = _ at pending
      rw [visible.1] at pending
      cases pending
  | error message =>
      change (changed row.attempts (row.attempts + 1)).getD _ = _
      rw [changed_of_ne (Nat.ne_of_lt (Nat.lt_succ_self _)), Option.getD_some]

section Swept

variable {outcome : Nat → Except String Unit} {state : Dispatching}

/-- What a sweep does to the rows and to what was published. -/
structure Drains (before after : Dispatching) : Prop where
  accountable : after.store.Accountable
  up : after.store.databaseUp = true
  free : after.store.sweepRunning = false
  round : Round maxBatch OutboxEvent.left (queueOf before.store.outbox)
    (queueOf after.store.outbox)
  returned : ∃ ids, after.returned = before.returned ++ ids ∧ ids.Nodup ∧
    ∀ id ∈ ids, before.store.PendingRow id ∧ ¬after.store.PendingRow id
  pending : ∀ id, after.store.PendingRow id → before.store.PendingRow id

variable (outcome)

/-- A stored row is in the batch and stamped, or it is left as it is. -/
theorem restamp_cases (accountable : state.store.Accountable) {row : OutboxEvent}
    (member : row ∈ state.store.outbox) (at_ : Millis) (calls : Nat) :
    row ∈ state.batch ∧ (∃ call, restamp outcome at_ calls state.batch row =
      row.apply (row.changes (attempted row at_ (outcome call))) at_) ∨
    row.id ∉ state.batch.map OutboxEvent.id ∧ restamp outcome at_ calls state.batch row = row := by
  by_cases inside : row.id ∈ state.batch.map OutboxEvent.id
  · obtain ⟨other, taken, same⟩ := List.mem_map.mp inside
    have equal : other = row := List.inj_on_of_nodup_map accountable.distinct
      (Backend.mem_pendingOutbox taken).1 member same
    rw [equal] at taken
    exact .inl ⟨taken, restamp_of_mem (nodup_pendingOutbox accountable maxBatch) taken⟩
  · exact .inr ⟨inside, restamp_of_not_mem inside⟩

/-- Nothing becomes pending by a stamp. -/
theorem settled_restamp (accountable : state.store.Accountable) (calls : Nat) (at_ : Millis) :
    ∀ row ∈ state.store.outbox, (restamp outcome at_ calls state.batch row).status = .pending →
      row.status = .pending := by
  intro row member pending
  rcases restamp_cases outcome accountable member at_ calls with ⟨taken, _⟩ | ⟨_, same⟩
  · exact (Backend.mem_pendingOutbox taken).2.1
  · rwa [same] at pending

/-- A sweep is a round of the queue: of the batch at its front what is still pending comes
back with fewer attempts left, and the others stay. -/
theorem round_swept (accountable : state.store.Accountable) (calls : Nat) (at_ : Millis) :
    Round maxBatch OutboxEvent.left (queueOf state.store.outbox)
      (queueOf (state.store.outbox.map (restamp outcome at_ calls state.batch))) := by
  have batch : state.batch = (queueOf state.store.outbox).take maxBatch :=
    pendingOutbox_eq accountable maxBatch
  have distinct : (queueOf state.store.outbox).Nodup := by
    rw [queueOf, (List.perm_insertionSort _ _).nodup_iff]
    exact List.Nodup.of_map _ (nodup_keys_filter accountable.distinct _)
  refine ⟨comeback (restamp outcome at_ calls state.batch), ?_, ?_⟩
  · intro row taken back returns
    rw [← batch] at taken
    have visible := (Backend.mem_pendingOutbox taken).2
    obtain ⟨call, stamped⟩ : ∃ call, restamp outcome at_ calls state.batch row =
        row.apply (row.changes (attempted row at_ (outcome call))) at_ :=
      restamp_of_mem (nodup_pendingOutbox accountable maxBatch) taken
    rw [comeback, stamped] at returns
    split at returns
    · rename_i pending
      cases returns
      have attempts := stamped_pending visible pending
      have tallied := (stamped_tallied visible visible.1 at_ at_ (outcome call)).1 pending
      unfold OutboxEvent.left
      rw [attempts] at tallied ⊢
      omega
    · cases returns
  · have kept : ((queueOf state.store.outbox).drop maxBatch).filterMap
        (comeback (restamp outcome at_ calls state.batch)) =
        (queueOf state.store.outbox).drop maxBatch := by
      rw [List.filterMap_congr (g := some), List.filterMap_some]
      intro row member
      obtain ⟨present, pending⟩ := mem_queueOf.mp (List.mem_of_mem_drop member)
      rcases restamp_cases outcome accountable present at_ calls with ⟨taken, _⟩ | ⟨_, same⟩
      · rw [batch] at taken
        exact (List.disjoint_take_drop distinct (Nat.le_refl _) taken member).elim
      · rw [comeback, same, if_pos pending]
    rw [queueOf_map (fun _ => restamp_createdAt) (settled_restamp outcome accountable calls at_)]
    conv_lhs => rw [← List.take_append_drop maxBatch (queueOf state.store.outbox)]
    rw [List.filterMap_append, kept]

/-- A sweep that finds the database up and no other sweep running drains: it takes one round
of the queue, and what it published successfully was pending before and is not after. -/
theorem drains_swept (accountable : state.store.Accountable)
    (up : state.store.databaseUp = true) (free : state.store.sweepRunning = false) :
    Drains state (state.swept outcome) := by
  have distinct : (state.batch.map OutboxEvent.id).Nodup :=
    nodup_pendingOutbox accountable maxBatch
  have visible : ∀ row ∈ state.batch, row.Visible :=
    fun row taken => (Backend.mem_pendingOutbox taken).2
  have settled := settled_restamp outcome accountable state.calls state.store.clock
  refine ⟨⟨?_, ?_⟩, up, free, ?_, ⟨_, rfl, ?_, ?_⟩, ?_⟩
  · change ((state.store.outbox.map _).map OutboxEvent.id).Nodup
    rw [List.map_map]
    have same : OutboxEvent.id ∘ restamp outcome state.store.clock state.calls state.batch =
        OutboxEvent.id := by
      funext row
      exact restamp_id
    rw [same]
    exact accountable.distinct
  · intro row member
    obtain ⟨old, present, rfl⟩ := List.mem_map.mp member
    rcases restamp_cases outcome accountable present state.store.clock state.calls with
      ⟨taken, call, stamped⟩ | ⟨_, same⟩
    · rw [stamped]
      exact stamped_tallied (visible old taken) (visible old taken).1 _ _ _
    · rw [same]
      exact accountable.tallied old present
  · exact round_swept outcome accountable state.calls state.store.clock
  · exact returnedOf_sublist.nodup distinct
  · intro id returned
    obtain ⟨row, taken, named⟩ := List.mem_map.mp (returnedOf_sublist.subset returned)
    refine ⟨⟨row, (Backend.mem_pendingOutbox taken).1, named, (visible row taken).1⟩, ?_⟩
    rintro ⟨stamped, member, same, pending⟩
    obtain ⟨old, present, rfl⟩ := List.mem_map.mp member
    rw [restamp_id] at same
    rw [restamp_of_returned distinct visible (same ▸ returned)] at pending
    cases pending
  · rintro id ⟨stamped, member, same, pending⟩
    obtain ⟨old, present, rfl⟩ := List.mem_map.mp member
    rw [restamp_id] at same
    exact ⟨old, present, same, settled old present pending⟩

end Swept

/-! ## Any number of sweeps -/

section Sweeps

variable [Libraries] (outcome : Nat → Except String Unit)

/-- The world after so many sweeps, one after another. -/
def sweeps : Nat → Dispatching → Dispatching
  | 0, state => state
  | count + 1, state => (sweep.run (Dispatching.exec outcome) (sweeps count state)).1

variable {state : Dispatching}

/-- Each sweep drains what the ones before it have left. -/
theorem drains_sweeps (accountable : state.store.Accountable)
    (up : state.store.databaseUp = true) (free : state.store.sweepRunning = false)
    (count : Nat) : Drains (sweeps outcome count state) (sweeps outcome (count + 1) state) := by
  have one : ∀ {state : Dispatching}, state.store.Accountable → state.store.databaseUp = true →
      state.store.sweepRunning = false →
        Drains state (sweep.run (Dispatching.exec outcome) state).1 := by
    intro state accountable up free
    rw [run_sweep up free (nodup_pendingOutbox accountable maxBatch)]
    exact drains_swept outcome accountable up free
  induction count with
  | zero => exact one accountable up free
  | succ count ih => exact one ih.accountable ih.up ih.free

/-- After as many sweeps as the attempts allow for each batch no row is pending, whatever
the outcomes of the publications. -/
theorem sweeps_drain (accountable : state.store.Accountable)
    (up : state.store.databaseUp = true) (free : state.store.sweepRunning = false)
    {batches : Nat}
    (short : state.store.outbox.countP (fun row => decide (row.status = .pending)) ≤
      batches * maxBatch) :
    ∀ row ∈ (sweeps outcome (maxAttempts * batches) state).store.outbox,
      row.status ≠ .pending := by
  have empty : queueOf (sweeps outcome (maxAttempts * batches) state).store.outbox = [] := by
    apply drained batches (fun count => queueOf (sweeps outcome count state).store.outbox)
    · exact fun count => (drains_sweeps outcome accountable up free count).round
    · intro row member
      obtain ⟨present, pending⟩ := mem_queueOf.mp member
      have bound := (accountable.tallied row present).1 pending
      unfold OutboxEvent.left
      omega
    · change (queueOf state.store.outbox).length ≤ _
      rw [queueOf, List.length_insertionSort, ← List.countP_eq_length_filter]
      exact short
  intro row member pending
  have queued := mem_queueOf.mpr ⟨member, pending⟩
  rw [empty] at queued
  cases queued

/-- In between each row is published successfully at most once. -/
theorem sweeps_once (accountable : state.store.Accountable)
    (up : state.store.databaseUp = true) (free : state.store.sweepRunning = false)
    (count : Nat) (id : ObjectId) :
    (sweeps outcome count state).returned.count id ≤ state.returned.count id + 1 ∧
      (state.returned.count id < (sweeps outcome count state).returned.count id →
        ¬(sweeps outcome count state).store.PendingRow id) := by
  induction count with
  | zero => exact ⟨Nat.le_succ _, fun more => (Nat.lt_irrefl _ more).elim⟩
  | succ count ih =>
      have drains := drains_sweeps outcome accountable up free count
      obtain ⟨ids, returned, distinct, settled⟩ := drains.returned
      rw [returned, List.count_append]
      by_cases member : id ∈ ids
      · have once := List.count_eq_one_of_mem distinct member
        have unsent : ¬state.returned.count id < (sweeps outcome count state).returned.count id :=
          fun more => ih.2 more (settled id member).1
        exact ⟨by omega, fun _ => (settled id member).2⟩
      · rw [List.count_eq_zero_of_not_mem member, Nat.add_zero]
        exact ⟨ih.1, fun more pending => ih.2 more (drains.pending id pending)⟩

variable {outcome} {start : Dispatching} {pool : OutboxPool}

/-- In every state of one process every pending row has attempts left and every failed one
has used all ten. From there, with no sweep running and a database that answers, ten
sweeps for every twenty-five pending rows leave none pending, and none of the rows is
published successfully twice. -/
theorem outbox_drains (empty : start.store.outbox = [])
    (free : start.store.sweepRunning = false)
    (reached : (outboxService outcome).Reaches OneProcess ⟨start, []⟩ pool) :
    (∀ row ∈ pool.shared.store.outbox, (row.status = .pending → row.attempts < 10) ∧
      (row.status = .failed → row.attempts = 10)) ∧
    ∀ pending, pool.shared.store.outbox.countP (fun row => decide (row.status = .pending)) =
        pending → pool.shared.store.databaseUp = true → pool.shared.store.sweepRunning = false →
      (∀ row ∈ (sweeps outcome (10 * ((pending + 24) / 25)) pool.shared).store.outbox,
        row.status ≠ .pending) ∧
      ∀ id, (sweeps outcome (10 * ((pending + 24) / 25)) pool.shared).returned.count id ≤
        pool.shared.returned.count id + 1 := by
  have accountable : start.store.Accountable := by
    constructor
    · rw [empty]
      exact List.nodup_nil
    · rw [empty]
      exact fun _ none => nomatch none
  have initial : ∃ points, (outboxControl outcome).Tracks points ⟨start, []⟩ ∧
      Orderly start points := ⟨[], rfl, .start accountable free⟩
  obtain ⟨points, tracks, orderly⟩ := reached.controlled (outboxControl outcome) Orderly
    (fun _ _ process => process.alive)
    (fun _ _ _ _ _ _ process orderly moves => orderly.moves process moves) initial
  refine ⟨orderly.accountable.tallied, ?_⟩
  rintro pending rfl up idle
  refine ⟨sweeps_drain outcome orderly.accountable up idle ?_, fun id =>
    (sweeps_once outcome orderly.accountable up idle _ id).1⟩
  unfold maxBatch
  omega

end Sweeps

/-! ## An outage of the bus -/

section Outage

open scoped Plain

/-- A row is staged while every publication throws. -/
def stagedDuringOutage : OutboxPool :=
  (outboxService fun _ => .error "bus is down").schedule ⟨⟨{}, 0, []⟩, []⟩
    (.spawn (.unit ⟨⟨"user", "user.deleted", [], "key"⟩, [], [], fun _ none => nomatch none⟩) ::
      List.replicate 6 (.step 0))

/-- The premises are met by an outage in which every publication fails: ten sweeps use up
the attempts of the staged row, and nothing stays pending. -/
theorem outbox_drains_duringOutage :
    (sweeps (fun _ => .error "bus is down") 10 stagedDuringOutage.shared).store.outbox.countP
      (fun row => decide (row.status = .pending)) = 0 := by
  have reached : (outboxService fun _ => .error "bus is down").Reaches OneProcess
      ⟨⟨{}, 0, []⟩, []⟩ stagedDuringOutage := .of_admits (by decide)
  have settled := ((outbox_drains rfl rfl reached).2 1 (by decide) rfl rfl).1
  rw [List.countP_eq_zero]
  intro row member
  exact fun pending => settled row member (of_decide_eq_true pending)

end Outage

end NestMonorepo
