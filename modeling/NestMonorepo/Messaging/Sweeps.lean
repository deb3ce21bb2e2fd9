import NestMonorepo.Messaging.Dispatching

/-! # One sweep at a time

The flag that `sweep` checks and sets lets one sweep through at a time, so the rows a
sweep has loaded stay pending until it stamps them, whatever is staged meanwhile. On
this rest the retry counter and the promise that a row is not published twice.
-/

namespace NestMonorepo

open Collections Concurrency Handler OutboxDispatcher

/-! ## Rows -/

/-- A row the sweep's query returns. -/
def OutboxEvent.Visible (row : OutboxEvent) : Prop :=
  row.status = .pending ∧ row.attempts < maxAttempts

/-- A pending row has attempts left, and a failed one has used them up. -/
def OutboxEvent.Tallied (row : OutboxEvent) : Prop :=
  (row.status = .pending → row.attempts < maxAttempts) ∧
    (row.status = .failed → row.attempts = maxAttempts)

namespace Backend

/-- The rows have ids of their own and their counters are right. -/
structure Accountable (store : Backend) : Prop where
  distinct : (store.outbox.map OutboxEvent.id).Nodup
  tallied : ∀ row ∈ store.outbox, row.Tallied

/-- A pending row is stored under the id. -/
def PendingRow (store : Backend) (id : ObjectId) : Prop :=
  ∃ row ∈ store.outbox, row.id = id ∧ row.status = .pending

/-- The rows stay accountable, and those pending stay so, some ids apart. -/
structure Advances (store later : Backend) (except : List ObjectId) : Prop where
  accountable : later.Accountable
  pending : ∀ id ∉ except, store.PendingRow id → later.PendingRow id

/-- A store is an advance of itself, whatever rows are excepted. -/
theorem Advances.refl {store : Backend} (accountable : store.Accountable)
    (except : List ObjectId) : store.Advances store except :=
  ⟨accountable, fun _ _ pending => pending⟩

/-- A step that leaves the outbox alone is an advance. -/
theorem Advances.of_outbox {store later : Backend} (accountable : store.Accountable)
    (same : later.outbox = store.outbox) (except : List ObjectId) :
    store.Advances later except := by
  constructor
  · constructor
    · rw [same]
      exact accountable.distinct
    · rw [same]
      exact accountable.tallied
  · intro id _ pending
    unfold PendingRow at pending ⊢
    rwa [same]

end Backend

/-- An advance that excepts some rows is one that excepts more of them. -/
theorem Backend.Advances.mono {store later : Backend} {except wider : List ObjectId}
    (advances : store.Advances later except) (within : except ⊆ wider) :
    store.Advances later wider :=
  ⟨advances.accountable, fun id outside => advances.pending id fun member =>
    outside (within member)⟩

/-! ## Writes -/

/-- The row a write updates. -/
def Write.target : Write → Option ObjectId
  | .updateOutbox id _ => some id
  | _ => none

/-- A write of a unit of work: what it makes of a row is pending and untried. -/
def Write.Stages : Write → Prop
  | .insertOutbox row => row.status = .pending ∧ row.attempts = 0
  | .updateOutbox _ changes => changes.status = some .pending ∧ changes.attempts = some 0
  | _ => True

/-- A write of a sweep: the stamp on a row that was found by its query. -/
def Write.Stamps : Write → Prop
  | .updateOutbox id changes => ∃ (row : OutboxEvent) (at_ : Millis) (published : _),
      row.Visible ∧ row.id = id ∧ changes = row.changes (attempted row at_ published)
  | _ => False

/-- A domain write stages nothing wrong, as it concerns no outbox row. -/
theorem Write.Mutates.stages {write : Write} (mutates : write.Mutates) : write.Stages := by
  cases write with
  | insertOutbox row => exact mutates.elim
  | updateOutbox id changes => exact mutates.elim
  | _ => trivial

section Stored

variable {store : Backend} {write : Write} {at_ : Millis}

/-- No write touches the flag of the running sweep. -/
@[simp] theorem stored_sweepRunning :
    (store.stored at_ write).sweepRunning = store.sweepRunning := by
  cases write <;> rfl

/-- A staged write keeps the rows accountable and what was pending pending: it inserts an
untried row or puts one given up back. -/
theorem Write.Stages.stored (stages : write.Stages) (accountable : store.Accountable)
    (clean : store.violation write = none) (except : List ObjectId) :
    store.Advances (store.stored at_ write) except := by
  cases write with
  | insertOutbox row =>
      have fresh : fetch OutboxEvent.id row.id store.outbox = none := by
        cases found : fetch OutboxEvent.id row.id store.outbox with
        | none => rfl
        | some other =>
            simp only [Backend.violation, found, Option.isSome_some, ↓reduceIte] at clean
            cases clean
      refine ⟨⟨nodup_keys_append accountable.distinct fresh, ?_⟩, ?_⟩
      · intro other member
        rcases List.mem_append.mp member with present | added
        · exact accountable.tallied other present
        · rw [List.mem_singleton.mp added]
          refine ⟨fun _ => ?_, fun failed => ?_⟩
          · rw [stages.2]
            decide
          · rw [stages.1] at failed
            cases failed
      · rintro id - ⟨other, present, same, pending⟩
        exact ⟨other, List.mem_append_left _ present, same, pending⟩
  | updateOutbox id changes =>
      have revived : ∀ row : OutboxEvent, (row.apply changes at_).status = .pending ∧
          (row.apply changes at_).attempts = 0 := by
        intro row
        simp only [OutboxEvent.apply, stages.1, stages.2, Option.getD_some, and_self]
      refine ⟨⟨?_, ?_⟩, ?_⟩
      · change ((modifyAt OutboxEvent.id id (·.apply changes at_) store.outbox).map _).Nodup
        rw [modifyAt_keys fun row => row.apply_id changes at_]
        exact accountable.distinct
      · intro row member
        rcases mem_modifyAt member with ⟨present, _⟩ | ⟨old, _, _, rfl⟩
        · exact accountable.tallied row present
        · refine ⟨fun _ => ?_, fun failed => ?_⟩
          · rw [(revived old).2]
            decide
          · rw [(revived old).1] at failed
            cases failed
      · rintro other - ⟨row, present, rfl, pending⟩
        by_cases same : row.id = id
        · exact ⟨_, mem_modifyAt_of_eq present same, rfl, (revived row).1⟩
        · exact ⟨row, mem_modifyAt_of_ne present same, rfl, pending⟩
  | _ => exact .of_outbox accountable (by rfl) except

/-- What a stamp makes of a pending row: it is sent, or has one attempt more and is given up
when that was the last. -/
theorem stamped_tallied {row stored : OutboxEvent} (visible : row.Visible)
    (pending : stored.status = .pending) (at_ now : Millis) (published : Except String Unit) :
    (stored.apply (row.changes (attempted row at_ published)) now).Tallied := by
  have counted : changed row.attempts (row.attempts + 1) = some (row.attempts + 1) :=
    changed_of_ne (Nat.ne_of_lt (Nat.lt_succ_self _))
  cases published with
  | ok value =>
      have sent : changed row.status .sent = some OutboxEventStatus.sent := by
        rw [visible.1]
        rfl
      have status : (stored.apply (row.changes (attempted row at_ (.ok value))) now).status =
          .sent := by
        change (changed row.status .sent).getD _ = _
        rw [sent, Option.getD_some]
      refine ⟨fun contrary => ?_, fun contrary => ?_⟩
      · rw [status] at contrary
        cases contrary
      · rw [status] at contrary
        cases contrary
  | error message =>
      have attempts : (stored.apply (row.changes (attempted row at_ (.error message)))
          now).attempts = row.attempts + 1 := by
        change (changed row.attempts (row.attempts + 1)).getD _ = _
        rw [counted, Option.getD_some]
      have status : (stored.apply (row.changes (attempted row at_ (.error message))) now).status =
          if row.attempts + 1 ≥ maxAttempts then .failed else .pending := by
        change (changed row.status (if row.attempts + 1 ≥ maxAttempts then .failed
          else row.status)).getD stored.status = _
        rw [visible.1, pending]
        split <;> rfl
      have bound := visible.2
      unfold OutboxEvent.Tallied
      rw [attempts, status]
      split
      · refine ⟨fun contrary => (nomatch contrary), fun _ => ?_⟩
        omega
      · refine ⟨fun _ => ?_, fun contrary => (nomatch contrary)⟩
        omega

/-- A stamp on a pending row keeps the rows accountable, and the others as pending as they
were. -/
theorem Write.Stamps.stored (stamps : write.Stamps) (accountable : store.Accountable)
    (pending : ∀ id, write.target = some id → store.PendingRow id) (at_ : Millis) :
    store.Advances (store.stored at_ write) write.target.toList := by
  cases write with
  | updateOutbox id changes =>
      obtain ⟨row, attemptedAt, published, visible, rfl, rfl⟩ := stamps
      refine ⟨⟨?_, ?_⟩, ?_⟩
      · change ((modifyAt OutboxEvent.id row.id _ store.outbox).map _).Nodup
        rw [modifyAt_keys fun stored => stored.apply_id _ at_]
        exact accountable.distinct
      · intro stored member
        rcases mem_modifyAt member with ⟨present, _⟩ | ⟨old, present, same, rfl⟩
        · exact accountable.tallied stored present
        · obtain ⟨other, also, equal, waits⟩ := pending row.id rfl
          have only : old = other := List.inj_on_of_nodup_map accountable.distinct present also
            (same.trans equal.symm)
          exact stamped_tallied visible (only ▸ waits) attemptedAt at_ published
      · rintro other differ ⟨stored, present, rfl, waits⟩
        refine ⟨stored, mem_modifyAt_of_ne present fun same => differ ?_, rfl, waits⟩
        exact List.mem_singleton.mpr same
  | insertUser _ => exact stamps.elim
  | insertDevice _ => exact stamps.elim
  | insertOutbox _ => exact stamps.elim
  | updateUser _ _ => exact stamps.elim
  | updateDevice _ _ => exact stamps.elim

end Stored

/-! ## Points -/

/-- The writes of a unit's flush stage rows. -/
def UnitPoint.Tidy : UnitPoint → Prop
  | .flush _ result => ∀ write ∈ result.writes, write.Stages
  | .write _ writes _ => ∀ write ∈ writes, write.Stages
  | _ => True

namespace SweepPoint

/-- Whether the sweep holds the flag. -/
def active : SweepPoint → Bool
  | .begin | .answering _ | .ended _ => false
  | _ => true

/-- The rows a sweep has loaded and not yet attempted. -/
def loaded : SweepPoint → List OutboxEvent
  | .dispatch _ rest _ => rest
  | .stamp _ row _ rest _ => row :: rest
  | _ => []

/-- The stamps a sweep has still to store. -/
def stamps : SweepPoint → List Write
  | .dispatch done _ _ => done
  | .stamp done _ _ _ _ => done
  | .write _ writes _ => writes
  | _ => []

/-- The rows a sweep is to stamp. -/
def ahead (point : SweepPoint) : List ObjectId :=
  point.stamps.filterMap Write.target ++ point.loaded.map OutboxEvent.id

/-- A sweep deals with different rows that its query found, all pending still. -/
structure Tidy (point : SweepPoint) (store : Backend) : Prop where
  loaded : ∀ row ∈ point.loaded, row.Visible
  stamps : ∀ write ∈ point.stamps, write.Stamps
  apart : point.ahead.Nodup
  pending : ∀ id ∈ point.ahead, store.PendingRow id

variable {point : SweepPoint} {store later : Backend}

/-- A sweep with nothing ahead of it is tidy. -/
theorem Tidy.of_idle (loaded : point.loaded = []) (stamps : point.stamps = []) :
    point.Tidy store := by
  have none : point.ahead = [] := by
    rw [ahead, loaded, stamps]
    rfl
  constructor
  · rw [loaded]
    exact fun _ member => nomatch member
  · rw [stamps]
    exact fun _ member => nomatch member
  · rw [none]
    exact List.nodup_nil
  · rw [none]
    exact fun _ member => nomatch member

/-- Outside a sweep no row is ahead. -/
theorem ahead_of_inactive (inactive : point.active = false) : point.ahead = [] := by
  cases point with
  | begin => rfl
  | answering outcome => rfl
  | ended outcome => rfl
  | _ => cases inactive

/-- A point stays tidy as long as the rows ahead of it stay pending. -/
theorem Tidy.of_pending (tidy : point.Tidy store)
    (kept : ∀ id ∈ point.ahead, store.PendingRow id → later.PendingRow id) :
    point.Tidy later :=
  ⟨tidy.loaded, tidy.stamps, tidy.apart, fun id member => kept id member (tidy.pending id member)⟩

end SweepPoint

namespace OutboxPoint

def active : OutboxPoint → Bool
  | .unit _ => false
  | .sweep point => point.active

/-- The rows a thread is to stamp. -/
def ahead : OutboxPoint → List ObjectId
  | .unit _ => []
  | .sweep point => point.ahead

def Tidy (store : Backend) : OutboxPoint → Prop
  | .unit point => point.Tidy
  | .sweep point => point.Tidy store

theorem ahead_of_inactive {point : OutboxPoint} (inactive : point.active = false) :
    point.ahead = [] := by
  cases point with
  | unit point => rfl
  | sweep point => exact SweepPoint.ahead_of_inactive inactive

theorem Tidy.of_pending {point : OutboxPoint} {store later : Backend} (tidy : point.Tidy store)
    (kept : ∀ id ∈ point.ahead, store.PendingRow id → later.PendingRow id) :
    point.Tidy later := by
  cases point with
  | unit point => exact tidy
  | sweep point => exact SweepPoint.Tidy.of_pending tidy kept

end OutboxPoint

/-- The rows a sweep's query returns are different. -/
theorem nodup_pendingOutbox {store : Backend} (accountable : store.Accountable) (limit : Nat) :
    ((store.pendingOutbox maxAttempts limit).map OutboxEvent.id).Nodup := by
  unfold Backend.pendingOutbox
  rw [List.map_take]
  apply List.Nodup.sublist (List.take_sublist _ _)
  rw [((List.perm_insertionSort _ _).map OutboxEvent.id).nodup_iff]
  exact nodup_keys_filter accountable.distinct _

/-- The stamp on a row, as a write. -/
theorem update_attempted (row : OutboxEvent) (at_ : Millis) (published : Except String Unit) :
    row.update (attempted row at_ published) =
      [.updateOutbox row.id (row.changes (attempted row at_ published))] := by
  have differ : row.changes (attempted row at_ published) ≠ {} := by
    intro unchanged
    have attempts : changed row.attempts (attempted row at_ published).attempts = none :=
      congrArg OutboxChanges.attempts unchanged
    have more : (attempted row at_ published).attempts = row.attempts + 1 := by
      cases published <;> rfl
    rw [more, changed_of_ne (Nat.ne_of_lt (Nat.lt_succ_self _))] at attempts
    cases attempts
  rw [OutboxEvent.update, if_neg differ]

/-! ## Steps -/

section Steps

variable [Libraries] {outcome : Nat → Except String Unit} {state : Dispatching}

/-- What the lookup of a key finds is stored. -/
theorem exec_findOutboxEvent {key : String} {found : Option OutboxEvent}
    (answered : (Dispatching.exec outcome (.findOutboxEvent key) state).2 = .ok found) :
    fetch OutboxEvent.idempotencyKey key state.store.outbox = found := by
  change state.store.answer (fetch OutboxEvent.idempotencyKey key state.store.outbox) = _
    at answered
  unfold Backend.answer at answered
  split at answered
  · exact Except.ok.inj answered
  · cases answered

/-- The batch of a sweep is the oldest pending rows of the store at the lookup. -/
theorem exec_findPendingOutbox {limit : Nat} {pending : List OutboxEvent}
    (found : (Dispatching.exec outcome (.findPendingOutbox maxAttempts limit) state).2 =
      .ok pending) : pending = state.store.pendingOutbox maxAttempts limit := by
  change state.store.answer (state.store.pendingOutbox maxAttempts limit) = _ at found
  unfold Backend.answer at found
  split at found
  · exact (Except.ok.inj found).symm
  · cases found

omit [Libraries] in
/-- Reviving a row stages it. -/
theorem stages_of_revive {params : StageOutboxParams} {existing : OutboxEvent}
    (tallied : existing.Tallied) : ∀ write ∈ (params.revive existing).writes, write.Stages := by
  intro write member
  unfold StageOutboxParams.revive at member
  split at member
  · rename_i failed
    rw [OutboxEvent.mem_update member]
    have attempts : changed existing.attempts 0 = some 0 := by
      rw [tallied.2 failed]
      rfl
    have status : changed existing.status .pending = some OutboxEventStatus.pending := by
      rw [failed]
      rfl
    exact ⟨status, attempts⟩
  · exact nomatch member

variable (outcome) in
/-- A step of a unit keeps the rows accountable and what is pending pending, and does not
touch the flag of the sweeps. -/
theorem UnitPoint.step_tidy {point : UnitPoint} (tidy : point.Tidy)
    (accountable : state.store.Accountable) (except : List ObjectId) :
    (step outcome point state).2.Tidy ∧
      state.store.Advances (step outcome point state).1.store except ∧
      (step outcome point state).1.store.sweepRunning = state.store.sweepRunning := by
  cases point with
  | lookup work =>
      refine ⟨?_, .refl accountable except, rfl⟩
      simp only [step]
      split
      · rename_i existing found
        exact stages_of_revive (accountable.tallied existing
          (fetch_some_mem (exec_findOutboxEvent found)))
      · trivial
      · trivial
  | drawId work => exact ⟨trivial, .of_outbox accountable (by rfl) except, rfl⟩
  | create work id =>
      refine ⟨fun write member => ?_, .refl accountable except, rfl⟩
      rw [List.mem_singleton.mp member]
      exact ⟨rfl, rfl⟩
  | flush work result =>
      refine ⟨fun write member => ?_, .refl accountable except, rfl⟩
      rcases List.mem_append.mp member with early | last
      · rcases List.mem_append.mp early with first | staged
        · exact (work.mutates write (List.mem_append_left _ first)).stages
        · exact tidy write staged
      · exact (work.mutates write (List.mem_append_right _ last)).stages
  | write at_ writes result =>
      cases writes with
      | nil => exact ⟨trivial, .refl accountable except, rfl⟩
      | cons first rest =>
          simp only [step]
          rcases Dispatching.exec_write first at_ state with ⟨applies, ran⟩ | ⟨_, error, ran⟩
          · rw [ran]
            refine ⟨fun write member => tidy write (List.mem_cons_of_mem _ member), ?_, ?_⟩
            · exact (tidy first List.mem_cons_self).stored accountable applies.2 except
            · exact stored_sweepRunning
          · rw [ran]
            exact ⟨trivial, .refl accountable except, rfl⟩
  | answering result => exact ⟨trivial, .refl accountable except, rfl⟩
  | ended result => exact ⟨trivial, .refl accountable except, rfl⟩

variable (outcome) in
/-- A step of a sweep keeps it tidy, and leaves the rows of others pending. The cases are
the sweep's points: its query, each publication with its stamp, and the flush. -/
theorem SweepPoint.step_tidy {point : SweepPoint} (tidy : point.Tidy state.store)
    (accountable : state.store.Accountable) :
    (step outcome point state).2.Tidy (step outcome point state).1.store ∧
      state.store.Advances (step outcome point state).1.store point.ahead := by
  cases point with
  | begin =>
      refine ⟨?_, .of_outbox accountable ?_ _⟩
      · simp only [step]
        split <;> exact .of_idle rfl rfl
      · simp only [step, Dispatching.exec, Backend.exec]
        split <;> rfl
  | find =>
      refine ⟨?_, .refl accountable _⟩
      simp only [step]
      split
      · rename_i pending found
        have batch := exec_findPendingOutbox found
        split
        · exact .of_idle rfl rfl
        · constructor
          · intro row member
            exact (Backend.mem_pendingOutbox (batch ▸ member)).2
          · exact fun _ member => (List.not_mem_nil member).elim
          · change (pending.map OutboxEvent.id).Nodup
            rw [batch]
            exact nodup_pendingOutbox accountable maxBatch
          · intro id member
            obtain ⟨row, inside, rfl⟩ := List.mem_map.mp member
            obtain ⟨present, visible⟩ := Backend.mem_pendingOutbox (batch ▸ inside)
            exact ⟨row, present, rfl, visible.1⟩
      · exact .of_idle rfl rfl
  | dispatch done rest tally =>
      cases rest with
      | nil => exact ⟨⟨tidy.loaded, tidy.stamps, tidy.apart, tidy.pending⟩, .refl accountable _⟩
      | cons row rest =>
          have same : (step outcome (.dispatch done (row :: rest) tally) state).1.store =
              state.store := by
            simp only [step, Dispatching.exec]
            split <;> rfl
          rw [same]
          exact ⟨⟨tidy.loaded, tidy.stamps, tidy.apart, tidy.pending⟩, .refl accountable _⟩
  | stamp done row published rest tally =>
      have ahead : (step outcome (.stamp done row published rest tally) state).2.ahead =
          (stamp done row published rest tally).ahead := by
        simp only [step, SweepPoint.ahead, SweepPoint.stamps, SweepPoint.loaded, update_attempted,
          List.filterMap_append, List.filterMap_cons, Write.target, List.filterMap_nil,
          List.append_assoc, List.cons_append, List.nil_append, List.map_cons]
      refine ⟨⟨fun other member => tidy.loaded other (List.mem_cons_of_mem _ member), ?_, ?_, ?_⟩,
        .refl accountable _⟩
      · intro write member
        rcases List.mem_append.mp member with earlier | added
        · exact tidy.stamps write earlier
        · rw [update_attempted] at added
          rw [List.mem_singleton.mp added]
          exact ⟨row, _, _, tidy.loaded row List.mem_cons_self, rfl, rfl⟩
      · rw [ahead]
        exact tidy.apart
      · rw [ahead]
        exact tidy.pending
  | write at_ writes result =>
      cases writes with
      | nil =>
          refine ⟨?_, .refl accountable _⟩
          simp only [step]
          split <;> exact .of_idle rfl rfl
      | cons first rest =>
          simp only [step]
          rcases Dispatching.exec_write first at_ state with ⟨applies, ran⟩ | ⟨_, error, ran⟩
          · rw [ran]
            have stamps := tidy.stamps first List.mem_cons_self
            obtain ⟨id, target⟩ : ∃ id, first.target = some id := by
              cases first with
              | updateOutbox id changes => exact ⟨id, rfl⟩
              | _ => exact stamps.elim
            have ahead : (write at_ (first :: rest) result).ahead =
                id :: (write at_ rest result).ahead := by
              simp only [SweepPoint.ahead, SweepPoint.stamps, SweepPoint.loaded,
                List.filterMap_cons, target, List.cons_append]
            have apart := tidy.apart
            rw [ahead, List.nodup_cons] at apart
            have waiting : ∀ other, first.target = some other → state.store.PendingRow other := by
              intro other same
              rw [target] at same
              cases same
              apply tidy.pending
              rw [ahead]
              exact List.mem_cons_self
            have advances : state.store.Advances (state.store.stored at_ first) [id] := by
              have stored := stamps.stored accountable waiting at_
              rwa [target] at stored
            change (write at_ rest result).Tidy (state.store.stored at_ first) ∧
              state.store.Advances (state.store.stored at_ first) _
            refine ⟨⟨?_, ?_, apart.2, ?_⟩, ?_⟩
            · intro row member
              cases member
            · exact fun write member => tidy.stamps write (List.mem_cons_of_mem _ member)
            · intro other member
              apply advances.pending other
              · intro same
                rw [List.mem_singleton.mp same] at member
                exact apart.1 member
              · apply tidy.pending
                rw [ahead]
                exact List.mem_cons_of_mem _ member
            · apply advances.mono
              rw [ahead]
              exact fun other member => List.mem_singleton.mp member ▸ List.mem_cons_self
          · rw [ran]
            exact ⟨.of_idle rfl rfl, .refl accountable _⟩
  | countFailed result =>
      refine ⟨?_, .refl accountable _⟩
      simp only [step]
      split <;> exact .of_idle rfl rfl
  | close result => exact ⟨.of_idle rfl rfl, .of_outbox accountable (by rfl) _⟩
  | answering result => exact ⟨.of_idle rfl rfl, .refl accountable _⟩
  | ended result => exact ⟨.of_idle rfl rfl, .refl accountable _⟩

/-- The flag is set by the sweep that becomes active, and cleared by the one that
ceases to be. -/
theorem SweepPoint.step_flag (point : SweepPoint) :
    (step outcome point state).2.active = point.active ∧
        (step outcome point state).1.store.sweepRunning = state.store.sweepRunning ∨
      point.active = false ∧ state.store.sweepRunning = false ∧
        (step outcome point state).2.active = true ∧
        (step outcome point state).1.store.sweepRunning = true ∨
      point.active = true ∧ (step outcome point state).2.active = false ∧
        (step outcome point state).1.store.sweepRunning = false := by
  cases point with
  | begin =>
      by_cases running : state.store.sweepRunning = true
      · left
        simp only [step, Dispatching.exec, Backend.exec, running, ↓reduceIte, active,
          Bool.false_eq_true, and_self]
      · right
        left
        simp only [step, Dispatching.exec, Backend.exec, running, ↓reduceIte, active,
          Bool.false_eq_true, and_self]
  | find =>
      refine .inl ⟨?_, rfl⟩
      simp only [step]
      split
      · split <;> rfl
      · rfl
  | dispatch done rest tally =>
      cases rest with
      | nil => exact .inl ⟨rfl, rfl⟩
      | cons row rest =>
          refine .inl ⟨rfl, ?_⟩
          simp only [step, Dispatching.exec]
          split <;> rfl
  | stamp done row published rest tally => exact .inl ⟨rfl, rfl⟩
  | write at_ writes result =>
      cases writes with
      | nil =>
          refine .inl ⟨?_, rfl⟩
          simp only [step]
          split <;> rfl
      | cons first rest =>
          left
          simp only [step]
          rcases Dispatching.exec_write first at_ state with ⟨_, ran⟩ | ⟨_, error, ran⟩
          · rw [ran]
            exact ⟨rfl, stored_sweepRunning⟩
          · rw [ran]
            exact ⟨rfl, rfl⟩
  | countFailed result =>
      refine .inl ⟨?_, rfl⟩
      simp only [step]
      split <;> rfl
  | close result => exact .inr (.inr ⟨rfl, rfl, rfl⟩)
  | answering result => exact .inl ⟨rfl, rfl⟩
  | ended result => exact .inl ⟨rfl, rfl⟩

end Steps

/-! ## Runs -/

/-- The rows are accountable, the flag counts the active sweeps, and every thread is
tidy. -/
structure Orderly (state : Dispatching) (points : List OutboxPoint) : Prop where
  accountable : state.store.Accountable
  holders : points.countP OutboxPoint.active = if state.store.sweepRunning then 1 else 0
  tidy : ∀ point ∈ points, point.Tidy state.store

section Runs

variable [Libraries] {outcome : Nat → Except String Unit} {state : Dispatching}
  {points : List OutboxPoint}

omit [Libraries] in
/-- At most one thread is active. -/
theorem Orderly.exclusive (orderly : Orderly state points) {first second : Nat}
    {one other : OutboxPoint} (present : points[first]? = some one)
    (also : points[second]? = some other) (active : one.active = true)
    (busy : other.active = true) : first = second := by
  apply index_eq_of_countP_le_one _ present also active busy
  rw [orderly.holders]
  split <;> decide

variable (outcome) in
/-- A step of one thread, seen by the others. -/
theorem OutboxPoint.step_tidy {point : OutboxPoint} (tidy : point.Tidy state.store)
    (accountable : state.store.Accountable) :
    (step outcome point state).2.Tidy (step outcome point state).1.store ∧
      state.store.Advances (step outcome point state).1.store point.ahead := by
  cases point with
  | unit point =>
      have stepped := UnitPoint.step_tidy outcome tidy accountable []
      exact ⟨stepped.1, stepped.2.1⟩
  | sweep point => exact SweepPoint.step_tidy outcome tidy accountable

/-- The flag counts the active sweeps after a step as before: a sweep takes it when it
starts and gives it back at each of its ends. -/
theorem Orderly.holders_step (orderly : Orderly state points) {index : Nat} {point : OutboxPoint}
    (present : points[index]? = some point) (tidy : point.Tidy state.store) :
    (points.set index (point.step outcome state).2).countP OutboxPoint.active =
      if (point.step outcome state).1.store.sweepRunning then 1 else 0 := by
  have before := orderly.holders
  have own : point.active = true → 0 < points.countP OutboxPoint.active := fun active =>
    List.countP_pos_iff.mpr ⟨point, List.mem_of_getElem? present, active⟩
  have replaced := countP_set_add OutboxPoint.active present (point.step outcome state).2
  have flagged : (point.step outcome state).2.active = point.active ∧
        (point.step outcome state).1.store.sweepRunning = state.store.sweepRunning ∨
      point.active = false ∧ state.store.sweepRunning = false ∧
        (point.step outcome state).2.active = true ∧
        (point.step outcome state).1.store.sweepRunning = true ∨
      point.active = true ∧ (point.step outcome state).2.active = false ∧
        (point.step outcome state).1.store.sweepRunning = false := by
    cases point with
    | unit point => exact .inl ⟨rfl, (UnitPoint.step_tidy outcome tidy orderly.accountable []).2.2⟩
    | sweep point => exact point.step_flag
  rcases flagged with ⟨active, running⟩ | ⟨idle, free, active, running⟩ | ⟨active, idle, running⟩
  · rw [running, ← before]
    rw [active] at replaced
    omega
  · rw [idle, active] at replaced
    rw [free] at before
    rw [running]
    simp only [Bool.false_eq_true, ↓reduceIte] at before replaced ⊢
    omega
  · have some := own active
    rw [active, idle] at replaced
    rw [running]
    have bound : points.countP OutboxPoint.active ≤ 1 := by
      rw [before]
      split <;> decide
    simp only [Bool.false_eq_true, ↓reduceIte] at replaced ⊢
    omega

/-- A step of one thread leaves all in order, since it touches only rows that are ahead of
itself. -/
theorem Orderly.step (orderly : Orderly state points) {index : Nat} {point : OutboxPoint}
    (present : points[index]? = some point) :
    Orderly (point.step outcome state).1 (points.set index (point.step outcome state).2) := by
  have tidy := orderly.tidy point (List.mem_of_getElem? present)
  obtain ⟨tidied, advances⟩ := OutboxPoint.step_tidy outcome tidy orderly.accountable
  refine ⟨advances.accountable, orderly.holders_step present tidy, ?_⟩
  intro other member
  obtain ⟨place, bound, rfl⟩ := List.mem_iff_getElem.mp member
  rw [List.getElem_set]
  split
  · exact tidied
  · rename_i differ
    rw [List.length_set] at bound
    apply (orderly.tidy _ (List.getElem_mem bound)).of_pending
    intro id ahead
    apply advances.pending
    intro also
    -- only an active thread has rows ahead, and there is one at most
    have active : ∀ point : OutboxPoint, id ∈ point.ahead → point.active = true := by
      intro point inside
      by_contra inactive
      rw [OutboxPoint.ahead_of_inactive (eq_false_of_ne_true inactive)] at inside
      cases inside
    exact differ (orderly.exclusive present (List.getElem?_eq_getElem bound) (active _ also)
      (active _ ahead))

omit [Libraries] in
/-- The environment keeps the sweeps orderly, unless it restarts the process, which resets
the flag. -/
theorem Orderly.environment (orderly : Orderly state points) {event : Backend.Event}
    (running : event ≠ .restart) :
    Orderly { state with store := Backend.environment event state.store } points := by
  have outbox : (Backend.environment event state.store).outbox = state.store.outbox := by
    cases event <;> rfl
  have flag : (Backend.environment event state.store).sweepRunning = state.store.sweepRunning := by
    cases event with
    | restart => exact (running rfl).elim
    | _ => rfl
  have advances := Backend.Advances.of_outbox orderly.accountable outbox []
  refine ⟨advances.accountable, ?_, ?_⟩
  · rw [flag]
    exact orderly.holders
  · intro point member
    exact (orderly.tidy point member).of_pending fun id _ =>
      advances.pending id List.not_mem_nil

omit [Libraries] in
/-- A new sweep keeps the sweeps orderly, as it starts outside the guarded part. -/
theorem Orderly.spawn (orderly : Orderly state points) (operation : OutboxOperation) :
    Orderly state (points ++ [.start operation]) := by
  refine ⟨orderly.accountable, ?_, ?_⟩
  · rw [List.countP_append, orderly.holders]
    cases operation <;> rfl
  · intro point member
    rcases List.mem_append.mp member with present | added
    · exact orderly.tidy point present
    · rw [List.mem_singleton.mp added]
      cases operation with
      | unit work => trivial
      | sweep => exact SweepPoint.Tidy.of_idle rfl rfl

/-- The steps of one process: no thread is stopped by itself, and the process is not
started again. -/
def OneProcess : OutboxLabel → OutboxPool → Prop
  | .crash _, _ => False
  | .environment event, _ => event ≠ .restart
  | _, _ => True

instance : ∀ label pool, Decidable (OneProcess label pool)
  | .crash _, _ => inferInstanceAs (Decidable False)
  | .environment event, _ => inferInstanceAs (Decidable (event ≠ .restart))
  | .spawn _, _ => inferInstanceAs (Decidable True)
  | .step _, _ => inferInstanceAs (Decidable True)

/-- What one step of the process does to the points. -/
theorem Orderly.moves (orderly : Orderly state points) {label : OutboxLabel} {pool : OutboxPool}
    (process : OneProcess label pool) {later : Dispatching} {moved : List OutboxPoint}
    (moves : (outboxControl outcome).Moves label state points later moved) :
    Orderly later moved := by
  cases moves with
  | spawn operation => exact orderly.spawn operation
  | step present => exact orderly.step present
  | idle => exact orderly
  | environment event => exact orderly.environment process

omit [Libraries] in
/-- Before anything is scheduled all is in order. -/
theorem Orderly.start (accountable : state.store.Accountable)
    (free : state.store.sweepRunning = false) : Orderly state [] := by
  refine ⟨accountable, ?_, fun _ none => nomatch none⟩
  rw [free]
  rfl

omit [Libraries] in
/-- In a run of one process no thread is stopped by itself. -/
theorem OneProcess.alive {label : OutboxLabel} {pool : OutboxPool}
    (process : OneProcess label pool) : label.Alive := by
  cases label with
  | crash index => exact process
  | _ => trivial

end Runs

end NestMonorepo
