import NestMonorepo.Database.ObjectIds
import NestMonorepo.Messaging.Dispatching
import NestMonorepo.Users.Service

/-! # Staging one event from many units of work

`stageOutboxEvent` looks its key up and leaves the insertion of a row to the caller's
flush. Units that stage one key therefore agree on who adds the row only if none looks
the key up while another, having found nothing, has not flushed.
-/

namespace NestMonorepo

open Collections Concurrency Handler UsersService

/-! ## What staging promises -/

/-- The flag `created` of a unit that returned. -/
def createdStatus : OutboxStatus → Bool
  | .returned (.staged result) => result.created
  | _ => false

/-- The unit returned, with the flag `created`. -/
def createdRow (thread : OutboxThread) : Bool := createdStatus thread.status

/-- No unit failed with a duplicate key, and once all have returned there is one row
under the key and one unit was told that it created it. -/
structure StagedOnce (key : String) (pool : OutboxPool) : Prop where
  unfailed : ∀ thread ∈ pool.threads, ∀ error, thread.status = .thrown (.mongo error) →
    error.code ≠ 11000
  once : pool.threads ≠ [] →
    (∀ thread ∈ pool.threads, ∃ result, thread.status = .returned (.staged result)) →
      pool.shared.store.outbox.countP (fun row => decide (row.idempotencyKey = key)) = 1 ∧
        pool.threads.countP createdRow = 1

/-- A domain write that violates no unique index by itself. -/
def MutatesCleanly (thread : OutboxThread) (store : Backend) : Prop :=
  match thread.pending with
  | some (.write write _) => write.Mutates → store.violation write = none
  | _ => True

/-- The steps of units of work that all stage the key; their domain mutations are none of
staging's business. -/
def Stages (key : String) : OutboxLabel → OutboxPool → Prop
  | .spawn (.unit work), _ => work.params.idempotencyKey = key
  | .spawn .sweep, _ => False
  | .crash _, _ => False
  | .step index, pool => ∀ thread ∈ pool.threads[index]?, MutatesCleanly thread pool.shared.store
  | .environment _, _ => True

/-- Every other unit has its lookup still before it or is over. -/
def OthersIdle (index : Nat) (pool : OutboxPool) : Prop :=
  ∀ place < pool.threads.length, place ≠ index → ∀ other ∈ pool.threads[place]?,
    other.pending.isNone ∨ (lookup other).isSome

/-- A unit looks the key up when its row is stored, or while the others are idle. -/
def LooksUpApart : OutboxLabel → OutboxPool → Prop
  | .step index, pool => ∀ thread ∈ pool.threads[index]?, ∀ key ∈ lookup thread,
      (fetch OutboxEvent.idempotencyKey key pool.shared.store.outbox).isSome ∨
        OthersIdle index pool
  | _, _ => True

/-! ## Rows and insertions -/

/-- The rows under a key. -/
def Backend.rowsUnder (key : String) (store : Backend) : Nat :=
  store.outbox.countP fun row => decide (row.idempotencyKey = key)

/-- The id was drawn and no row has it. -/
def Backend.Unused (store : Backend) (id : ObjectId) : Prop :=
  id < store.nextObjectId ∧ fetch OutboxEvent.id id store.outbox = none

/-- The ids of the rows have all been drawn. -/
def Backend.RowsDrawn (store : Backend) : Prop := ∀ row ∈ store.outbox, row.id < store.nextObjectId

/-- The rows that writes insert. -/
def insertions (writes : List Write) : List OutboxEvent :=
  writes.filterMap fun
    | .insertOutbox row => some row
    | _ => none

/-- The writes a unit has still to make insert nothing, or the one row it created. -/
def Inserts (key : String) (store : Backend) (writes : List Write) (result : StageOutboxResult) :
    Prop :=
  insertions writes = [] ∨ ∃ row, insertions writes = [row] ∧ row.idempotencyKey = key ∧
    store.Unused row.id ∧ result.created = true

namespace UnitPoint

/-- The unit has found no row and not yet inserted its own. -/
def drafts : UnitPoint → Bool
  | .drawId _ | .create _ _ => true
  | .flush work result => !(insertions (flushed work result)).isEmpty
  | .write _ writes _ => !(insertions writes).isEmpty
  | _ => false

/-- The unit is to be told, or was, that it created the row. -/
def claims : UnitPoint → Bool
  | .drawId _ | .create _ _ => true
  | .flush _ result | .write _ _ result | .ended (.ok result) => result.created
  | _ => false

def failed : UnitPoint → Bool
  | .answering (.error _) | .ended (.error _) => true
  | _ => false

/-- The unit has looked the key up. -/
def informed : UnitPoint → Bool
  | .lookup _ => false
  | _ => true

/-- What holds of a unit that stages the key. -/
def Valid (key : String) (store : Backend) : UnitPoint → Prop
  | .lookup work | .drawId work => work.params.idempotencyKey = key
  | .create work id => work.params.idempotencyKey = key ∧ store.Unused id
  | .flush work result => Inserts key store (flushed work result) result
  | .write _ writes result => Inserts key store writes result
  | .answering (.error error) | .ended (.error error) => error = .mongo unavailableError
  | .answering (.ok _) => False
  | .ended (.ok _) => True

end UnitPoint

section Insertions

variable {key : String} {store later : Backend} {writes : List Write}
  {result : StageOutboxResult}

/-- The rows that two lists of writes insert are inserted one list after the other. -/
theorem insertions_append (first second : List Write) :
    insertions (first ++ second) = insertions first ++ insertions second :=
  List.filterMap_append

/-- Domain writes insert no outbox row. -/
theorem insertions_of_mutates (mutates : ∀ write ∈ writes, write.Mutates) :
    insertions writes = [] := by
  apply List.filterMap_eq_nil_iff.mpr
  intro write member
  have domain := mutates write member
  cases write with
  | insertOutbox row => exact domain.elim
  | _ => rfl

/-- The domain writes of a unit insert no row. -/
theorem insertions_flushed (work : UnitOfWork) (result : StageOutboxResult) :
    insertions (UnitPoint.flushed work result) = insertions result.writes := by
  have before : insertions work.before = [] := insertions_of_mutates fun write member =>
    work.mutates write (List.mem_append_left _ member)
  have after : insertions work.after = [] := insertions_of_mutates fun write member =>
    work.mutates write (List.mem_append_right _ member)
  rw [UnitPoint.flushed, insertions_append, insertions_append, before, after, List.nil_append,
    List.append_nil]

/-- Reviving an event rewrites its row and inserts none. -/
theorem insertions_revive (params : StageOutboxParams) (existing : OutboxEvent) :
    insertions (params.revive existing).writes = [] := by
  apply List.filterMap_eq_nil_iff.mpr
  intro write member
  unfold StageOutboxParams.revive at member
  split at member
  · rw [OutboxEvent.mem_update member]
  · cases member

/-- No row is stored under a key exactly when a lookup by it finds nothing. -/
theorem rowsUnder_eq_zero : store.rowsUnder key = 0 ↔
    fetch OutboxEvent.idempotencyKey key store.outbox = none := by
  rw [Backend.rowsUnder, List.countP_eq_zero, fetch_eq_none]
  simp only [decide_eq_true_eq, ne_eq]

/-- Updates in place keep the number of rows under the key. -/
theorem rowsUnder_update (id : ObjectId) (changes : OutboxChanges) (at_ : Millis) :
    (store.stored at_ (.updateOutbox id changes)).rowsUnder key = store.rowsUnder key := by
  unfold Backend.rowsUnder
  change (modifyAt OutboxEvent.id id _ store.outbox).countP _ = _
  rw [modifyAt, List.countP_map]
  congr 1
  funext row
  simp only [Function.comp_apply]
  split <;> rfl

/-- Where the rows stay, what is known of them and of unused ids stays. -/
theorem Backend.RowsDrawn.of_outbox (drawn : store.RowsDrawn) (outbox : later.outbox = store.outbox)
    (ids : store.nextObjectId ≤ later.nextObjectId) : later.RowsDrawn := by
  intro row member
  rw [outbox] at member
  exact Nat.lt_of_lt_of_le (drawn row member) ids

/-- An unused id stays unused while the outbox stays as it is and the ids drawn only grow. -/
theorem Backend.Unused.of_outbox {id : ObjectId} (unused : store.Unused id)
    (outbox : later.outbox = store.outbox) (ids : store.nextObjectId ≤ later.nextObjectId) :
    later.Unused id := by
  refine ⟨Nat.lt_of_lt_of_le unused.1 ids, ?_⟩
  rw [outbox]
  exact unused.2

/-- The next id is not that of a row. -/
theorem Backend.RowsDrawn.fresh (drawn : store.RowsDrawn) :
    fetch OutboxEvent.id store.nextObjectId store.outbox = none := by
  rw [fetch_eq_none]
  exact fun row member => Nat.ne_of_lt (drawn row member)

/-- A domain write leaves the outbox alone and draws no id. -/
theorem stored_outbox_of_mutates (store : Backend) {write : Write} (mutates : write.Mutates)
    (at_ : Millis) :
    (store.stored at_ write).outbox = store.outbox ∧
      (store.stored at_ write).nextObjectId = store.nextObjectId := by
  cases write with
  | insertOutbox row => exact mutates.elim
  | updateOutbox id changes => exact mutates.elim
  | _ => exact ⟨rfl, rfl⟩

end Insertions

/-! ## One step of a unit -/

namespace UnitPoint

/-- What one step of a unit means for the key. -/
inductive Progress (key : String) (before : UnitPoint) (store : Backend) (after : UnitPoint)
    (later : Backend) : Prop
  | fails : after.failed = true → after.drafts = false →
      later.rowsUnder key = store.rowsUnder key → Progress key before store after later
  | finds : before.informed = false → before.drafts = false → before.claims = false →
      store.rowsUnder key = 0 → later.rowsUnder key = 0 → after.drafts = true →
        after.claims = true → Progress key before store after later
  | inserts : before.drafts = true → after.drafts = false → after.claims = before.claims →
      later.rowsUnder key = store.rowsUnder key + 1 → Progress key before store after later
  | goes : later.rowsUnder key = store.rowsUnder key → after.drafts = before.drafts →
      after.claims = before.claims →
        (after.informed = true → before.informed = true ∨ 0 < store.rowsUnder key) →
          Progress key before store after later

variable {key : String} {store later : Backend} {point : UnitPoint}

/-- What holds of a unit that drafts no row does not depend on the store. -/
theorem Valid.of_not_drafts (valid : point.Valid key store) (idle : point.drafts = false) :
    point.Valid key later := by
  have none : ∀ {writes : List Write} {result : StageOutboxResult},
      (!(insertions writes).isEmpty) = false → Inserts key later writes result := by
    intro writes result idle
    left
    simpa using idle
  cases point with
  | lookup work => exact valid
  | drawId work => cases idle
  | create work id => cases idle
  | flush work result => exact none idle
  | write at_ writes result => exact none idle
  | answering outcome => cases outcome <;> exact valid
  | ended outcome => cases outcome <;> exact valid

/-- What holds of a unit depends on the store only through the ids that are unused in it. -/
theorem Valid.of_unused (valid : point.Valid key store)
    (unused : ∀ id, store.Unused id → later.Unused id) : point.Valid key later := by
  have still : ∀ {writes : List Write} {result : StageOutboxResult},
      Inserts key store writes result → Inserts key later writes result := by
    rintro writes result (none | ⟨row, single, keyed, fresh, created⟩)
    · exact .inl none
    · exact .inr ⟨row, single, keyed, unused row.id fresh, created⟩
  cases point with
  | lookup work => exact valid
  | drawId work => exact valid
  | create work id => exact ⟨valid.1, unused id valid.2⟩
  | flush work result => exact still valid
  | write at_ writes result => exact still valid
  | answering outcome => cases outcome <;> exact valid
  | ended outcome => cases outcome <;> exact valid

/-- A point that drafts an event has already looked its key up. -/
theorem informed_of_drafts (drafts : point.drafts = true) : point.informed = true := by
  cases point with
  | lookup work => cases drafts
  | _ => rfl

/-- A unit that drafts a row is neither before its lookup nor over. -/
theorem command_of_drafts (drafts : point.drafts = true) :
    ∃ command, point.command = some command ∧ ∀ key, command ≠ .findOutboxEvent key := by
  cases point with
  | drawId work => exact ⟨_, rfl, fun _ => nofun⟩
  | create work id => exact ⟨_, rfl, fun _ => nofun⟩
  | flush work result => exact ⟨_, rfl, fun _ => nofun⟩
  | write at_ writes result =>
      cases writes with
      | nil => cases drafts
      | cons first rest => exact ⟨_, rfl, fun _ => nofun⟩
  | _ => cases drafts

/-- A unit that returned stands at the end, with its result. -/
theorem ended_of_returned {answer : OutboxAnswer}
    (returned : point.status = .returned answer) :
    ∃ result, point = .ended (.ok result) ∧ answer = .staged result := by
  cases point with
  | answering outcome => cases outcome <;> cases returned
  | ended outcome =>
      cases outcome with
      | ok result =>
          injection returned with same
          exact ⟨result, rfl, same.symm⟩
      | error error => cases returned
  | _ => cases returned

/-- A unit that failed did so because the database was down. -/
theorem Valid.error_of_thrown {error : ServiceError} (valid : point.Valid key store)
    (thrown : point.status = .thrown error) : error = .mongo unavailableError := by
  cases point with
  | answering outcome => cases outcome <;> cases thrown
  | ended outcome =>
      cases outcome with
      | ok result => cases thrown
      | error ended =>
          injection thrown with same
          rw [← same]
          exact valid
  | _ => cases thrown

/-- The writes of a unit violate no index, as long as it drafts a row only where none is
stored. -/
theorem violation_eq_none {at_ : Millis} {first : Write} {rest : List Write}
    {result : StageOutboxResult} {store : Backend}
    (valid : (write at_ (first :: rest) result).Valid key store)
    (alone : (write at_ (first :: rest) result).drafts = true → store.rowsUnder key = 0)
    (clean : first.Mutates → store.violation first = none) : store.violation first = none := by
  cases first with
  | insertOutbox row =>
      rcases valid with none | ⟨created, single, keyed, unused, _⟩
      · cases none
      · have same : row = created := by
          change row :: insertions rest = [created] at single
          injection single
        rw [same]
        have free := rowsUnder_eq_zero.mp (alone rfl)
        rw [← keyed] at free
        simp only [Backend.violation, unused.2, free, Option.isSome_none, Bool.false_eq_true,
          ↓reduceIte]
  | updateOutbox id changes => rfl
  | insertUser user => exact clean trivial
  | insertDevice device => exact clean trivial
  | updateUser id changes => exact clean trivial
  | updateDevice id changes => exact clean trivial

/-- What a stored write of a unit means for the key. The cases are the kinds of writes, and
among the inserted rows the one that the unit has created. -/
theorem stored_staging {at_ : Millis} {first : Write} {rest : List Write}
    {result : StageOutboxResult} {store : Backend}
    (valid : (write at_ (first :: rest) result).Valid key store) (drawn : store.RowsDrawn) :
    (write at_ rest result).Valid key (store.stored at_ first) ∧
      (store.stored at_ first).RowsDrawn ∧
      Progress key (write at_ (first :: rest) result) store (write at_ rest result)
        (store.stored at_ first) ∧
      ((write at_ (first :: rest) result).drafts = false → ∀ id, store.Unused id →
        (store.stored at_ first).Unused id) := by
  have domain : first.Mutates → (write at_ rest result).Valid key (store.stored at_ first) ∧
      (store.stored at_ first).RowsDrawn ∧
      Progress key (write at_ (first :: rest) result) store (write at_ rest result)
        (store.stored at_ first) ∧
      ((write at_ (first :: rest) result).drafts = false → ∀ id, store.Unused id →
        (store.stored at_ first).Unused id) := by
    intro mutates
    obtain ⟨outbox, ids⟩ := stored_outbox_of_mutates store mutates at_
    have same : insertions (first :: rest) = insertions rest := by
      have none : insertions [first] = [] := insertions_of_mutates fun other member =>
        List.mem_singleton.mp member ▸ mutates
      rw [← List.singleton_append, insertions_append, none, List.nil_append]
    have unused : ∀ id, store.Unused id → (store.stored at_ first).Unused id :=
      fun id unused => unused.of_outbox outbox (Nat.le_of_eq ids.symm)
    refine ⟨?_, drawn.of_outbox outbox (Nat.le_of_eq ids.symm), .goes ?_ ?_ rfl fun _ => .inl rfl,
      fun _ => unused⟩
    · apply Valid.of_unused _ unused
      change Inserts key store (first :: rest) result at valid
      change Inserts key store rest result
      unfold Inserts at valid ⊢
      rwa [same] at valid
    · rw [Backend.rowsUnder, outbox]
      rfl
    · rw [drafts, drafts, same]
  cases first with
  | insertOutbox row =>
      rcases valid with none | ⟨created, single, keyed, unused, claimed⟩
      · cases none
      · injection single with same spent
        subst same
        have spent : insertions rest = [] := spent
        refine ⟨.inl spent, ?_, .inserts rfl ?_ rfl ?_, nofun⟩
        · intro other member
          rcases List.mem_append.mp member with present | added
          · exact drawn other present
          · rw [List.mem_singleton.mp added]
            exact unused.1
        · rw [drafts, spent]
          rfl
        · unfold Backend.rowsUnder
          change (store.outbox ++ [_]).countP _ = _
          rw [List.countP_append, List.countP_singleton, if_pos (decide_eq_true keyed)]
  | updateOutbox id changes =>
      have unused : ∀ other, store.Unused other →
          (store.stored at_ (.updateOutbox id changes)).Unused other := by
        rintro other ⟨below, none⟩
        refine ⟨below, ?_⟩
        change fetch OutboxEvent.id other (modifyAt OutboxEvent.id id _ store.outbox) = _
        rw [fetch_modifyAt_of_key fun row => row.apply_id changes at_, none, Option.map_none]
      refine ⟨Valid.of_unused valid unused, ?_, .goes (rowsUnder_update id changes at_) rfl rfl
        fun _ => .inl rfl, fun _ => unused⟩
      intro row member
      rcases mem_modifyAt member with ⟨present, _⟩ | ⟨old, present, _, rfl⟩
      · exact drawn row present
      · exact drawn old present
  | insertUser user => exact domain trivial
  | insertDevice device => exact domain trivial
  | updateUser id changes => exact domain trivial
  | updateDevice id changes => exact domain trivial

section Step

variable [Libraries] {outcome : Nat → Except String Unit} {state : Dispatching}

variable (outcome) in
/-- A unit that has failed stays so. -/
theorem failed_step (failed : point.failed = true) :
    (step outcome point state).2.failed = true := by
  cases point with
  | answering result | ended result =>
      cases result with
      | ok result => exact absurd failed Bool.false_ne_true
      | error error => rfl
  | _ => exact absurd failed Bool.false_ne_true

variable (outcome) in
/-- A step of a unit keeps what holds of it, as long as it drafts a row only where none is
stored. The cases are the unit's points. -/
theorem step_staging (valid : point.Valid key state.store) (drawn : state.store.RowsDrawn)
    (alone : point.drafts = true → state.store.rowsUnder key = 0)
    (clean : ∀ write at_, point.command = some (.write write at_) → write.Mutates →
      state.store.violation write = none) :
    (step outcome point state).2.Valid key (step outcome point state).1.store ∧
      (step outcome point state).1.store.RowsDrawn ∧
      Progress key point state.store (step outcome point state).2
        (step outcome point state).1.store ∧
      (point.drafts = false → ∀ id, state.store.Unused id →
        (step outcome point state).1.store.Unused id) := by
  cases point with
  | lookup work =>
      simp only [step]
      cases up : state.store.databaseUp with
      | false =>
          simp only [Dispatching.exec, Backend.exec, Backend.answer, up, Bool.false_eq_true,
            ↓reduceIte]
          exact ⟨rfl, drawn, .fails rfl rfl rfl, fun _ _ unused => unused⟩
      | true =>
          simp only [Dispatching.exec, Backend.exec, Backend.answer, up, ↓reduceIte]
          cases found : fetch OutboxEvent.idempotencyKey work.params.idempotencyKey
              state.store.outbox with
          | none =>
              have free : state.store.rowsUnder key = 0 := by
                rw [rowsUnder_eq_zero, ← valid]
                exact found
              exact ⟨valid, drawn, .finds rfl rfl rfl free free rfl rfl,
                fun _ _ unused => unused⟩
          | some existing =>
              have stored : 0 < state.store.rowsUnder key := by
                apply Nat.pos_of_ne_zero
                rw [ne_eq, rowsUnder_eq_zero, ← valid, found]
                exact Option.some_ne_none existing
              refine ⟨.inl ?_, drawn, .goes rfl ?_ ?_ fun _ => .inr stored,
                fun _ _ unused => unused⟩
              · rw [insertions_flushed, insertions_revive]
              · rw [drafts, insertions_flushed, insertions_revive]
                rfl
              · change (work.params.revive existing).created = false
                unfold StageOutboxParams.revive
                split <;> rfl
  | drawId work =>
      refine ⟨⟨valid, Nat.lt_succ_self _, drawn.fresh⟩, drawn.of_outbox rfl (Nat.le_succ _),
        .goes rfl rfl rfl fun _ => .inl rfl,
          fun draws => absurd draws Bool.true_eq_false.mp⟩
  | create work id =>
      refine ⟨.inr ⟨work.params.row id state.store.clock, ?_, valid.1, valid.2, rfl⟩, drawn,
        .goes rfl ?_ rfl fun _ => .inl rfl,
          fun draws => absurd draws Bool.true_eq_false.mp⟩
      · rw [insertions_flushed]
        rfl
      · simp only [step, drafts, insertions_flushed]
        rfl
  | flush work result =>
      exact ⟨valid, drawn, .goes rfl rfl rfl fun _ => .inl rfl, fun _ _ unused => unused⟩
  | write at_ writes result =>
      cases writes with
      | nil =>
          exact ⟨trivial, drawn, .goes rfl rfl rfl fun _ => .inl rfl,
            fun _ _ unused => unused⟩
      | cons first rest =>
          have free := violation_eq_none valid alone (clean first at_ rfl)
          simp only [step]
          cases up : state.store.databaseUp with
          | true =>
              rcases Dispatching.exec_write first at_ state with ⟨_, ran⟩ | ⟨refused, _⟩
              · rw [ran]
                obtain ⟨valid, drawn, progress, unused⟩ := stored_staging valid drawn
                exact ⟨valid, drawn, progress, unused⟩
              · exact (refused ⟨up, free⟩).elim
          | false =>
              have ran : Dispatching.exec outcome (.write first at_) state =
                  (state, .error unavailableError) := by
                simp only [Dispatching.exec, Backend.exec, up, Bool.false_eq_true, ↓reduceIte]
              rw [ran]
              exact ⟨rfl, drawn, .fails rfl rfl rfl, fun _ _ unused => unused⟩
  | answering result =>
      cases result with
      | ok result => exact valid.elim
      | error error =>
          exact ⟨valid, drawn, .fails rfl rfl rfl, fun _ _ unused => unused⟩
  | ended result =>
      cases result with
      | ok result =>
          exact ⟨valid, drawn, .goes rfl rfl rfl fun _ => .inl rfl,
            fun _ _ unused => unused⟩
      | error error =>
          exact ⟨valid, drawn, .fails rfl rfl rfl, fun _ _ unused => unused⟩

end Step

end UnitPoint

/-! ## All units -/

namespace OutboxPoint

def drafts : OutboxPoint → Bool
  | .unit point => point.drafts
  | .sweep _ => false

def claims : OutboxPoint → Bool
  | .unit point => point.claims
  | .sweep _ => false

def failed : OutboxPoint → Bool
  | .unit point => point.failed
  | .sweep _ => false

def informed : OutboxPoint → Bool
  | .unit point => point.informed
  | .sweep _ => false

end OutboxPoint

/-- The rows stored under the key and those that units are drafting: one at most, and as
many as units claim to create unless one has failed; once a unit has looked the key up
there is one. -/
structure StagingApart (key : String) (state : Dispatching) (points : List OutboxPoint) :
    Prop where
  units : ∀ point ∈ points, ∃ unit, point = .unit unit ∧ unit.Valid key state.store
  drawn : state.store.RowsDrawn
  single : state.store.rowsUnder key + points.countP OutboxPoint.drafts ≤ 1
  sound : (∃ point ∈ points, point.failed = true) ∨
    (points.countP OutboxPoint.claims =
        state.store.rowsUnder key + points.countP OutboxPoint.drafts ∧
      ∀ point ∈ points, point.informed = true →
        state.store.rowsUnder key + points.countP OutboxPoint.drafts = 1)

namespace StagingApart

variable [Libraries] {outcome : Nat → Except String Unit} {key : String} {state : Dispatching}
  {points : List OutboxPoint}

/-- A step of one unit keeps the staging apart, where the unit looks the key up only while
no row is being drafted. What the step makes of the counts decides the rest. -/
theorem step (apart : StagingApart key state points) {index : Nat} {unit : UnitPoint}
    (present : points[index]? = some (.unit unit))
    (clean : ∀ write at_, unit.command = some (.write write at_) → write.Mutates →
      state.store.violation write = none)
    (looks : unit.informed = false → state.store.rowsUnder key = 0 →
      points.countP OutboxPoint.drafts = 0) :
    StagingApart key (unit.step outcome state).1
      (points.set index (.unit (unit.step outcome state).2)) := by
  have member := List.mem_of_getElem? present
  have bound := (List.getElem?_eq_some_iff.mp present).1
  obtain ⟨_, same, valid⟩ := apart.units _ member
  cases same
  have drafted : (points.set index (.unit (unit.step outcome state).2)).countP
      OutboxPoint.drafts + (if unit.drafts then 1 else 0) = points.countP OutboxPoint.drafts +
        if (unit.step outcome state).2.drafts then 1 else 0 :=
    countP_set_add OutboxPoint.drafts present (.unit (unit.step outcome state).2)
  have claimed : (points.set index (.unit (unit.step outcome state).2)).countP
      OutboxPoint.claims + (if unit.claims then 1 else 0) = points.countP OutboxPoint.claims +
        if (unit.step outcome state).2.claims then 1 else 0 :=
    countP_set_add OutboxPoint.claims present (.unit (unit.step outcome state).2)
  have single := apart.single
  have own : unit.drafts = true → 0 < points.countP OutboxPoint.drafts := fun drafts =>
    List.countP_pos_iff.mpr ⟨_, member, drafts⟩
  obtain ⟨stepped, drawn, progress, unused⟩ := unit.step_staging outcome valid
    apart.drawn (fun drafts => by have some := own drafts; omega) clean
  refine ⟨?_, drawn, ?_, ?_⟩
  · intro point among
    obtain ⟨place, inside, rfl⟩ := List.mem_iff_getElem.mp among
    rw [List.getElem_set]
    split
    · exact ⟨_, rfl, stepped⟩
    · rename_i differ
      rw [List.length_set] at inside
      obtain ⟨other, named, holds⟩ := apart.units _ (List.getElem_mem inside)
      refine ⟨other, named, ?_⟩
      cases drafts : unit.drafts with
      | false => exact holds.of_unused (unused drafts)
      | true =>
          -- the only unit with a row in hand is the one that steps
          apply holds.of_not_drafts
          by_contra also
          have single : points.countP OutboxPoint.drafts ≤ 1 := by omega
          refine differ (index_eq_of_countP_le_one single present
            (List.getElem?_eq_getElem inside) drafts ?_)
          rw [named]
          exact eq_true_of_ne_false also
  · cases progress with
    | fails _ idle rows =>
        rw [idle] at drafted
        rw [rows]
        simp only [Bool.false_eq_true, ↓reduceIte] at drafted
        omega
    | finds fresh idle _ free still drafts _ =>
        rw [idle, drafts, looks fresh free] at drafted
        rw [still]
        simp only [Bool.false_eq_true, ↓reduceIte] at drafted
        omega
    | inserts drafts idle _ rows =>
        have some := own drafts
        rw [drafts, idle] at drafted
        rw [rows]
        simp only [Bool.false_eq_true, ↓reduceIte] at drafted
        omega
    | goes rows drafts _ _ =>
        rw [drafts] at drafted
        rw [rows]
        omega
  · rcases apart.sound with ⟨failing, among, failed⟩ | ⟨claims, informed⟩
    · left
      obtain ⟨place, there⟩ := List.mem_iff_getElem?.mp among
      by_cases same : index = place
      · subst same
        rw [present] at there
        cases there
        exact ⟨_, List.mem_of_getElem? (List.getElem?_set_self bound),
          unit.failed_step outcome failed⟩
      · refine ⟨failing, List.mem_of_getElem? (i := place) ?_, failed⟩
        rw [List.getElem?_set_ne same]
        exact there
    · cases progress with
      | fails failed _ _ =>
          exact .inl ⟨_, List.mem_of_getElem? (List.getElem?_set_self bound), failed⟩
      | finds fresh idle unclaimed free still drafts claimant =>
          right
          rw [idle, drafts] at drafted
          rw [unclaimed, claimant] at claimed
          rw [looks fresh free] at drafted claims
          rw [still]
          simp only [Bool.false_eq_true, ↓reduceIte] at drafted claimed
          exact ⟨by omega, fun _ _ _ => by omega⟩
      | inserts drafts idle same rows =>
          right
          have one := informed _ member (UnitPoint.informed_of_drafts drafts)
          rw [drafts, idle] at drafted
          rw [same] at claimed
          rw [rows]
          simp only [Bool.false_eq_true, ↓reduceIte] at drafted
          exact ⟨by omega, fun _ _ _ => by omega⟩
      | goes rows drafts same informs =>
          right
          rw [drafts] at drafted
          rw [same] at claimed
          rw [rows]
          refine ⟨by omega, fun point among knows => ?_⟩
          have one : state.store.rowsUnder key + points.countP OutboxPoint.drafts = 1 := by
            rcases List.mem_or_eq_of_mem_set among with old | rfl
            · exact informed point old knows
            · rcases informs knows with before | stored
              · exact informed _ member before
              · omega
          omega

omit [Libraries] in
/-- A new unit of work starts at its lookup, so it drafts and claims nothing yet and the
counts stay as they are. -/
theorem spawn (apart : StagingApart key state points) {work : UnitOfWork}
    (keyed : work.params.idempotencyKey = key) :
    StagingApart key state (points ++ [OutboxPoint.unit (.lookup work)]) := by
  have drafts : (points ++ [OutboxPoint.unit (.lookup work)]).countP OutboxPoint.drafts =
      points.countP OutboxPoint.drafts := by
    rw [List.countP_append]
    rfl
  have claims : (points ++ [OutboxPoint.unit (.lookup work)]).countP OutboxPoint.claims =
      points.countP OutboxPoint.claims := by
    rw [List.countP_append]
    rfl
  refine ⟨?_, apart.drawn, drafts ▸ apart.single, ?_⟩
  · intro point member
    rcases List.mem_append.mp member with present | added
    · exact apart.units point present
    · exact ⟨_, List.mem_singleton.mp added, keyed⟩
  · rw [drafts, claims]
    rcases apart.sound with ⟨failing, among, failed⟩ | ⟨same, informed⟩
    · exact .inl ⟨failing, List.mem_append_left _ among, failed⟩
    · refine .inr ⟨same, fun point member knows => ?_⟩
      rcases List.mem_append.mp member with present | added
      · exact informed point present knows
      · rw [List.mem_singleton.mp added] at knows
        cases knows

omit [Libraries] in
/-- The environment neither stages nor loses an event. -/
theorem environment (apart : StagingApart key state points) (event : Backend.Event) :
    StagingApart key { state with store := Backend.environment event state.store } points := by
  have outbox : (Backend.environment event state.store).outbox = state.store.outbox := by
    cases event <;> rfl
  have ids : (Backend.environment event state.store).nextObjectId =
      state.store.nextObjectId := by
    cases event <;> rfl
  have rows : (Backend.environment event state.store).rowsUnder key =
      state.store.rowsUnder key := by
    rw [Backend.rowsUnder, outbox]
    rfl
  refine ⟨?_, apart.drawn.of_outbox outbox (Nat.le_of_eq ids.symm), ?_, ?_⟩
  · intro point member
    obtain ⟨unit, named, valid⟩ := apart.units point member
    exact ⟨unit, named, valid.of_unused fun id unused =>
      unused.of_outbox outbox (Nat.le_of_eq ids.symm)⟩
  · rw [rows]
    exact apart.single
  · rw [rows]
    exact apart.sound

/-- A unit about to look the key up meets no unit that drafts its row, since the others are
idle or the row is stored. -/
theorem no_drafts {pool : OutboxPool} (apart : StagingApart key pool.shared points)
    (tracks : (outboxControl outcome).Tracks points pool) {index : Nat} {work : UnitOfWork}
    (present : points[index]? = some (.unit (.lookup work)))
    (looks : LooksUpApart (.step index) pool)
    (free : pool.shared.store.rowsUnder key = 0) : points.countP OutboxPoint.drafts = 0 := by
  obtain ⟨unit, same, keyed⟩ := apart.units _ (List.mem_of_getElem? present)
  cases same
  change work.params.idempotencyKey = key at keyed
  obtain ⟨thread, there, pending, _⟩ := thread_of_point tracks present
  have looked : key ∈ lookup thread := by
    have performs : thread.pending = some (.findOutboxEvent work.params.idempotencyKey) := pending
    rw [lookup, performs, keyed]
    rfl
  have others := looks thread there key looked
  rw [rowsUnder_eq_zero.mp free] at others
  rw [List.countP_eq_zero]
  intro point member drafts
  obtain ⟨place, found⟩ := List.mem_iff_getElem?.mp member
  obtain ⟨other, around, waits, _⟩ := thread_of_point tracks found
  by_cases same : place = index
  · rw [same, present] at found
    cases found
    cases drafts
  · cases point with
    | sweep point => cases drafts
    | unit point =>
        obtain ⟨command, performs, differs⟩ := UnitPoint.command_of_drafts drafts
        have issues : other.pending = some command := waits.trans performs
        rcases others with stored | apart
        · cases stored
        · rcases apart place (List.getElem?_eq_some_iff.mp around).1 same other around with
            idle | looks
          · rw [issues] at idle
            cases idle
          · rw [lookup, issues] at looks
            cases command with
            | findOutboxEvent key => exact differs key rfl
            | _ => cases looks

/-- One step of the whole pool of units that look their key up apart: what steps is a unit,
a new one or the environment. -/
theorem moves {pool : OutboxPool} (apart : StagingApart key pool.shared points)
    (tracks : (outboxControl outcome).Tracks points pool) {label : OutboxLabel}
    (stages : Stages key label pool) (looks : LooksUpApart label pool) {later : Dispatching}
    {moved : List OutboxPoint}
    (moves : (outboxControl outcome).Moves label pool.shared points later moved) :
    StagingApart key later moved := by
  cases moves with
  | spawn operation =>
      cases operation with
      | unit work => exact apart.spawn stages
      | sweep => exact stages.elim
  | @step index point _ _ present =>
      obtain ⟨unit, rfl, valid⟩ := apart.units _ (List.mem_of_getElem? present)
      obtain ⟨thread, there, pending, _⟩ := thread_of_point tracks present
      apply apart.step present
      · intro write at_ performs mutates
        have clean := stages thread there
        have issues : thread.pending = some (.write write at_) := pending.trans performs
        rw [MutatesCleanly, issues] at clean
        exact clean mutates
      · intro uninformed free
        cases unit with
        | lookup work => exact apart.no_drafts tracks present looks free
        | _ => cases uninformed
  | idle => exact apart
  | environment event => exact apart.environment event

end StagingApart

section Runs

variable [Libraries] {outcome : Nat → Except String Unit} {key : String} {pool : OutboxPool}
  {points : List OutboxPoint}

/-- Units whose points are in order keep what staging promises: the counts of rows and
claims say that one row is stored and one unit was told. -/
theorem StagingApart.stagedOnce (apart : StagingApart key pool.shared points)
    (tracks : (outboxControl outcome).Tracks points pool) : StagedOnce key pool := by
  constructor
  · intro thread member error thrown
    obtain ⟨index, present⟩ := List.mem_iff_getElem?.mp member
    obtain ⟨point, there, stands, _⟩ := tracks.point present
    obtain ⟨unit, rfl, valid⟩ := apart.units point (List.mem_of_getElem? there)
    have failed := valid.error_of_thrown (stands.symm.trans thrown)
    injection failed with same
    rw [same]
    decide
  · intro some returned
    have ended : ∀ point ∈ points, ∃ result, point = .unit (.ended (.ok result)) := by
      intro point member
      obtain ⟨index, there⟩ := List.mem_iff_getElem?.mp member
      obtain ⟨thread, present, stands, _⟩ := tracks.thread there
      obtain ⟨unit, rfl, _⟩ := apart.units point member
      obtain ⟨result, status⟩ := returned thread (List.mem_of_getElem? present)
      obtain ⟨result, rfl, _⟩ := UnitPoint.ended_of_returned (stands.symm.trans status)
      exact ⟨result, rfl⟩
    have drafts : points.countP OutboxPoint.drafts = 0 := by
      rw [List.countP_eq_zero]
      intro point member
      obtain ⟨result, rfl⟩ := ended point member
      exact nofun
    have created : pool.threads.countP createdRow = points.countP OutboxPoint.claims := by
      refine (tracks.countP createdStatus).trans (List.countP_congr fun point member => ?_)
      obtain ⟨result, rfl⟩ := ended point member
      exact Iff.rfl
    obtain ⟨thread, member⟩ := List.exists_mem_of_ne_nil _ some
    obtain ⟨index, present⟩ := List.mem_iff_getElem?.mp member
    obtain ⟨point, there, _⟩ := tracks.point present
    have among := List.mem_of_getElem? there
    rcases apart.sound with ⟨other, member, failed⟩ | ⟨claims, informed⟩
    · obtain ⟨result, rfl⟩ := ended other member
      cases failed
    · have one := informed point among (by
        obtain ⟨result, rfl⟩ := ended point among
        rfl)
      rw [drafts] at one claims
      exact ⟨one, created.trans (claims.trans one)⟩

variable (outcome) in
/-- Staging keeps its promise in all runs of units for the key whose steps are allowed. -/
def StagesOnce (key : String) (allowed : OutboxLabel → OutboxPool → Prop)
    (start : Dispatching) : Prop :=
  ∀ pool, (outboxService outcome).Reaches (fun label pool => Stages key label pool ∧
    allowed label pool) ⟨start, []⟩ pool → StagedOnce key pool

/-- Units of work stage their key once when each of them looks it up either with its row
already stored or while the others are idle, however the rest of the run is interleaved. -/
theorem stagesOnce_of_apart {start : Dispatching}
    (absent : fetch OutboxEvent.idempotencyKey key start.store.outbox = none)
    (drawn : start.store.RowsDrawn) : StagesOnce outcome key LooksUpApart start := by
  intro pool reached
  have initial : ∃ points, (outboxControl outcome).Tracks points ⟨start, []⟩ ∧
      StagingApart key start points := by
    have free := rowsUnder_eq_zero.mpr absent
    refine ⟨[], rfl, ?_⟩
    constructor
    · exact fun _ => nofun
    · exact drawn
    · rw [free]
      decide
    · right
      rw [free]
      exact ⟨rfl, fun _ => nofun⟩
  obtain ⟨points, tracks, apart⟩ := reached.controlled (outboxControl outcome) (StagingApart key)
    (fun label _ allowed => by
      cases label with
      | crash index => exact allowed.1
      | _ => trivial)
    (fun _ _ _ _ _ tracks allowed apart moves =>
      apart.moves tracks allowed.1 allowed.2 moves) initial
  exact apart.stagedOnce tracks

end Runs

/-! ## Concurrent deletions -/

/-- The unit of work of `deleteUser`, once the user is read. -/
def deletionUnit [Libraries] (user : User) (deletedAt : Millis) : UnitOfWork where
  params := deletionEvent user
  before := if Libraries.outboxFirst then [] else user.update (softDeleted user deletedAt)
  after := if Libraries.outboxFirst then user.update (softDeleted user deletedAt) else []
  mutates write member := by
    have updates : write ∈ user.update (softDeleted user deletedAt) := by
      cases order : Libraries.outboxFirst <;>
        simpa only [order, Bool.false_eq_true, ↓reduceIte, List.nil_append, List.append_nil]
          using member
    rw [User.mem_update updates]
    trivial

/-- `deleteUser` reads the user, then performs the unit. -/
theorem deleteUser_eq [Libraries] (userId : String) :
    deleteUser userId = findById userId >>= fun user => now >>= fun deletedAt =>
      (deletionUnit user deletedAt).perform >>= fun _ => pure () := by
  unfold deleteUser UnitOfWork.perform
  congr 1
  funext user
  congr 1
  funext deletedAt
  rw [Program.bind_assoc]
  congr 1
  funext staged
  rw [Program.bind_assoc]
  cases order : Libraries.outboxFirst <;>
    simp only [deletionUnit, order, Bool.false_eq_true, ↓reduceIte, List.nil_append,
      List.append_nil]
  · rfl
  · rfl

instance : ∀ write : Write, Decidable write.Mutates
  | .insertOutbox _ => inferInstanceAs (Decidable False)
  | .updateOutbox _ _ => inferInstanceAs (Decidable False)
  | .insertUser _ => inferInstanceAs (Decidable True)
  | .updateUser _ _ => inferInstanceAs (Decidable True)
  | .insertDevice _ => inferInstanceAs (Decidable True)
  | .updateDevice _ _ => inferInstanceAs (Decidable True)

instance (thread : OutboxThread) (store : Backend) : Decidable (MutatesCleanly thread store) := by
  unfold MutatesCleanly
  split <;> infer_instance

instance (key : String) : ∀ label pool, Decidable (Stages key label pool)
  | .spawn (.unit work), _ => inferInstanceAs (Decidable (work.params.idempotencyKey = key))
  | .spawn .sweep, _ => inferInstanceAs (Decidable False)
  | .crash _, _ => inferInstanceAs (Decidable False)
  | .step index, pool => inferInstanceAs (Decidable (∀ thread ∈ pool.threads[index]?,
      MutatesCleanly thread pool.shared.store))
  | .environment _, _ => inferInstanceAs (Decidable True)

instance (index : Nat) (pool : OutboxPool) : Decidable (OthersIdle index pool) :=
  inferInstanceAs (Decidable (∀ place < pool.threads.length, place ≠ index →
    ∀ other ∈ pool.threads[place]?, other.pending.isNone ∨ (lookup other).isSome))

instance : ∀ label pool, Decidable (LooksUpApart label pool)
  | .step index, pool => inferInstanceAs (Decidable (∀ thread ∈ pool.threads[index]?,
      ∀ key ∈ lookup thread, (fetch OutboxEvent.idempotencyKey key
        pool.shared.store.outbox).isSome ∨ OthersIdle index pool))
  | .spawn _, _ => inferInstanceAs (Decidable True)
  | .crash _, _ => inferInstanceAs (Decidable True)
  | .environment _, _ => inferInstanceAs (Decidable True)

section Deletions

open scoped Plain

/-- A registered user, before its deletion. -/
def leaving : User where
  id := 7
  createdAt := 0
  updatedAt := 0
  email := some "a@b.c"

/-- Nothing is staged for it yet. -/
def beforeDeletion : Dispatching where
  store := { users := [leaving], nextObjectId := 8 }

/-- Two deletions look the key up; each then finishes. -/
def overlappingDeletions : List OutboxLabel :=
  [.spawn (.unit (deletionUnit leaving 0)), .spawn (.unit (deletionUnit leaving 0)),
    .step 0, .step 1] ++ List.replicate 6 (.step 0) ++ List.replicate 5 (.step 1)

/-- Two deletions of one user look the key up before either has flushed. Both insert, and
the second fails with the duplicate key that staging was to avoid. -/
theorem not_stagesOnce_of_overlap : ¬StagesOnce (fun _ => .ok ()) (deletionKey leaving.hexId)
    (fun _ _ => True) beforeDeletion := by
  intro promise
  have reached : (outboxService fun _ => .ok ()).Reaches (fun label pool =>
      Stages (deletionKey leaving.hexId) label pool ∧ True) ⟨beforeDeletion, []⟩
      ((outboxService fun _ => .ok ()).schedule ⟨beforeDeletion, []⟩ overlappingDeletions) :=
    .of_admits (by decide)
  exact (promise _ reached).unfailed _ (List.mem_of_getElem? (i := 1) rfl)
    (duplicateKeyError "idempotencyKey_1" "idempotencyKey") rfl rfl

/-- Two deletions, the second of which starts when the first is over. -/
def successiveDeletions : List OutboxLabel :=
  .spawn (.unit (deletionUnit leaving 0)) :: List.replicate 7 (.step 0) ++
    .spawn (.unit (deletionUnit leaving 0)) :: List.replicate 4 (.step 1)

/-- The premises are met by two deletions of one user, one after the other: the event is
staged once. -/
theorem stagesOnce_of_apart_successive :
    StagedOnce (deletionKey leaving.hexId) ((outboxService fun _ => .ok ()).schedule
      ⟨beforeDeletion, []⟩ successiveDeletions) := by
  have reached : (outboxService fun _ => .ok ()).Reaches (fun label pool =>
      Stages (deletionKey leaving.hexId) label pool ∧ LooksUpApart label pool)
      ⟨beforeDeletion, []⟩
      ((outboxService fun _ => .ok ()).schedule ⟨beforeDeletion, []⟩ successiveDeletions) :=
    .of_admits (by decide)
  exact stagesOnce_of_apart rfl (fun _ member => absurd member List.not_mem_nil) _ reached

end Deletions

end NestMonorepo
