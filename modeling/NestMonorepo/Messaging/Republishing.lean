import NestMonorepo.Database.ObjectIds
import NestMonorepo.Messaging.Sweeps

/-! # Overlapping sweeps

However the sweeps of one process overlap, one at most is past the flag. A row whose
publication returned is stamped `sent` by the flush that follows, and it is published
again only if that flush fails.
-/

namespace NestMonorepo

open Collections Concurrency Handler OutboxDispatcher

/-- A sweep that has got past the flag and not yet cleared it; from its find to its
flush it is here. -/
def InSweep (thread : OutboxThread) : Prop :=
  thread.operation = .sweep ∧ ∃ command, thread.pending = some command ∧ command ≠ .beginSweep

/-- The thread is about to publish the row. -/
def Publishes (pool : OutboxPool) (index : Nat) (row : ObjectId) : Prop :=
  ∃ thread pattern payload, pool.threads[index]? = some thread ∧
    thread.pending = some (.publishEvent row pattern payload)

/-- The thread is about to make a write of its flush, and the database refuses it. -/
def FlushFails (pool : OutboxPool) (index : Nat) : Prop :=
  ∃ thread write at_, pool.threads[index]? = some thread ∧
    thread.pending = some (.write write at_) ∧ ¬pool.shared.store.Applies write

/-- Nothing that was given up is staged again. -/
def RevivesNothing : OutboxLabel → OutboxPool → Prop
  | .step index, pool => ∀ thread ∈ pool.threads[index]?, ∀ key ∈ lookup thread,
      ∀ row ∈ fetch OutboxEvent.idempotencyKey key pool.shared.store.outbox, row.status ≠ .failed
  | _, _ => True

/-- The steps of one process in which nothing given up is staged again. -/
def Unrevived (label : OutboxLabel) (pool : OutboxPool) : Prop :=
  OneProcess label pool ∧ RevivesNothing label pool

instance : ∀ label pool, Decidable (RevivesNothing label pool)
  | .step index, pool => inferInstanceAs (Decidable (∀ thread ∈ pool.threads[index]?,
      ∀ key ∈ lookup thread, ∀ row ∈ fetch OutboxEvent.idempotencyKey key
        pool.shared.store.outbox, row.status ≠ .failed))
  | .spawn _, _ => inferInstanceAs (Decidable True)
  | .crash _, _ => inferInstanceAs (Decidable True)
  | .environment _, _ => inferInstanceAs (Decidable True)

instance (label : OutboxLabel) (pool : OutboxPool) : Decidable (Unrevived label pool) :=
  inferInstanceAs (Decidable (_ ∧ _))

/-! ## Rows that stay sent -/

/-- A sent row is stored under the id. -/
def Backend.SentRow (store : Backend) (id : ObjectId) : Prop :=
  ∃ row ∈ store.outbox, row.id = id ∧ row.status = .sent

/-- A sent row is not pending as well, since ids are distinct. -/
theorem Backend.SentRow.not_pending {store : Backend} {id : ObjectId}
    (accountable : store.Accountable) (sent : store.SentRow id) : ¬store.PendingRow id := by
  rintro ⟨other, also, equal, waits⟩
  obtain ⟨row, present, same, done⟩ := sent
  rw [List.inj_on_of_nodup_map accountable.distinct present also (same.trans equal.symm), waits]
    at done
  cases done

/-- A sent row stays sent under a write of another row. -/
theorem Backend.SentRow.stored {store : Backend} {id : ObjectId} {write : Write}
    (sent : store.SentRow id) (other : write.target ≠ some id) (at_ : Millis) :
    (store.stored at_ write).SentRow id := by
  obtain ⟨row, present, same, done⟩ := sent
  cases write with
  | insertOutbox added => exact ⟨row, List.mem_append_left _ present, same, done⟩
  | updateOutbox target changes =>
      refine ⟨row, mem_modifyAt_of_ne present fun equal => other ?_, same, done⟩
      rw [Write.target, ← equal, same]
  | _ => exact ⟨row, present, same, done⟩

/-- A write that marks the row as sent. -/
def Write.Sends (id : ObjectId) : Write → Prop
  | .updateOutbox target changes => target = id ∧ changes.status = some .sent
  | _ => False

/-- A write that marks a row as sent is of that row. -/
theorem Write.Sends.target {write : Write} {id : ObjectId} (sends : write.Sends id) :
    write.target = some id := by
  cases write with
  | updateOutbox target changes => rw [Write.target, sends.1]
  | _ => exact sends.elim

/-- After it the row is sent. -/
theorem Write.Sends.stored {store : Backend} {id : ObjectId} {write : Write}
    (sends : write.Sends id) (pending : store.PendingRow id) (at_ : Millis) :
    (store.stored at_ write).SentRow id := by
  cases write with
  | updateOutbox target changes =>
      obtain ⟨rfl, sent⟩ := sends
      obtain ⟨row, present, same, -⟩ := pending
      refine ⟨_, mem_modifyAt_of_eq present same, same, ?_⟩
      rw [OutboxEvent.apply, sent, Option.getD_some]
  | _ => exact sends.elim

/-! ## Points -/

/-- The unit's flush updates no row. -/
def UnitPoint.Plain : UnitPoint → Prop
  | .flush _ result => ∀ write ∈ result.writes, write.target = none
  | .write _ writes _ => ∀ write ∈ writes, write.target = none
  | _ => True

def OutboxPoint.Plain : OutboxPoint → Prop
  | .unit point => point.Plain
  | .sweep _ => True

/-- The sweep has published the row and its stamp is still to be stored. -/
def SweepPoint.Owes (id : ObjectId) (point : SweepPoint) : Prop :=
  (∃ write ∈ point.stamps, write.Sends id) ∨
    ∃ done row rest tally, point = .stamp done row (.ok ()) rest tally ∧ row.id = id

/-- A sweep that owes a stamp is still under way. -/
theorem SweepPoint.Owes.active {id : ObjectId} {point : SweepPoint} (owes : point.Owes id) :
    point.active = true := by
  rcases owes with ⟨write, member, _⟩ | ⟨done, row, rest, tally, rfl, _⟩
  · cases point with
    | dispatch done rest tally => rfl
    | stamp done row published rest tally => rfl
    | write at_ writes result => rfl
    | _ => exact nomatch member
  · rfl

/-- What a sweep owes is none of the rows it has still to publish. -/
theorem SweepPoint.Owes.not_loaded {id : ObjectId} {done : List Write} {row : OutboxEvent}
    {rest : List OutboxEvent} {tally : SweepResult} {store : Backend}
    (owes : (dispatch done (row :: rest) tally).Owes id)
    (tidy : (dispatch done (row :: rest) tally).Tidy store) : row.id ≠ id := by
  rcases owes with ⟨write, member, sends⟩ | ⟨_, _, _, _, contrary, _⟩
  · rintro rfl
    have apart := List.nodup_append.mp tidy.apart
    apply apart.2.2 row.id _ row.id List.mem_cons_self rfl
    exact List.mem_filterMap.mpr ⟨write, member, sends.target⟩
  · cases contrary

section Steps

variable [Libraries] {outcome : Nat → Except String Unit} {state : Dispatching} {id : ObjectId}

/-- A row that is sent stays so through the steps of a unit that revives nothing. -/
theorem UnitPoint.step_sent {point : UnitPoint} (plain : point.Plain)
    (sent : state.store.SentRow id) : (step outcome point state).1.store.SentRow id := by
  cases point with
  | write at_ writes result =>
      cases writes with
      | nil => exact sent
      | cons first rest =>
          simp only [step]
          rcases Dispatching.exec_write first at_ state with ⟨_, ran⟩ | ⟨_, error, ran⟩
          · rw [ran]
            apply sent.stored
            rw [plain first List.mem_cons_self]
            exact (Option.some_ne_none _).symm
          · rw [ran]
            exact sent
  | _ => exact sent

/-- A unit that finds no row given up goes on to revive none, at each of its points. -/
theorem UnitPoint.step_plain {point : UnitPoint} (plain : point.Plain)
    (fresh : ∀ key, point.command = some (.findOutboxEvent key) → ∀ row,
      fetch OutboxEvent.idempotencyKey key state.store.outbox = some row → row.status ≠ .failed) :
    (step outcome point state).2.Plain := by
  cases point with
  | lookup work =>
      simp only [step]
      split
      · rename_i existing found
        have given := fresh _ rfl existing (exec_findOutboxEvent found)
        simp only [Plain, StageOutboxParams.revive, given, ↓reduceIte]
        exact fun _ none => (List.not_mem_nil none).elim
      · trivial
      · trivial
  | drawId work => trivial
  | create work at_ =>
      intro write member
      rw [List.mem_singleton.mp member]
      rfl
  | flush work result =>
      have domain : ∀ write : Write, write.Mutates → write.target = none := by
        intro write mutates
        cases write with
        | updateOutbox _ _ => exact mutates.elim
        | _ => rfl
      intro write member
      rcases List.mem_append.mp member with early | last
      · rcases List.mem_append.mp early with first | staged
        · exact domain write (work.mutates write (List.mem_append_left _ first))
        · exact plain write staged
      · exact domain write (work.mutates write (List.mem_append_right _ last))
  | write at_ writes result =>
      cases writes with
      | nil => trivial
      | cons first rest =>
          simp only [step]
          split
          · exact fun write member => plain write (List.mem_cons_of_mem _ member)
          · trivial
  | answering result => trivial
  | ended result => trivial

/-- A row that is sent stays so through the steps of a sweep, whose stamps are on pending
rows only. -/
theorem SweepPoint.step_sent {point : SweepPoint} (tidy : point.Tidy state.store)
    (accountable : state.store.Accountable) (sent : state.store.SentRow id) :
    (step outcome point state).1.store.SentRow id := by
  cases point with
  | begin =>
      simp only [step, Dispatching.exec, Backend.exec]
      split <;> exact sent
  | dispatch done rest tally =>
      cases rest with
      | nil => exact sent
      | cons row rest =>
          simp only [step, Dispatching.exec]
          split <;> exact sent
  | write at_ writes result =>
      cases writes with
      | nil => exact sent
      | cons first rest =>
          simp only [step]
          rcases Dispatching.exec_write first at_ state with ⟨_, ran⟩ | ⟨_, error, ran⟩
          · rw [ran]
            apply sent.stored
            intro target
            apply sent.not_pending accountable
            apply tidy.pending
            exact List.mem_append_left _
              (List.mem_filterMap.mpr ⟨first, List.mem_cons_self, target⟩)
          · rw [ran]
            exact sent
  | _ => exact sent

/-- A sweep that owes a stamp still owes it after its step, has stored it, or sees its
flush fail. -/
theorem SweepPoint.step_owes {point : SweepPoint} (owes : point.Owes id)
    (tidy : point.Tidy state.store) :
    (step outcome point state).2.Owes id ∨ (step outcome point state).1.store.SentRow id ∨
      ∃ write at_, point.command = some (.write write at_) ∧ ¬state.store.Applies write := by
  cases point with
  | dispatch done rest tally =>
      left
      rcases owes with ⟨write, member, sends⟩ | ⟨_, _, _, _, contrary, _⟩
      · cases rest <;> exact .inl ⟨write, member, sends⟩
      · cases contrary
  | stamp done row published rest tally =>
      left
      left
      rcases owes with ⟨write, member, sends⟩ | ⟨_, _, _, _, same, rfl⟩
      · exact ⟨write, List.mem_append_left _ member, sends⟩
      · cases same
        have visible := tidy.loaded row List.mem_cons_self
        refine ⟨.updateOutbox row.id (row.changes (attempted row state.store.clock (.ok ()))), ?_,
          rfl, ?_⟩
        · apply List.mem_append_right
          rw [update_attempted]
          exact List.mem_singleton_self _
        · change changed row.status .sent = some .sent
          rw [visible.1]
          rfl
  | write at_ writes result =>
      rcases owes with ⟨write, member, sends⟩ | ⟨_, _, _, _, contrary, _⟩
      · cases writes with
        | nil => exact nomatch member
        | cons first rest =>
            simp only [step]
            rcases Dispatching.exec_write first at_ state with ⟨_, ran⟩ | ⟨refused, _⟩
            · rw [ran]
              rcases List.mem_cons.mp member with rfl | later
              · right
                left
                apply sends.stored
                apply tidy.pending
                exact List.mem_append_left _
                  (List.mem_filterMap.mpr ⟨write, List.mem_cons_self, sends.target⟩)
              · exact .inl (.inl ⟨write, later, sends⟩)
            · exact .inr (.inr ⟨first, at_, rfl, refused⟩)
      · cases contrary
  | _ =>
      rcases owes with ⟨write, member, _⟩ | ⟨_, _, _, _, same, _⟩
      · cases member
      · cases same

end Steps

/-! ## Runs -/

/-- An active sweep is about to perform a command of its body. -/
theorem SweepPoint.active_iff (point : SweepPoint) : point.active = true ↔
    ∃ command, point.command = some command ∧ command ≠ .beginSweep := by
  constructor
  · intro active
    cases point with
    | begin => cases active
    | answering outcome => cases active
    | ended outcome => cases active
    | dispatch done rest tally => cases rest <;> exact ⟨_, rfl, nofun⟩
    | write at_ writes result => cases writes <;> exact ⟨_, rfl, nofun⟩
    | _ => exact ⟨_, rfl, nofun⟩
  · rintro ⟨command, performs, other⟩
    cases point with
    | begin =>
        cases performs
        exact (other rfl).elim
    | answering outcome => cases performs
    | ended outcome => cases performs
    | _ => rfl

/-- Only a sweep in its loop publishes. -/
theorem OutboxPoint.of_publishes {point : OutboxPoint} {id : ObjectId} {pattern : String}
    {payload : Payload} (publishes : point.command = some (.publishEvent id pattern payload)) :
    ∃ done row rest tally, point = .sweep (.dispatch done (row :: rest) tally) ∧ row.id = id := by
  cases point with
  | unit point =>
      cases point with
      | write at_ writes result => cases writes <;> cases publishes
      | _ => cases publishes
  | sweep point =>
      cases point with
      | dispatch done rest tally =>
          cases rest with
          | nil => cases publishes
          | cons row rest =>
              cases publishes
              exact ⟨done, row, rest, tally, rfl, rfl⟩
      | write at_ writes result => cases writes <;> cases publishes
      | _ => cases publishes

section Runs

variable [Libraries] {outcome : Nat → Except String Unit} {start : Dispatching}
  {pool : OutboxPool} {points : List OutboxPoint}

/-- What holds of the threads in every run that revives nothing. -/
structure Unreviving (state : Dispatching) (points : List OutboxPoint) : Prop where
  orderly : Orderly state points
  plain : ∀ point ∈ points, point.Plain

/-- A step in which nothing given up is staged again keeps what holds of the threads of such
a run. -/
theorem Unreviving.moves (unreviving : Unreviving pool.shared points) {label : OutboxLabel}
    (allowed : Unrevived label pool) (tracks : (outboxControl outcome).Tracks points pool)
    {later : Dispatching} {moved : List OutboxPoint}
    (moves : (outboxControl outcome).Moves label pool.shared points later moved) :
    Unreviving later moved := by
  refine ⟨unreviving.orderly.moves allowed.1 moves, ?_⟩
  have plain := unreviving.plain
  cases moves with
  | spawn operation =>
      intro point member
      rcases List.mem_append.mp member with present | added
      · exact plain point present
      · rw [List.mem_singleton.mp added]
        cases operation <;> trivial
  | @step index point _ _ present =>
      intro other member
      rcases List.mem_or_eq_of_mem_set member with old | rfl
      · exact plain other old
      · have before := plain point (List.mem_of_getElem? present)
        cases point with
        | sweep point => trivial
        | unit point =>
            apply UnitPoint.step_plain before
            intro key performs
            obtain ⟨thread, there, pending, _⟩ := thread_of_point tracks present
            apply allowed.2 thread there key
            have performing : thread.pending = some (.findOutboxEvent key) :=
              pending.trans performs
            simp only [lookup, performing, Option.mem_def]
  | idle => exact plain
  | environment event => exact plain

/-- The threads of a run that revives nothing stand at points in order. -/
theorem unreviving_of_reaches (accountable : start.store.Accountable)
    (free : start.store.sweepRunning = false)
    (reached : (outboxService outcome).Reaches Unrevived ⟨start, []⟩ pool) :
    ∃ points, (outboxControl outcome).Tracks points pool ∧ Unreviving pool.shared points := by
  apply reached.controlled (outboxControl outcome) Unreviving
  · exact fun _ _ allowed => allowed.1.alive
  · exact fun _ _ _ _ _ tracks allowed kept moves => kept.moves allowed tracks moves
  · exact ⟨[], rfl, .start accountable free, fun _ none => nomatch none⟩

/-- The sweep that published the row owes its stamp, or the row is stored as sent. -/
def Settling (first : Nat) (row : ObjectId) (state : Dispatching) (points : List OutboxPoint) :
    Prop :=
  (∃ point, points[first]? = some (.sweep point) ∧ point.Owes row) ∨ state.store.SentRow row

/-- One step leaves the row settling, unless it is the flush that fails: the first sweep
still owes the stamp, or the row is sent. -/
theorem Settling.moves {first : Nat} {row : ObjectId}
    (settling : Settling first row pool.shared points)
    (unreviving : Unreviving pool.shared points)
    (tracks : (outboxControl outcome).Tracks points pool) {label : OutboxLabel}
    {moved : List OutboxPoint} (allowed : Unrevived label pool)
    (moves : (outboxControl outcome).Moves label pool.shared points
      ((outboxService outcome).next label pool).shared moved) :
    Settling first row ((outboxService outcome).next label pool).shared moved ∨
      label = .step first ∧ FlushFails pool first := by
  have accountable := unreviving.orderly.accountable
  generalize ((outboxService outcome).next label pool).shared = later at moves
  cases moves with
  | spawn operation =>
      left
      rcases settling with ⟨point, present, owes⟩ | sent
      · refine .inl ⟨point, ?_, owes⟩
        rw [List.getElem?_append_left (List.getElem?_eq_some_iff.mp present).1]
        exact present
      · exact .inr sent
  | @step index point _ _ present =>
      rcases settling with ⟨owing, there, owes⟩ | sent
      · by_cases same : index = first
        · subst same
          rw [present] at there
          cases there
          have tidy := unreviving.orderly.tidy _ (List.mem_of_getElem? present)
          rcases owing.step_owes owes tidy with still | stored | ⟨write, at_, performs, refused⟩
          · refine .inl (.inl ⟨_, ?_, still⟩)
            exact List.getElem?_set_self (List.getElem?_eq_some_iff.mp present).1
          · exact .inl (.inr stored)
          · obtain ⟨thread, found, pending, _⟩ := thread_of_point tracks present
            exact .inr ⟨rfl, thread, write, at_, found, pending.trans performs, refused⟩
        · refine .inl (.inl ⟨owing, ?_, owes⟩)
          rw [List.getElem?_set_ne same]
          exact there
      · left
        right
        cases point with
        | unit point =>
            exact UnitPoint.step_sent (unreviving.plain _ (List.mem_of_getElem? present)) sent
        | sweep point =>
            exact SweepPoint.step_sent
              (unreviving.orderly.tidy _ (List.mem_of_getElem? present)) accountable sent
  | idle => exact .inl settling
  | environment event =>
      left
      rcases settling with owing | ⟨stored, present, same, sent⟩
      · exact .inl owing
      · refine .inr ⟨stored, ?_, same, sent⟩
        cases event <;> exact present

/-- While the row is settling, nobody publishes it. -/
theorem Settling.not_publishes {first second : Nat} {row : ObjectId}
    (settling : Settling first row pool.shared points)
    (unreviving : Unreviving pool.shared points)
    (tracks : (outboxControl outcome).Tracks points pool) : ¬Publishes pool second row := by
  rintro ⟨thread, pattern, payload, present, publishes⟩
  obtain ⟨point, there, pending, _⟩ := point_of_thread tracks present
  rw [publishes] at pending
  obtain ⟨done, loaded, rest, tally, rfl, named⟩ := OutboxPoint.of_publishes pending.symm
  have tidy : (SweepPoint.dispatch done (loaded :: rest) tally).Tidy pool.shared.store :=
    unreviving.orderly.tidy _ (List.mem_of_getElem? there)
  rcases settling with ⟨owing, also, owes⟩ | sent
  · have same : first = second := unreviving.orderly.exclusive also there owes.active rfl
    rw [same, there] at also
    cases also
    exact owes.not_loaded tidy named
  · apply sent.not_pending unreviving.orderly.accountable
    apply tidy.pending
    exact List.mem_append_right _ (List.mem_map.mpr ⟨loaded, List.mem_cons_self, named⟩)

/-- Behind a publication that returned, the row is settling until the flush fails. -/
theorem settling_of_reaches {first : Nat} {row : ObjectId} {before : OutboxPool}
    (settling : ∃ points, (outboxControl outcome).Tracks points before ∧
      Unreviving before.shared points ∧ Settling first row before.shared points)
    (reached : (outboxService outcome).Reaches Unrevived before pool) :
    (∃ points, (outboxControl outcome).Tracks points pool ∧ Unreviving pool.shared points ∧
        Settling first row pool.shared points) ∨
      ∃ middle, (outboxService outcome).Reaches Unrevived before middle ∧
        FlushFails middle first ∧ (outboxService outcome).Reaches Unrevived
          ((outboxService outcome).next (.step first) middle) pool := by
  induction reached with
  | refl => exact .inl settling
  | step label toPool allowed ih =>
      rcases ih with ⟨points, tracks, unreviving, settles⟩ | ⟨middle, toMiddle, fails, onwards⟩
      · obtain ⟨moved, tracked, moves⟩ := tracks.next allowed.1.alive
        rcases settles.moves unreviving tracks allowed moves with still | ⟨rfl, fails⟩
        · exact .inl ⟨moved, tracked, unreviving.moves allowed tracks moves, still⟩
        · exact .inr ⟨_, toPool, fails, .refl⟩
      · exact .inr ⟨middle, toMiddle, fails, onwards.step label allowed⟩

/-- A publication that returns leaves the row settling, as its sweep owes the stamp from
then on. -/
theorem settling_of_publishes {first : Nat} {row : ObjectId}
    (tracks : (outboxControl outcome).Tracks points pool)
    (unreviving : Unreviving pool.shared points) (publishes : Publishes pool first row)
    (returns : outcome pool.shared.calls = .ok ()) :
    ∃ points, (outboxControl outcome).Tracks points
        ((outboxService outcome).next (.step first) pool) ∧
      Unreviving ((outboxService outcome).next (.step first) pool).shared points ∧
      Settling first row ((outboxService outcome).next (.step first) pool).shared points := by
  obtain ⟨thread, pattern, payload, present, publishing⟩ := publishes
  have allowed : Unrevived (.step first) pool := by
    refine ⟨trivial, fun other there key looked => ?_⟩
    cases there.symm.trans present
    simp only [lookup, publishing, Option.mem_def, reduceCtorEq] at looked
  obtain ⟨point, there, pending, _⟩ := point_of_thread tracks present
  rw [publishing] at pending
  obtain ⟨done, loaded, rest, tally, rfl, named⟩ := OutboxPoint.of_publishes pending.symm
  obtain ⟨moved, tracked, moves⟩ := tracks.next allowed.1.alive
  refine ⟨moved, tracked, unreviving.moves allowed tracks moves, .inl ?_⟩
  generalize ((outboxService outcome).next (.step first) pool).shared = later at moves
  cases moves with
  | idle absent =>
      rw [there] at absent
      cases absent
  | step found =>
      cases found.symm.trans there
      refine ⟨_, List.getElem?_set_self (List.getElem?_eq_some_iff.mp there).1, .inr ?_⟩
      refine ⟨done, loaded, rest, tally, ?_, named⟩
      simp only [SweepPoint.step, Dispatching.exec, returns]

/-- In every run of one process that stages nothing given up again, at most one sweep is
past the flag, the flag is down when none is, and a row whose publication returned is
published again only after the flush of its sweep has failed. -/
theorem sweeps_apart (accountable : start.store.Accountable)
    (free : start.store.sweepRunning = false)
    (reached : (outboxService outcome).Reaches Unrevived ⟨start, []⟩ pool) :
    (∀ (first second : Nat) (one other : OutboxThread), pool.threads[first]? = some one →
      pool.threads[second]? = some other → InSweep one → InSweep other → first = second) ∧
    (pool.shared.store.sweepRunning = true → ∃ thread ∈ pool.threads, InSweep thread) ∧
    ∀ first row, Publishes pool first row → outcome pool.shared.calls = .ok () →
      ∀ later second, (outboxService outcome).Reaches Unrevived
        ((outboxService outcome).next (.step first) pool) later → Publishes later second row →
          ∃ middle, (outboxService outcome).Reaches Unrevived
            ((outboxService outcome).next (.step first) pool) middle ∧ FlushFails middle first ∧
              (outboxService outcome).Reaches Unrevived
                ((outboxService outcome).next (.step first) middle) later := by
  obtain ⟨points, tracks, unreviving⟩ := unreviving_of_reaches accountable free reached
  have standing : ∀ {index : Nat} {thread : OutboxThread}, pool.threads[index]? = some thread →
      InSweep thread → ∃ point, points[index]? = some point ∧ point.active = true := by
    rintro index thread present ⟨sweeping, command, performs, other⟩
    obtain ⟨point, there, pending, kind⟩ := point_of_thread tracks present
    refine ⟨point, there, ?_⟩
    cases point with
    | unit point =>
        rw [sweeping] at kind
        cases kind
    | sweep point => exact point.active_iff.mpr ⟨command, pending.symm.trans performs, other⟩
  refine ⟨?_, ?_, ?_⟩
  · intro first second one other present also inside too
    obtain ⟨point, there, active⟩ := standing present inside
    obtain ⟨busy, around, working⟩ := standing also too
    exact unreviving.orderly.exclusive there around active working
  · intro running
    have holders := unreviving.orderly.holders
    rw [running] at holders
    have some : 0 < points.countP OutboxPoint.active := by
      rw [holders]
      decide
    obtain ⟨point, member, active⟩ := List.countP_pos_iff.mp some
    obtain ⟨index, there⟩ := List.mem_iff_getElem?.mp member
    obtain ⟨thread, present, pending, kind⟩ := thread_of_point tracks there
    refine ⟨thread, List.mem_of_getElem? present, ?_⟩
    cases point with
    | unit point => cases active
    | sweep point =>
        obtain ⟨command, performs, other⟩ := point.active_iff.mp active
        refine ⟨?_, command, pending.trans performs, other⟩
        cases operation : thread.operation with
        | sweep => rfl
        | unit work =>
            rw [operation] at kind
            cases kind
  · intro first row publishes returns later second onwards again
    have settling := settling_of_publishes tracks unreviving publishes returns
    rcases settling_of_reaches settling onwards with ⟨_, tracked, kept, settles⟩ | failed
    · exact (settles.not_publishes kept tracked again).elim
    · exact failed

end Runs

/-! ## A row published twice -/

section Twice

open scoped Plain

/-- One pending row, before its first sweep. -/
def waitingRow : Dispatching where
  store := { outbox := [(StageOutboxParams.mk "user" "user.deleted" [] "key").row 7 0] }

/-- A sweep about to publish the row. -/
def firstAttempt : OutboxPool :=
  (outboxService fun _ => .ok ()).schedule ⟨waitingRow, []⟩ [.spawn .sweep, .step 0, .step 0]

/-- Its flush meets a database that is down, and another sweep publishes the row again. -/
def secondAttempt : OutboxPool :=
  (outboxService fun _ => .ok ()).schedule
    ((outboxService fun _ => .ok ()).next (.step 0) firstAttempt)
    [.step 0, .step 0, .environment (.database false), .step 0, .step 0, .step 0,
      .environment (.database true), .spawn .sweep, .step 1, .step 1]

/-- The premises are met by a sweep whose flush fails after it has published a row: the next
sweep publishes the row once more, as it may. -/
theorem sweeps_apart_retried : ∃ middle, FlushFails middle 0 ∧
    (outboxService fun _ => .ok ()).Reaches Unrevived
      ((outboxService fun _ => .ok ()).next (.step 0) middle) secondAttempt := by
  have accountable : waitingRow.store.Accountable := by
    refine ⟨by decide, fun row member => ?_⟩
    rw [List.mem_singleton.mp member]
    exact ⟨fun _ => by decide, nofun⟩
  have reached : (outboxService fun _ => .ok ()).Reaches Unrevived ⟨waitingRow, []⟩ firstAttempt :=
    .of_admits (by decide)
  have onwards : (outboxService fun _ => .ok ()).Reaches Unrevived
      ((outboxService fun _ => .ok ()).next (.step 0) firstAttempt) secondAttempt :=
    .of_admits (by decide)
  obtain ⟨middle, _, fails, rest⟩ := (sweeps_apart accountable rfl reached).2.2 0 7
    ⟨_, _, _, rfl, rfl⟩ rfl secondAttempt 1 onwards ⟨_, _, _, rfl, rfl⟩
  exact ⟨middle, fails, rest⟩

end Twice

end NestMonorepo
