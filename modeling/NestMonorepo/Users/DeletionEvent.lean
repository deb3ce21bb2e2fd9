import NestMonorepo.Database.ObjectIds
import NestMonorepo.Users.EventRows

/-! # A deletion and its event

`deleteUser` writes two documents in one flush: the user, with its soft-delete
marker, and the outbox row of the `user.deleted` event. No transaction encloses
them. Between the two writes the store is torn, and only the second write, by
the same thread, mends it; a sweep that comes in between publishes what is not
so, or does not see what is.
-/

namespace NestMonorepo

open Collections Concurrency Handler UsersService

section Law

variable [Libraries]

/-! ## The law -/

/-- An outbox row announces the deletion of a user. -/
def Announced (store : Backend) (id : ObjectId) : Prop :=
  ∃ row ∈ store.outbox, row.idempotencyKey = deletionKey (Libraries.toHexString id)

instance (store : Backend) (id : ObjectId) : Decidable (Announced store id) :=
  inferInstanceAs (Decidable (∃ row ∈ store.outbox, _))

/-- A stored user whose marker and event disagree. -/
def Torn (store : Backend) (id : ObjectId) : Prop :=
  ∃ user ∈ store.users, user.id = id ∧ ¬(¬user.Live ↔ Announced store id)

/-- The command is the second write of a deletion's flush. -/
def SecondWrite (id : ObjectId) : Command → Prop
  | .write (.updateUser target changes) _ =>
      Libraries.outboxFirst = true ∧ target = id ∧ changes.deletedAt ≠ none
  | .write (.insertOutbox row) _ =>
      Libraries.outboxFirst = false ∧
        row.idempotencyKey = deletionKey (Libraries.toHexString id)
  | _ => False

/-- Soft-delete and event are atomic over the `admitted` runs: where a run ends, a user is
marked if and only if its event is stored; and whenever a deletion event is published in
its course, it is about a marked user. -/
def DeletionAtomic (admitted : List ServiceLabel → Prop) (start : Backend) : Prop :=
  ∀ labels, admitted labels →
    (∀ user ∈ (userService.schedule ⟨start, []⟩ labels).shared.users,
      ¬user.Live ↔ Announced (userService.schedule ⟨start, []⟩ labels).shared user.id) ∧
    ∀ position index thread row payload,
      userService.PerformsAt ⟨start, []⟩ labels position index thread
        (.publishEvent row "user.deleted" payload) →
      ∃ user ∈ (standing start labels position).shared.users,
        payload = (deletionEvent user).payload ∧ ¬user.Live

/-- The write stores one half of a deletion without the other: it updates a user whose event
is not stored, or inserts the event of a live user. -/
def Write.Half (store : Backend) : Write → Prop
  | .updateUser id _ => ∃ user ∈ store.users, user.id = id ∧ ¬Announced store id
  | .insertOutbox row => ∃ user ∈ store.users,
      row.idempotencyKey = deletionKey user.hexId ∧ user.Live
  | _ => False

instance (store : Backend) : ∀ write : Write, Decidable (write.Half store)
  | .updateUser id _ => inferInstanceAs (Decidable (∃ user ∈ store.users, user.id = id ∧ _))
  | .insertOutbox _ => inferInstanceAs (Decidable (∃ user ∈ store.users, _ ∧ user.Live))
  | .insertUser _ => .isFalse id
  | .insertDevice _ => .isFalse id
  | .updateDevice _ _ => .isFalse id
  | .updateOutbox _ _ => .isFalse id

/-- At the position a deletion writes one half. -/
def WritesHalf (start : Backend) (labels : List ServiceLabel) (position index : Nat) : Prop :=
  ∃ userId write, WritesAt start labels position index (.deleteUser userId) write ∧
    write.Half (standing start labels position).shared

/-- When a deletion has written one half, the next step of the run is its next write, and
the database accepts it. -/
def Unbroken (start : Backend) (labels : List ServiceLabel) : Prop :=
  ∀ position index, WritesHalf start labels position index →
    ∃ userId write, WritesAt start labels (position + 1) index (.deleteUser userId) write

/-! ## What one write does -/

/-- The events of two deletions have one key only when they are about one user. -/
theorem deletionKey_injective {first second : ObjectId}
    (same : deletionKey (Libraries.toHexString first) =
      deletionKey (Libraries.toHexString second)) : first = second := by
  have printed : Libraries.toHexString first = Libraries.toHexString second :=
    String.append_right_inj _ |>.mp same
  have parsed := congrArg Libraries.ofHexString printed
  rw [Libraries.ofHexString_toHexString, Libraries.ofHexString_toHexString] at parsed
  exact Option.some.inj parsed

/-- Only the insertion of a row announces anything new. An update keeps the key of its row. -/
theorem announced_stored {store : Backend} {write : Write} {at_ : Millis} {id : ObjectId} :
    Announced (store.stored at_ write) id ↔ Announced store id ∨
      ∃ row, write = .insertOutbox row ∧
        row.idempotencyKey = deletionKey (Libraries.toHexString id) := by
  cases write with
  | insertOutbox row =>
      simp only [Announced, Backend.stored, List.mem_append, List.mem_singleton, or_and_right,
        exists_or, exists_eq_left, Write.insertOutbox.injEq, exists_eq_left']
  | updateOutbox target changes =>
      have keys : ∀ row : OutboxEvent,
          (row.apply changes at_).idempotencyKey = row.idempotencyKey := fun _ => rfl
      refine ⟨?_, ?_⟩
      · rintro ⟨row, member, key⟩
        rcases mem_modifyAt member with ⟨present, _⟩ | ⟨old, present, _, rfl⟩
        · exact .inl ⟨row, present, key⟩
        · exact .inl ⟨old, present, key⟩
      · rintro (⟨row, member, key⟩ | ⟨row, none, _⟩)
        · by_cases same : row.id = target
          · exact ⟨_, mem_modifyAt_of_eq member same, key⟩
          · exact ⟨row, mem_modifyAt_of_ne member same, key⟩
        · cases none
  | _ => simp only [Announced, Backend.stored, reduceCtorEq, false_and, exists_false, or_false]

/-- Deleted users stay deleted, events stay stored. -/
def deletionContract : ServiceContract where
  rely store later := Carried (fun before after => ¬before.Live → ¬after.Live) store later ∧
    ∀ id, Announced store id → Announced later id
  refl _ := ⟨.of_users_eq (fun _ dead => dead) rfl, fun _ announced => announced⟩
  trans left right := ⟨.trans (fun first second dead => second (first dead)) left.1 right.1,
    fun id announced => right.2 id (left.2 id announced)⟩
  keeps store := DistinctIds store ∧
    ∀ id, Announced store id → ∃ user ∈ store.users, user.id = id
  permitted _ _ := True

/-- A step that leaves users and outbox alone keeps the deletion contract, and is one that
the other operations allow for. -/
theorem deletionContract_of_frame {store later : Backend} (users : later.users = store.users)
    (outbox : later.outbox = store.outbox) (kept : deletionContract.keeps store) :
    deletionContract.keeps later ∧ deletionContract.rely store later := by
  have announced : ∀ id, Announced later id ↔ Announced store id := fun id => by
    rw [Announced, Announced, outbox]
  refine ⟨⟨?_, fun id event => ?_⟩, .of_users_eq (fun _ dead => dead) users, fun id event =>
    (announced id).mpr event⟩
  · rw [DistinctIds, users]
    exact kept.1
  · rw [users]
    exact kept.2 id ((announced id).mp event)

/-- The rows a handler inserts announce a stored user. -/
theorem WriteOf.announces {contract : ServiceContract} {operation : UserOperation}
    {read : Backend} {row : OutboxEvent} {after : Option Command}
    (issues : WriteOf contract operation read (.insertOutbox row) after) :
    ∃ user ∈ read.users, row.idempotencyKey = deletionKey user.hexId := by
  cases issues with
  | rowBeforeDeletion deletedAt _ member _ _ announces => exact ⟨_, member, announces⟩
  | rowAfterDeletion _ member _ _ announces => exact ⟨_, member, announces⟩

/-- The deletion contract is tame: a grounded write brings no deleted user back, removes no
event, and announces only users that are stored. -/
theorem deletionContract_tame : Tame deletionContract where
  persist relies user member :=
    let ⟨later, present, same, _⟩ := relies.1 user member
    ⟨later, present, same⟩
  plain command store plain _ kept :=
    deletionContract_of_frame (plain.frame store).1 (plain.frame store).2 kept
  writes := by
    intro operation write at_ after store grounded _ kept applies
    obtain ⟨read, relied, _, issues⟩ := grounded
    have carried : Carried (fun before after => ¬before.Live → ¬after.Live) store
        (store.stored at_ write) := by
      refine .stored (fun _ dead => dead) write at_ ?_
      rintro id changes rfl user _ _ dead live
      exact dead (User.live_of_apply issues.never_revives live).1
    refine ⟨⟨kept.1.stored applies at_, fun id announced => ?_⟩, carried, fun id announced =>
      announced_stored.mpr (.inl announced)⟩
    -- the announced user was stored, or is the one the inserted row is about
    have owner : ∃ user ∈ store.users, user.id = id := by
      rcases announced_stored.mp announced with earlier | ⟨row, rfl, key⟩
      · exact kept.2 id earlier
      · obtain ⟨user, member, announces⟩ := issues.announces
        obtain ⟨stored, present, same, _⟩ := relied.1 user member
        exact ⟨stored, present, same.trans (deletionKey_injective (announces.symm.trans key))⟩
    obtain ⟨user, member, same⟩ := owner
    obtain ⟨later, present, equal, _⟩ := carried user member
    exact ⟨later, present, equal.trans same⟩

/-! ## Tearing and mending -/

/-- A write that touches neither a marker nor the events. -/
def Write.Quiet : Write → Prop
  | .insertOutbox _ => False
  | .updateUser _ changes => changes.deletedAt = none
  | .insertUser user => user.Live
  | _ => True

/-- A write of any operation but a deletion touches neither a marker nor the events. -/
theorem WriteOf.quiet {contract : ServiceContract} {operation : UserOperation} {read : Backend}
    {write : Write} {after : Option Command}
    (issues : WriteOf contract operation read write after)
    (other : ∀ userId, operation ≠ .deleteUser userId) : write.Quiet := by
  cases write with
  | insertOutbox row => cases issues <;> exact other _ rfl
  | updateUser id changes => exact issues.deletedAt_eq_none other
  | insertUser user => cases issues <;> rfl
  | _ => trivial

/-- A quiet write tears nobody and is no second write of a deletion, so it mends nobody
either. -/
theorem Torn.of_quiet {store : Backend} {write : Write} {at_ : Millis} {id : ObjectId}
    (kept : deletionContract.keeps store) (applies : store.Applies write) (quiet : write.Quiet)
    (torn : Torn (store.stored at_ write) id) :
    Torn store id ∧ ¬SecondWrite id (.write write at_) := by
  obtain ⟨user, member, same, disagree⟩ := torn
  have announced : Announced (store.stored at_ write) id ↔ Announced store id := by
    rw [announced_stored]
    refine or_iff_left ?_
    rintro ⟨row, rfl, _⟩
    exact quiet
  rw [announced] at disagree
  refine ⟨?_, ?_⟩
  · rcases mem_stored_users member with ⟨present, _⟩ | rfl | ⟨old, present, changes, rfl, rfl⟩
    · exact ⟨user, present, same, disagree⟩
    · -- a fresh user is live, and no event can be about it yet
      refine (disagree ⟨fun dead => (dead quiet).elim, fun event => ?_⟩).elim
      obtain ⟨other, taken, sameId⟩ := kept.2 id event
      have clean := applies.2
      obtain ⟨found, fetched⟩ := fetch_isSome_of_mem User.id taken
      rw [sameId, ← same] at fetched
      simp only [Backend.violation, fetched, Option.isSome_some, ↓reduceIte, reduceCtorEq] at clean
    · refine ⟨old, present, same, fun agree => disagree ?_⟩
      have unmarked : (old.apply changes at_).deletedAt = old.deletedAt := by
        change changes.deletedAt.getD old.deletedAt = old.deletedAt
        rw [show changes.deletedAt = none from quiet]
        rfl
      rw [User.Live, unmarked]
      exact agree
  · intro second
    cases write with
    | updateUser target changes => exact second.2.2 quiet
    | insertOutbox row => exact quiet
    | _ => exact second

/-- A user not concerned by a deletion's write is torn after it only if it was
before. -/
theorem Torn.of_other {store : Backend} {write : Write} {at_ : Millis} {id other : ObjectId}
    (differ : id ≠ other) (torn : Torn (store.stored at_ write) id)
    (target : ∀ target changes, write = .updateUser target changes → target = other)
    (row : ∀ row, write = .insertOutbox row →
      row.idempotencyKey = deletionKey (Libraries.toHexString other))
    (inserts : ∀ user, write ≠ .insertUser user) : Torn store id := by
  obtain ⟨user, member, same, disagree⟩ := torn
  have announced : Announced (store.stored at_ write) id ↔ Announced store id := by
    rw [announced_stored]
    refine or_iff_left ?_
    rintro ⟨inserted, isRow, key⟩
    exact differ (deletionKey_injective (key.symm.trans (row inserted isRow)))
  rw [announced] at disagree
  rcases mem_stored_users member with ⟨present, _⟩ | isInsert | ⟨old, _, changes, isUpdate, rfl⟩
  · exact ⟨user, present, same, disagree⟩
  · exact (inserts user isInsert).elim
  · exact (differ (same.symm.trans (target old.id changes isUpdate))).elim

/-- The update of another user tears nobody: whoever is torn after it was torn before it. -/
theorem Torn.of_update {store : Backend} {changes : UserChanges} {at_ : Millis}
    {id other : ObjectId} (differ : id ≠ other)
    (torn : Torn (store.stored at_ (.updateUser other changes)) id) : Torn store id := by
  refine torn.of_other differ (fun _ _ same => ?_) (fun _ same => ?_) fun _ same => ?_
  · cases same
    rfl
  · cases same
  · cases same

/-- Nor does the event of another user's deletion. -/
theorem Torn.of_row {store : Backend} {row : OutboxEvent} {at_ : Millis} {id other : ObjectId}
    (differ : id ≠ other)
    (announces : row.idempotencyKey = deletionKey (Libraries.toHexString other))
    (torn : Torn (store.stored at_ (.insertOutbox row)) id) : Torn store id := by
  refine torn.of_other differ (fun _ _ same => ?_) (fun _ same => ?_) fun _ same => ?_
  · cases same
  · cases same
    exact announces
  · cases same

omit [Libraries] in
/-- The user a deletion has written is marked, and was stored before. -/
theorem marked_of_deletion {store : Backend} {loaded user : User} {deletedAt at_ : Millis}
    (live : loaded.Live) (same : user.id = loaded.id)
    (member : user ∈ (store.stored at_ (.updateUser loaded.id
      (loaded.changes (softDeleted loaded deletedAt)))).users) :
    ¬user.Live ∧ ∃ old ∈ store.users, old.id = loaded.id := by
  rcases mem_stored_users member with ⟨_, untouched⟩ | isInsert | ⟨old, present, _, isUpdate, rfl⟩
  · rw [same] at untouched
    exact (untouched _ rfl).elim
  · cases isInsert
  · obtain ⟨_, written⟩ := Write.updateUser.inj isUpdate
    refine ⟨?_, old, present, same⟩
    rw [User.Live, ← written, apply_softDeleted live]
    exact Option.some_ne_none _

/-- After a grounded write a user is torn only if it was torn before, by another
thread, or if the writing thread has written one half and goes on to write the other. -/
theorem Torn.after_write {operation : UserOperation} {write : Write} {after : Option Command}
    {store : Backend} {at_ : Millis} {id : ObjectId} (kept : deletionContract.keeps store)
    (grounded : Grounded deletionContract operation write after store)
    (applies : store.Applies write) (torn : Torn (store.stored at_ write) id) :
    ((∃ userId, operation = .deleteUser userId) ∧ write.Half store ∧
        ∃ command, after = some command ∧ SecondWrite id command) ∨
      (Torn store id ∧ ¬SecondWrite id (.write write at_)) := by
  obtain ⟨read, relied, _, issues⟩ := grounded
  by_cases deletion : ∃ userId, operation = .deleteUser userId
  swap
  · exact .inr (torn.of_quiet kept applies
      (issues.quiet fun userId same => deletion ⟨userId, same⟩))
  obtain ⟨userId, rfl⟩ := deletion
  cases issues with
  | requeue existing payload =>
      exact .inr (torn.of_quiet kept applies trivial)
  | @deletionStaged _ _ _ loaded row deletedAt live _ _ present announces =>
      have differ : id ≠ loaded.id := by
        rintro rfl
        obtain ⟨user, member, same, disagree⟩ := torn
        have event : Announced (store.stored at_ (.updateUser loaded.id
            (loaded.changes (softDeleted loaded deletedAt)))) loaded.id :=
          announced_stored.mpr (.inl (relied.2 loaded.id ⟨row, present, announces⟩))
        exact disagree ⟨fun _ => event, fun _ => (marked_of_deletion live same member).1⟩
      exact .inr ⟨torn.of_update differ, fun second => differ second.2.1.symm⟩
  | @deletionBeforeRow _ _ now loaded row deletedAt order _ live _ announces =>
      by_cases concerned : id = loaded.id
      · obtain ⟨user, member, same, disagree⟩ := torn
        obtain ⟨dead, old, present, identity⟩ :=
          marked_of_deletion live (same.trans concerned) member
        refine .inl ⟨⟨userId, rfl⟩, ⟨old, present, identity, fun event => ?_⟩, _, rfl, order,
          concerned ▸ announces⟩
        rw [← concerned] at event
        exact disagree ⟨fun _ => announced_stored.mpr (.inl event), fun _ => dead⟩
      · exact .inr ⟨torn.of_update concerned, fun second => concerned second.2.1.symm⟩
  | @rowBeforeDeletion _ _ now loaded row deletedAt order _ live _ announces =>
      by_cases concerned : id = loaded.id
      · obtain ⟨user, member, same, disagree⟩ := torn
        have named : user.hexId = loaded.hexId :=
          congrArg Libraries.toHexString (same.trans concerned)
        have event : Announced (store.stored at_ (.insertOutbox row)) id :=
          announced_stored.mpr (.inr ⟨row, rfl, concerned ▸ announces⟩)
        refine .inl ⟨⟨userId, rfl⟩, ⟨user, member, ?_, ?_⟩, _, rfl, order, concerned.symm, ?_⟩
        · rw [named]
          exact announces
        · by_contra dead
          exact disagree ⟨fun _ => event, fun _ => dead⟩
        · change changed loaded.deletedAt (some deletedAt) ≠ none
          rw [changed_of_ne (by rw [live]; exact (Option.some_ne_none _).symm)]
          exact Option.some_ne_none _
      · refine .inr ⟨torn.of_row concerned announces, fun second => ?_⟩
        have contrary : Libraries.outboxFirst = false := second.1
        rw [order] at contrary
        cases contrary
  | @rowAfterDeletion _ _ _ deleted row order member dead _ announces =>
      have differ : id ≠ deleted.id := by
        rintro rfl
        obtain ⟨user, inside, same, disagree⟩ := torn
        obtain ⟨stored, present, storedId, stillDead⟩ := relied.1 deleted member
        refine disagree ⟨fun _ => announced_stored.mpr (.inr ⟨row, rfl, announces⟩), fun _ => ?_⟩
        rw [kept.1.unique (show user ∈ store.users from inside) present (same.trans storedId.symm)]
        exact stillDead dead
      exact .inr ⟨torn.of_row differ announces,
        fun second => differ (deletionKey_injective (second.2.symm.trans announces))⟩

/-! ## Over every run -/

section Run

variable {start : Backend} {labels : List ServiceLabel}

/-- Whoever is torn at the position is mended by the next step of the thread that has just
torn it. -/
def Mending (start : Backend) (labels : List ServiceLabel) (position : Nat) : Prop :=
  ∀ id, Torn (standing start labels position).shared id →
    ∃ index thread command, (standing start labels position).threads[index]? = some thread ∧
      thread.pending = some command ∧ SecondWrite id command ∧
      ∃ before, position = before + 1 ∧ WritesHalf start labels before index

/-- In an unbroken run a torn user is mended by the next step. -/
theorem Mending.mends {position : Nat} {id : ObjectId} (mending : Mending start labels position)
    (unbroken : Unbroken start labels)
    (torn : Torn (standing start labels position).shared id) :
    ∃ index thread write at_, userService.PerformsAt ⟨start, []⟩ labels position index thread
        (.write write at_) ∧ (standing start labels position).shared.Applies write ∧
      SecondWrite id (.write write at_) := by
  obtain ⟨index, thread, command, present, pending, second, before, rfl, half⟩ := mending id torn
  obtain ⟨userId, write, writer, at_, performs, _, applies⟩ := unbroken before index half
  cases present.symm.trans performs.2.1
  cases pending.symm.trans performs.2.2
  exact ⟨index, thread, write, at_, performs, applies, second⟩

/-- Whoever is torn after a write has been torn by it. -/
theorem Mending.after_write {position index : Nat} {write : Write} {at_ : Millis}
    {thread : Thread UserOperation Command Reply ServiceError Answer}
    (sound : ServiceSound deletionContract (standing start labels position))
    (mending : Mending start labels position) (unbroken : Unbroken start labels)
    (performs : userService.PerformsAt ⟨start, []⟩ labels position index thread
      (.write write at_)) (applies : (standing start labels position).shared.Applies write) :
    Mending start labels (position + 1) := by
  intro id torn
  obtain ⟨next, running⟩ := performs.running
  have stepped : standing start labels (position + 1) = _ :=
    (System.before_succ performs.1).trans (next_write performs.2.1 running applies)
  rw [stepped] at torn ⊢
  rcases torn.after_write sound.keeps
      (sound.grounded (List.mem_of_getElem? performs.2.1) running) applies with
    ⟨⟨userId, deletion⟩, half, command, continues, second⟩ | ⟨before, first⟩
  · have inside := (List.getElem?_eq_some_iff.mp performs.2.1).1
    exact ⟨index, _, command, List.getElem?_set_self inside, continues, second, position, rfl,
      userId, write, ⟨thread, at_, performs, deletion, applies⟩, half⟩
  · obtain ⟨_, _, _, _, mends, _, second⟩ := mending.mends unbroken before
    obtain ⟨_, _, same⟩ := mends.unique performs
    exact (first (same ▸ second)).elim

/-- In an unbroken run the next position is mending again: a step that writes nothing tears
nobody, and before a write whoever was torn is the one it mends. -/
theorem Mending.next {position : Nat}
    (sound : ServiceSound deletionContract (standing start labels position))
    (mending : Mending start labels position) (unbroken : Unbroken start labels) :
    Mending start labels (position + 1) := by
  rcases standing_cases start labels position with
    ⟨users, outbox⟩ | ⟨_, _, _, _, ⟨_, _, performs, _, applies⟩, _⟩
  · intro id torn
    have before : Torn (standing start labels position).shared id := by
      unfold Torn Announced at torn ⊢
      rwa [users, outbox] at torn
    obtain ⟨_, _, _, _, performs, applies, _⟩ := mending.mends unbroken before
    exact mending.after_write sound unbroken performs applies id torn
  · exact mending.after_write sound unbroken performs applies

end Run

/-- A store before its first message in which markers and events agree. -/
structure Consistent (store : Backend) : Prop where
  kept : deletionContract.keeps store
  rows : DistinctRows store
  deletes : ∀ row ∈ store.outbox, row.Deletes
  agree : ∀ user ∈ store.users, ¬user.Live ↔ Announced store user.id

/-- In the empty store markers and events agree, as there are none. -/
theorem Consistent.empty : Consistent {} where
  kept := ⟨List.nodup_nil, fun _ announced => nomatch announced⟩
  rows := List.nodup_nil
  deletes _ member := nomatch member
  agree _ member := nomatch member

section Run

variable {start : Backend} {labels : List ServiceLabel}

/-- From a consistent start every state of a run is sound for the deletion contract. -/
theorem Consistent.sound (consistent : Consistent start) (position : Nat) :
    ServiceSound deletionContract (standing start labels position) := by
  have respects : userService.Respects deletionContract fun _ _ => True :=
    ⟨fun _ _ _ => trivial, fun {event pool} _ kept =>
      deletionContract_of_frame (environment_frame event pool.shared).1
        (environment_frame event pool.shared).2 kept⟩
  exact (ServiceSound.reaches deletionContract_tame respects (.initial consistent.kept)
    (.of_schedule _)).1

/-- From a consistent start every position of an unbroken run is mending. The induction is
on the position. -/
theorem Consistent.mending (consistent : Consistent start) (unbroken : Unbroken start labels)
    (position : Nat) : Mending start labels position := by
  induction position with
  | zero =>
      rintro id ⟨user, member, rfl, disagree⟩
      exact (disagree (consistent.agree user member)).elim
  | succ position ih => exact ih.next (consistent.sound position) unbroken

/-- Where the next step is not a write, markers and events agree. -/
theorem Consistent.agree_standing (consistent : Consistent start)
    (unbroken : Unbroken start labels) {position : Nat}
    (settled : ∀ index thread write at_,
      ¬userService.PerformsAt ⟨start, []⟩ labels position index thread (.write write at_)) :
    ∀ user ∈ (standing start labels position).shared.users,
      ¬user.Live ↔ Announced (standing start labels position).shared user.id := by
  intro user member
  by_contra disagree
  obtain ⟨index, thread, write, at_, performs, _⟩ :=
    (consistent.mending unbroken position).mends unbroken ⟨user, member, rfl, disagree⟩
  exact settled index thread write at_ performs

end Run

/-- Where nothing comes between the two writes of a deletion, soft-delete and event are
atomic, over every interleaving with any other operations and sweeps. -/
theorem deletionAtomic_of_unbroken (start : Backend) (consistent : Consistent start) :
    DeletionAtomic (Unbroken start) start := by
  intro labels unbroken
  refine ⟨?_, fun position index thread row payload performs => ?_⟩
  · rw [← System.before_length]
    exact consistent.agree_standing unbroken fun _ _ _ _ performs =>
      Nat.lt_irrefl _ performs.lt_length
  · obtain ⟨user, same, event, held, key⟩ :=
      deletes_of_performs consistent.rows consistent.deletes performs
    have announced : Announced (standing start labels position).shared user.id :=
      ⟨event, held, key⟩
    obtain ⟨stored, member, identity⟩ := (consistent.sound position).keeps.2 user.id announced
    refine ⟨stored, member, ?_, ?_⟩
    · rw [same, deletionEvent, deletionEvent, User.hexId, User.hexId, identity]
    · refine (consistent.agree_standing unbroken (fun _ _ _ _ writes => ?_) stored member).mpr
        (identity ▸ announced)
      cases (writes.unique performs).2.2

end Law

/-! ## A deletion and the sweep after it -/

section Published

/-- The bus starts, an account is created and deleted, and a sweep runs. -/
def deletionAndSweep : List ServiceLabel :=
  [.environment (.bus .channelCreated), .spawn (.createAutoregUser { fingerprint := "f" })] ++
    List.replicate 7 (.step 0) ++ [.spawn (.deleteUser (ObjectIds.toHexString 0))] ++
    List.replicate 8 (.step 1) ++ [.spawn .sweep] ++ List.replicate 10 (.step 2)

/-- Nothing comes between the two writes of its deletion, in either order. -/
theorem deletionAndSweep_unbroken (outboxFirst : Bool) :
    @Unbroken (plainLibraries outboxFirst true) {} deletionAndSweep := by
  let _ : Libraries := plainLibraries outboxFirst true
  have checked : ∀ outboxFirst, ∀ position < 29,
      ((@userService (plainLibraries outboxFirst true)).performed ⟨{}, []⟩ deletionAndSweep
        position).all fun done => done.2.2.write?.all fun write =>
          decide (@Write.Half (plainLibraries outboxFirst true)
            (@standing (plainLibraries outboxFirst true) {} deletionAndSweep position).shared
            write → position = 16) := by decide +kernel
  rintro position index ⟨userId, write, ⟨thread, at_, performs, _⟩, half⟩
  have only := checked outboxFirst position performs.lt_length
  rw [performs.performed] at only
  cases of_decide_eq_true only half
  cases performs.1
  cases outboxFirst
  · exact ⟨_, _, _, _, ⟨rfl, rfl, rfl⟩, rfl, by decide⟩
  · exact ⟨_, _, _, _, ⟨rfl, rfl, rfl⟩, rfl, by decide⟩

/-- In an order of the flush: the run deletes a user, whose event is stored, and publishes
the event of a user who is marked by then. -/
def DeletesAndPublishes (outboxFirst : Bool) : Prop :=
  letI : Libraries := plainLibraries outboxFirst true
  (∃ user ∈ (userService.schedule ⟨{}, []⟩ deletionAndSweep).shared.users, ¬user.Live ∧
      Announced (userService.schedule ⟨{}, []⟩ deletionAndSweep).shared user.id) ∧
    ∃ index thread row payload,
      userService.PerformsAt ⟨{}, []⟩ deletionAndSweep 21 index thread
        (.publishEvent row "user.deleted" payload) ∧
      ∃ user ∈ (standing {} deletionAndSweep 21).shared.users,
        payload = (deletionEvent user).payload ∧ ¬user.Live

/-- The run of a registration, a deletion and a sweep leaves a deleted user, in either order
of the flush's writes. -/
theorem deletionAndSweep_deletes (outboxFirst : Bool) :
    ∃ user ∈ ((@userService (plainLibraries outboxFirst true)).schedule ⟨{}, []⟩
      deletionAndSweep).shared.users, ¬user.Live := by
  revert outboxFirst
  decide +kernel

/-- In that run the sweep publishes the deletion, in either order of the flush's writes. -/
theorem deletionAndSweep_publishes (outboxFirst : Bool) :
    ∃ index thread row payload, (@userService (plainLibraries outboxFirst true)).PerformsAt ⟨{}, []⟩
      deletionAndSweep 21 index thread (.publishEvent row "user.deleted" payload) := by
  cases outboxFirst
  · exact ⟨2, _, 2, _, rfl, rfl, rfl⟩
  · exact ⟨2, _, 2, _, rfl, rfl, rfl⟩

/-- From the empty store a run registers and deletes a user and sweeps the outbox. In either
order of the flush's writes the deleted user has its event stored, and what is published is
of a user marked by then. -/
theorem deletionAtomic_from_empty : DeletesAndPublishes true ∧ DeletesAndPublishes false := by
  have both : ∀ outboxFirst, DeletesAndPublishes outboxFirst := by
    intro outboxFirst
    obtain ⟨agree, about⟩ := @deletionAtomic_of_unbroken (plainLibraries outboxFirst true) {}
      (@Consistent.empty (plainLibraries outboxFirst true)) deletionAndSweep
      (deletionAndSweep_unbroken outboxFirst)
    obtain ⟨user, member, dead⟩ := deletionAndSweep_deletes outboxFirst
    obtain ⟨index, thread, row, payload, performs⟩ := deletionAndSweep_publishes outboxFirst
    exact ⟨⟨user, member, dead, (agree user member).mp dead⟩, index, thread, row, payload, performs,
      about 21 index thread row payload performs⟩
  exact ⟨both true, both false⟩

end Published

/-! ## A crash between the two writes -/

section Crash

/-- An account is created and deleted; the process crashes after the first write
of the deletion's flush. -/
def crashedDeletion : List ServiceLabel :=
  [.spawn (.createAutoregUser { fingerprint := "f" })] ++ List.replicate 7 (.step 0) ++
    [.spawn (.deleteUser (ObjectIds.toHexString 0))] ++ List.replicate 7 (.step 1) ++ [.crash 1]

/-- In either order of the flush a crash leaves one write without the other: an
event for a live user, or a deleted user without event. -/
theorem not_deletionAtomic_of_crash :
    ¬@DeletionAtomic (plainLibraries true true) (fun _ => True) {} ∧
      ¬@DeletionAtomic (plainLibraries false true) (fun _ => True) {} := by
  have torn : ∀ outboxFirst,
      ∃ user ∈ ((@userService (plainLibraries outboxFirst true)).schedule ⟨{}, []⟩
        crashedDeletion).shared.users, ¬(¬user.Live ↔ @Announced (plainLibraries outboxFirst true)
          ((@userService (plainLibraries outboxFirst true)).schedule ⟨{}, []⟩
            crashedDeletion).shared user.id) := by decide
  refine ⟨fun atomic => ?_, fun atomic => ?_⟩
  · obtain ⟨user, member, disagree⟩ := torn true
    exact disagree ((atomic crashedDeletion trivial).1 user member)
  · obtain ⟨user, member, disagree⟩ := torn false
    exact disagree ((atomic crashedDeletion trivial).1 user member)

end Crash

end NestMonorepo
