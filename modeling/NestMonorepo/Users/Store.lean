import NestMonorepo.Users.Handlers

/-! # What grounded writes do to the stored users

Users are inserted under fresh ids and rewritten in place, never removed and
never brought back to life. A relation between a document and its later versions
is carried from store to store once every update respects it.
-/

namespace NestMonorepo

open Collections Concurrency Handler UsersService

/-- The ids of the stored users are distinct. -/
def DistinctIds (store : Backend) : Prop := (store.users.map User.id).Nodup

/-- Two stored users with one id are the same user. -/
theorem DistinctIds.unique {store : Backend} (distinct : DistinctIds store) {first second : User}
    (left : first ∈ store.users) (right : second ∈ store.users) (same : first.id = second.id) :
    first = second :=
  List.inj_on_of_nodup_map distinct left right same

/-- The index on the ids admits a new user under a new id only. -/
theorem Backend.Applies.fetch_user {store : Backend} {user : User}
    (applies : store.Applies (.insertUser user)) : fetch User.id user.id store.users = none := by
  cases taken : fetch User.id user.id store.users with
  | none => rfl
  | some other =>
      have clean := applies.2
      simp only [Backend.violation, taken, Option.isSome_some, ↓reduceIte, reduceCtorEq] at clean

/-- A write that applies keeps the ids distinct. -/
theorem DistinctIds.stored {store : Backend} {write : Write} (distinct : DistinctIds store)
    (applies : store.Applies write) (at_ : Millis) : DistinctIds (store.stored at_ write) := by
  cases write with
  | insertUser user =>
      exact nodup_keys_append distinct applies.fetch_user
  | updateUser id changes =>
      change ((modifyAt User.id id (·.apply changes at_) store.users).map User.id).Nodup
      rw [modifyAt_keys fun user => User.apply_id user changes at_]
      exact distinct
  | insertDevice device => exact distinct
  | insertOutbox row => exact distinct
  | updateDevice id changes => exact distinct
  | updateOutbox id changes => exact distinct

/-- Where a stored user comes from. -/
theorem mem_stored_users {store : Backend} {write : Write} {at_ : Millis} {user : User}
    (member : user ∈ (store.stored at_ write).users) :
    (user ∈ store.users ∧ ∀ changes, write ≠ .updateUser user.id changes) ∨
      write = .insertUser user ∨
      ∃ old ∈ store.users, ∃ changes, write = .updateUser old.id changes ∧
        user = old.apply changes at_ := by
  cases write with
  | insertUser added =>
      rcases List.mem_append.mp member with present | single
      · exact .inl ⟨present, fun _ => nofun⟩
      · exact .inr (.inl (by rw [List.mem_singleton.mp single]))
  | updateUser id changes =>
      rcases mem_modifyAt member with ⟨present, differ⟩ | ⟨old, present, rfl, rfl⟩
      · refine .inl ⟨present, fun other same => differ ?_⟩
        cases same
        rfl
      · exact .inr (.inr ⟨old, present, changes, rfl, rfl⟩)
  | _ => exact .inl ⟨member, fun _ => nofun⟩

/-- Every user of the first store has a later version in the second, related to
it. -/
def Carried (related : User → User → Prop) (store later : Backend) : Prop :=
  ∀ user ∈ store.users, ∃ version ∈ later.users, version.id = user.id ∧ related user version

section Carried

variable {related : User → User → Prop} {first second third store : Backend}

/-- Users that are left alone are carried over, by any reflexive relation. -/
theorem Carried.of_users_eq (refl : ∀ user, related user user) (same : second.users = first.users) :
    Carried related first second :=
  fun user member => ⟨user, same ▸ member, rfl, refl user⟩

/-- Users carried over twice are carried over, by any transitive relation. -/
theorem Carried.trans (trans : ∀ {a b c}, related a b → related b c → related a c)
    (left : Carried related first second) (right : Carried related second third) :
    Carried related first third := by
  intro user member
  obtain ⟨middle, present, same, before⟩ := left user member
  obtain ⟨last, inside, equal, after⟩ := right middle present
  exact ⟨last, inside, equal.trans same, trans before after⟩

/-- One write carries the relation when its update of a user, if it is one,
respects it. -/
theorem Carried.stored (refl : ∀ user, related user user) (write : Write) (at_ : Millis)
    (updated : ∀ id changes, write = .updateUser id changes → ∀ user ∈ store.users,
      user.id = id → related user (user.apply changes at_)) :
    Carried related store (store.stored at_ write) := by
  cases write with
  | insertUser added =>
      exact fun user member => ⟨user, List.mem_append_left _ member, rfl, refl user⟩
  | updateUser id changes =>
      intro user member
      by_cases same : user.id = id
      · exact ⟨user.apply changes at_, mem_modifyAt_of_eq member same, rfl,
          updated id changes rfl user member same⟩
      · exact ⟨user, mem_modifyAt_of_ne member same, rfl, refl user⟩
  | insertDevice device => exact .of_users_eq refl rfl
  | insertOutbox row => exact .of_users_eq refl rfl
  | updateDevice id changes => exact .of_users_eq refl rfl
  | updateOutbox id changes => exact .of_users_eq refl rfl

end Carried

/-! ## Contracts about versions of a user -/

section Contracts

variable [Libraries] {contract : ServiceContract} {related : User → User → Prop}

/-- A contract that carries a relation is tame once every update it permits
respects the relation. -/
theorem Tame.of_carried (refl : ∀ user, related user user)
    (rely : ∀ {store later}, contract.rely store later ↔ Carried related store later)
    (keeps : ∀ {store}, contract.keeps store ↔ DistinctIds store)
    (updated : ∀ {operation read store id changes after at_},
      WriteOf contract operation read (.updateUser id changes) after →
      contract.permitted (.write (.updateUser id changes) at_) store →
      store.Applies (.updateUser id changes) → ∀ user ∈ store.users, user.id = id →
        related user (user.apply changes at_)) : Tame contract where
  persist relies user member :=
    let ⟨later, present, same, _⟩ := rely.mp relies user member
    ⟨later, present, same⟩
  plain command store plain _ kept := by
    have same := (plain.frame store).1
    refine ⟨keeps.mpr ?_, rely.mpr (.of_users_eq refl same)⟩
    rw [DistinctIds, same]
    exact keeps.mp kept
  writes := by
    intro operation write at_ after store ⟨read, _, _, issues⟩ permitted kept applies
    refine ⟨keeps.mpr ((keeps.mp kept).stored applies at_), rely.mpr (.stored refl write at_ ?_)⟩
    rintro id changes rfl user member same
    exact updated issues permitted applies user member same

/-- A contract that carries a relation over the users is respected by every run whose
commands it permits, as the environment leaves the users alone. -/
theorem respects_of_carried {allowed : ServiceLabel → ServicePool → Prop}
    (refl : ∀ user, related user user)
    (rely : ∀ {store later}, contract.rely store later ↔ Carried related store later)
    (keeps : ∀ {store}, contract.keeps store ↔ DistinctIds store)
    (permits : ∀ {index pool thread command}, allowed (.step index) pool →
      pool.threads[index]? = some thread → thread.pending = some command →
        contract.permitted command pool.shared) : userService.Respects contract allowed where
  permits := permits
  environment {event pool} _ kept := by
    have same := (environment_frame event pool.shared).1
    refine ⟨keeps.mpr ?_, rely.mpr (.of_users_eq refl same)⟩
    change ((Backend.environment event pool.shared).users.map User.id).Nodup
    rw [same]
    exact keeps.mp kept

end Contracts

/-! ## The soft-delete marker and the token version -/

/-- A live user's changeset sets the soft-delete marker or leaves it alone. -/
theorem User.changes_deletedAt_ne {loaded : User} (live : loaded.Live) (current : User) :
    (loaded.changes current).deletedAt ≠ some none := by
  intro revived
  change changed loaded.deletedAt current.deletedAt = some none at revived
  unfold changed at revived
  split at revived
  · cases revived
  · rename_i differ
    exact differ (live.trans (Option.some.inj revived).symm)

/-- A document that is live after an update was live before, and its marker was
left alone. -/
theorem User.live_of_apply {stored : User} {changes : UserChanges} {at_ : Millis}
    (kept : changes.deletedAt ≠ some none) (live : (stored.apply changes at_).Live) :
    stored.Live ∧ changes.deletedAt = none := by
  change changes.deletedAt.getD stored.deletedAt = none at live
  cases marker : changes.deletedAt with
  | none => exact ⟨by rwa [marker] at live, rfl⟩
  | some value =>
      rw [marker] at live kept
      exact (kept (congrArg some live)).elim

variable [Libraries] {contract : ServiceContract} {operation : UserOperation} {read : Backend}
  {id : ObjectId} {changes : UserChanges} {after : Option Command}

/-- The updated user is a stored one. -/
theorem WriteOf.target
    (issues : WriteOf contract operation read (.updateUser id changes) after) :
    ∃ stored ∈ read.users, stored.id = id := by
  cases issues with
  | deletionStaged deletedAt live persists => exact persists
  | _ => exact ⟨_, ‹_›, rfl⟩

/-- No handler removes a soft-delete marker. -/
theorem WriteOf.never_revives
    (issues : WriteOf contract operation read (.updateUser id changes) after) :
    changes.deletedAt ≠ some none := by
  cases issues <;> exact User.changes_deletedAt_ne ‹_› _

/-- No handler but `deleteUser` sets one. -/
theorem WriteOf.deletedAt_eq_none
    (issues : WriteOf contract operation read (.updateUser id changes) after)
    (other : ∀ userId, operation ≠ .deleteUser userId) : changes.deletedAt = none := by
  cases issues with
  | upgrade upgradedAt _ _ _ _ credentials =>
      cases credentials <;> exact changed_self _
  | deletionStaged => exact (other _ rfl).elim
  | deletionBeforeRow => exact (other _ rfl).elim
  | _ => exact changed_self _

/-- `deleteUser` does. -/
theorem WriteOf.deletedAt_ne_none
    (issues : WriteOf contract operation read (.updateUser id changes) after)
    (userId : String) (deletion : operation = .deleteUser userId) : changes.deletedAt ≠ none := by
  subst deletion
  have marked : ∀ {loaded : User} (deletedAt : Millis), loaded.Live →
      changed loaded.deletedAt (some deletedAt) ≠ none := by
    intro loaded deletedAt live
    rw [changed_of_ne (by rw [live]; exact nofun)]
    exact nofun
  cases issues with
  | deletionStaged deletedAt live => exact marked deletedAt live
  | deletionBeforeRow deletedAt _ _ live => exact marked deletedAt live

/-- The operations that revoke the refresh tokens of a user. -/
def UserOperation.Revokes : UserOperation → Prop
  | .resetPassword _ _ => True
  | .upgradeAccount _ _ => True
  | .deleteUser _ => True
  | _ => False

/-- A revoking operation writes a token version; the other ones leave it alone. -/
theorem WriteOf.tokenVersion_of_revokes
    (issues : WriteOf contract operation read (.updateUser id changes) after)
    (revokes : operation.Revokes) : ∃ version, changes.tokenVersion = some version := by
  cases issues with
  | upgrade upgradedAt _ _ _ _ credentials =>
      refine ⟨_, changed_of_ne (?_ : _ ≠ _)⟩
      rw [← credentials.tokenVersion]
      exact (Nat.succ_ne_self _).symm
  | reset passwordHash => exact ⟨_, changed_of_ne (Nat.succ_ne_self _).symm⟩
  | deletionStaged deletedAt => exact ⟨_, changed_of_ne (Nat.succ_ne_self _).symm⟩
  | deletionBeforeRow deletedAt => exact ⟨_, changed_of_ne (Nat.succ_ne_self _).symm⟩
  | merge => exact revokes.elim
  | resetRequest => exact revokes.elim
  | profile => exact revokes.elim

end NestMonorepo
