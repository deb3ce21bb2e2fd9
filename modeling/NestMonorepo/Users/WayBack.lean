import NestMonorepo.Database.ObjectIds
import NestMonorepo.Users.Devices

/-! # Every live account has a way back in

An anonymous account is found through its one device row, a full account by its
password or a provider link. Messages and purge runs add and remove rows and
credentials for other reasons; the invariant that ties the three together is kept
by each of them.
-/

namespace NestMonorepo

open Collections Concurrency Handler UsersService

section Law

variable [Libraries] {store : Backend} {users : List User} {operation : UserOperation}
  {user loaded current : User}

/-! ## The invariant -/

omit [Libraries] in
/-- The number of device rows that point to a user. -/
def rowsOf (id : ObjectId) (devices : List Device) : Nat :=
  devices.countP fun device => decide (device.userId = id)

omit [Libraries] in
/-- What a full account is entered with. -/
def User.Enterable (user : User) : Prop :=
  (user.email.isSome ∧ user.passwordHash.isSome) ∨ user.oauthLinks ≠ []

omit [Libraries] in
/-- Nothing identifies the owner of the account. -/
def User.Anonymous (user : User) : Prop :=
  user.email = none ∧ user.passwordHash = none ∧ user.oauthLinks = []

omit [Libraries] in
/-- No live user is locked out. -/
def NoLockout (store : Backend) : Prop :=
  ∀ user ∈ store.users, user.Live →
    (user.accountType = .autoreg → rowsOf user.id store.devices = 1 ∧ user.Anonymous) ∧
    (user.accountType = .user → user.Enterable)

omit [Libraries] in
/-- What holds of one live record, wherever the device rows are. -/
structure User.Sound (user : User) : Prop where
  anonymous : user.accountType = .autoreg → user.Anonymous ∧ user.resetPasswordToken = none
  enterable : user.accountType = .user → user.Enterable

omit [Libraries] in
/-- The strengthened invariant. -/
structure WaysBack (store : Backend) : Prop where
  indexed : Indexed store
  users : ∀ user ∈ store.users, user.id < store.nextObjectId
  devices : ∀ device ∈ store.devices,
    device.id < store.nextObjectId ∧ device.userId < store.nextObjectId
  sound : ∀ user ∈ store.users, user.Live → user.Sound
  rows : ∀ user ∈ store.users, user.Live → user.accountType = .autoreg →
    rowsOf user.id store.devices = 1

omit [Libraries] in
/-- The strengthened invariant leaves no live user locked out. -/
theorem WaysBack.unlocked (ways : WaysBack store) : NoLockout store := by
  intro user member live
  have sound := ways.sound user member live
  exact ⟨fun anonymous => ⟨ways.rows user member live anonymous, (sound.anonymous anonymous).1⟩,
    sound.enterable⟩

/-! ## Records -/

omit [Libraries] in
/-- A full account is recognised by what only full accounts carry. -/
theorem User.Sound.full (sound : user.Sound)
    (identified : user.email ≠ none ∨ user.resetPasswordToken ≠ none) :
    user.accountType = .user := by
  cases kind : user.accountType with
  | user => rfl
  | autoreg =>
      obtain ⟨⟨unaddressed, _⟩, unrequested⟩ := sound.anonymous kind
      rcases identified with addressed | requested
      · exact (addressed unaddressed).elim
      · exact (requested unrequested).elim

omit [Libraries] in
/-- A record added by a message is sound. -/
theorem Adds.sound (adds : Adds operation store user) : user.Sound := by
  cases adds with
  | autoreg => exact ⟨fun _ => ⟨⟨rfl, rfl, rfl⟩, rfl⟩, nofun⟩
  | oauth => exact ⟨nofun, fun _ => .inr (List.cons_ne_nil _ _)⟩

/-- Every way of rewriting a live record leaves a sound one, and none makes an
account anonymous. -/
theorem Rewrites.sound (rewrites : Rewrites operation store loaded current)
    (sound : loaded.Sound) (live : current.Live) :
    current.Sound ∧ (current.accountType = .autoreg → loaded.accountType = .autoreg) := by
  have kept : ∀ {current : User}, current.accountType = .user → current.Enterable →
      current.Sound ∧ (current.accountType = .autoreg → loaded.accountType = .autoreg) := by
    intro current full enterable
    rw [full]
    exact ⟨⟨by rw [full]; exact nofun, fun _ => enterable⟩, nofun⟩
  cases rewrites with
  | upgraded _ _ credentials =>
      apply kept rfl
      cases credentials with
      | password => exact .inl ⟨rfl, rfl⟩
      | link => exact .inr (List.append_ne_nil_of_right_ne_nil _ (List.cons_ne_nil _ _))
  | merged _ addressed =>
      have full := sound.full (.inl (by rw [addressed]; exact nofun))
      exact kept full (.inr (List.append_ne_nil_of_right_ne_nil _ (List.cons_ne_nil _ _)))
  | resetRequested _ addressed =>
      have full := sound.full (.inl (by rw [addressed]; exact nofun))
      exact kept full (sound.enterable full)
  | passwordReset _ carried =>
      have full := sound.full (.inr (by rw [carried]; exact nofun))
      refine kept full ?_
      rcases sound.enterable full with ⟨addressed, _⟩ | linked
      · exact .inl ⟨addressed, rfl⟩
      · exact .inr linked
  | profile => exact ⟨⟨sound.anonymous, sound.enterable⟩, id⟩
  | deleted => cases live

omit [Libraries] in
/-- The stored copy is as sound as the modified one. -/
theorem User.Sound.written (sound : current.Sound) (loaded : User) :
    (written store loaded current).Sound :=
  ⟨sound.anonymous, sound.enterable⟩

/-- The records a message leaves are sound; the anonymous ones are old, or have
just been registered. -/
theorem WaysBack.records {outcome : Except ServiceError Answer} (ways : WaysBack store)
    (ends : Ends operation store users outcome) :
    ∀ user ∈ users, user.Live → user.Sound ∧
      (user.accountType = .autoreg →
        (∃ old ∈ store.users, old.id = user.id ∧ old.Live ∧ old.accountType = .autoreg) ∨
        ∃ payload, operation = .createAutoregUser payload ∧ user.id = store.nextObjectId) := by
  intro user member live
  rcases ends.record_cases ways.indexed.users member with
    old | ⟨adds, _⟩ | ⟨loaded, current, inside, alive, rewrites, rfl⟩
  · exact ⟨ways.sound user old live, fun anonymous => .inl ⟨user, old, rfl, live, anonymous⟩⟩
  · refine ⟨adds.sound, fun anonymous => .inr ?_⟩
    cases adds with
    | autoreg => exact ⟨_, rfl, rfl⟩
    | oauth => cases anonymous
  · obtain ⟨sound, still⟩ := rewrites.sound (ways.sound loaded inside alive) live
    exact ⟨sound.written loaded, fun anonymous =>
      .inl ⟨loaded, inside, rfl, alive, still anonymous⟩⟩

/-! ## Device rows -/

omit [Libraries] in
/-- A further row adds one to the count of its own user. -/
theorem rowsOf_append (id : ObjectId) (devices : List Device) (device : Device) :
    rowsOf id (devices ++ [device]) =
      rowsOf id devices + if device.userId = id then 1 else 0 := by
  simp only [rowsOf, List.countP_append, List.countP_singleton, decide_eq_true_eq]

omit [Libraries] in
/-- Rows of other users may go. -/
theorem rowsOf_filter {id : ObjectId} {devices : List Device} {keep : Device → Bool}
    (kept : ∀ device ∈ devices, device.userId = id → keep device = true) :
    rowsOf id (devices.filter keep) = rowsOf id devices := by
  rw [rowsOf, rowsOf, List.countP_filter]
  apply List.countP_congr
  intro device member
  simp only [Bool.and_eq_true, decide_eq_true_eq]
  exact ⟨And.left, fun owned => ⟨owned, kept device member owned⟩⟩

omit [Libraries] in
/-- A row seen again still points to its user. -/
theorem rowsOf_touched (id : ObjectId) (device : Device) (payload : AutoregPayload) :
    rowsOf id (touched store device payload) = rowsOf id store.devices := by
  unfold touched
  split
  · rfl
  · rw [rowsOf, rowsOf, modifyAt, List.countP_map]
    apply List.countP_congr
    intro row _
    change decide (Device.userId (if row.id = device.id then _ else row) = id) = true ↔ _
    split <;> rfl

omit [Libraries] in
/-- Clearing a fingerprint takes no row of an anonymous account. -/
theorem Cleared.rowsOf {fingerprint : String} {devices : List Device}
    (cleared : Cleared store fingerprint devices) (indexed : Indexed store)
    (member : user ∈ store.users) (anonymous : user.accountType = .autoreg) :
    rowsOf user.id devices = rowsOf user.id store.devices := by
  cases cleared with
  | unseen => rfl
  | stale seen _ leadsNowhere =>
      apply rowsOf_filter
      intro device present owned
      rw [Bool.not_eq_true', DeviceFilter.accepts, decide_eq_false_iff_not]
      intro same
      obtain rfl := indexed.unique present (fetch_some_mem seen) same
      refine leadsNowhere user ?_ anonymous
      rw [owned]
      exact fetch_of_mem indexed.users member

omit [Libraries] in
/-- The rows that are left after a clearing are old ones. -/
theorem Cleared.subset {fingerprint : String} {devices : List Device}
    (cleared : Cleared store fingerprint devices) : ∀ device ∈ devices, device ∈ store.devices := by
  cases cleared with
  | unseen => exact fun _ member => member
  | stale => exact fun _ member => (List.mem_filter.mp member).1

omit [Libraries] in
/-- A cleared fingerprint is free. -/
theorem Cleared.free {fingerprint : String} {devices : List Device}
    (cleared : Cleared store fingerprint devices) (indexed : Indexed store) :
    fetch Device.fingerprint fingerprint devices = none := by
  cases cleared with
  | unseen absent => exact absent
  | stale seen =>
      rw [fetch_eq_none]
      intro device member same
      obtain ⟨present, kept⟩ := List.mem_filter.mp member
      obtain rfl := List.inj_on_of_nodup_map indexed.fingerprints present (fetch_some_mem seen)
        (same.trans (fetch_some_key seen).symm)
      simp only [DeviceFilter.accepts, decide_true, Bool.not_true, Bool.false_eq_true] at kept

omit [Libraries] in
/-- No row points to a user yet to be created. -/
theorem rowsOf_fresh {devices : List Device} {bound : ObjectId}
    (older : ∀ device ∈ devices, device.userId < bound) : rowsOf bound devices = 0 := by
  rw [rowsOf, List.countP_eq_zero]
  intro device member
  simpa only [decide_eq_true_eq] using Nat.ne_of_lt (older device member)

/-! ## Every activity keeps the invariant -/

variable (store) in
/-- Ids are drawn for the users that are added: without a new user there may be no draw,
with one there is. -/
theorem findOrCreateOAuthUser_draws (payload : OAuthPayload) :
    ((UsersService.findOrCreateOAuthUser payload).runIn store).1.users.length =
        store.users.length ∨
      store.nextObjectId <
        ((UsersService.findOrCreateOAuthUser payload).runIn store).1.nextObjectId := by
  have creates : store.nextObjectId < ((createOAuthUser payload).runIn store).1.nextObjectId := by
    rw [createOAuthUser, runIn_now, runIn_newObjectId]
    exact runIn_nextObjectId _ { store with nextObjectId := store.nextObjectId + 1 }
  cases up : store.databaseUp with
  | false =>
      rw [UsersService.findOrCreateOAuthUser, runIn_findUser_down up]
      exact .inl rfl
  | true =>
      rw [UsersService.findOrCreateOAuthUser, runIn_findUser up]
      split
      · exact .inl rfl
      split
      · exact .inr creates
      rw [runIn_findUser up]
      split
      · exact .inr creates
      rw [runIn_now]
      dsimp only
      rw [merged_update, runIn_flush, runIn_writeAll_cons _ _ _ _ up]
      split
      · exact .inl (List.length_map _)
      · exact .inl rfl

/-- Users stay older than the next id, as every added one was drawn. -/
theorem WaysBack.users_apply (ways : WaysBack store) (spares : operation.SparesDevices) :
    ∀ user ∈ (serve operation store).1.users,
      user.id < (serve operation store).1.nextObjectId := by
  have later := runIn_nextObjectId (UsersController.handle operation) store
  change store.nextObjectId ≤ (serve operation store).1.nextObjectId at later
  intro user member
  rcases (serve_ends operation store).shape with same | ⟨added, adds, _, appended⟩ |
    ⟨loaded, current, _, _, _, same⟩
  · rw [same] at member
    exact lt_of_lt_of_le (ways.users user member) later
  · rw [appended] at member
    rcases List.mem_append.mp member with old | new
    · exact lt_of_lt_of_le (ways.users user old) later
    rw [List.mem_singleton.mp new]
    cases adds with
    | autoreg => exact spares.elim
    | @oauth payload =>
        have wrapped : (serve (.findOrCreateOAuthUser payload) store).1 =
            ((UsersService.findOrCreateOAuthUser payload).runIn store).1 :=
          congrArg Prod.fst (serve_eq rfl)
        rw [wrapped] at appended ⊢
        rcases findOrCreateOAuthUser_draws store payload with unchanged | drawn
        · rw [appended, List.length_append, List.length_singleton] at unchanged
          omega
        · exact drawn
  · have ids := congrArg (List.map User.id) same
    rw [rewritten_ids] at ids
    obtain ⟨old, inside, equal⟩ := List.mem_map.mp (ids ▸ List.mem_map_of_mem member)
    rw [← equal]
    exact lt_of_lt_of_le (ways.users old inside) later

/-- A registration leads to its account by exactly one row. The cases are the ways in which
it ends. -/
theorem WaysBack.registered {payload : AutoregPayload} {after : Backend}
    {outcome : Except ServiceError AutoregResult} (ways : WaysBack store)
    (ends : AutoregEnds payload store after outcome) (indexed : Indexed after) :
    WaysBack after := by
  have next : ∀ {id}, id < store.nextObjectId → id < store.nextObjectId + 2 :=
    fun old => Nat.lt_add_right 2 old
  have rows : ∀ {devices}, Cleared store payload.fingerprint devices → ∀ device ∈ devices,
      device.id < store.nextObjectId ∧ device.userId < store.nextObjectId :=
    fun cleared device member => ways.devices device (cleared.subset device member)
  cases ends with
  | failed error => exact ways
  | blocked => exact ways
  | seenAgain up leads =>
      refine ⟨indexed, ways.users, fun device member => ?_, ways.sound,
        fun user member live anonymous => ?_⟩
      · change device ∈ touched store _ payload at member
        unfold touched at member
        split at member
        · exact ways.devices device member
        · rcases mem_modifyAt member with ⟨old, _⟩ | ⟨old, inside, _, rfl⟩
          · exact ways.devices device old
          · exact ways.devices old inside
      · exact (rowsOf_touched user.id _ payload).trans (ways.rows user member live anonymous)
  | refused _ cleared =>
      refine ⟨indexed, fun user member => next (ways.users user member),
        fun device member => ⟨next (rows cleared device member).1,
          next (rows cleared device member).2⟩, ways.sound, fun user member live anonymous => ?_⟩
      exact (cleared.rowsOf ways.indexed member anonymous).trans
        (ways.rows user member live anonymous)
  | orphaned _ _ cleared _ taken =>
      -- the row's id is fresh and its fingerprint is free
      rcases taken with used | seen
      · refine (used (fetch_eq_none.mpr fun device member same => ?_)).elim
        exact Nat.ne_of_lt (lt_trans (rows cleared device member).1 (Nat.lt_succ_self _)) same
      · exact (seen (cleared.free ways.indexed)).elim
  | unowned _ _ _ taken =>
      -- the user's id is fresh as well
      refine (taken (fetch_eq_none.mpr fun user member => ?_)).elim
      exact Nat.ne_of_lt (ways.users user member)
  | created _ cleared =>
      refine ⟨indexed, fun user member => ?_, fun device member => ?_, fun user member live => ?_,
        fun user member live anonymous => ?_⟩
      · rcases List.mem_append.mp member with old | new
        · exact next (ways.users user old)
        · rw [List.mem_singleton.mp new]
          exact Nat.lt_add_of_pos_right Nat.two_pos
      · rcases List.mem_append.mp member with old | new
        · exact ⟨next (rows cleared device old).1, next (rows cleared device old).2⟩
        · rw [List.mem_singleton.mp new]
          exact ⟨Nat.lt_succ_self _, Nat.lt_add_of_pos_right Nat.two_pos⟩
      · rcases List.mem_append.mp member with old | new
        · exact ways.sound user old live
        · rw [List.mem_singleton.mp new]
          have adds : Adds (.createAutoregUser payload) store
              (autoregUser store.nextObjectId store.clock) := .autoreg
          exact adds.sound
      · change rowsOf user.id (_ ++ [_]) = 1
        rw [rowsOf_append]
        rcases List.mem_append.mp member with old | new
        · have other : (autoregDevice payload (store.nextObjectId + 1) store.nextObjectId
              store.clock).userId ≠ user.id := Nat.ne_of_gt (ways.users user old)
          rw [if_neg other, cleared.rowsOf ways.indexed old anonymous]
          exact ways.rows user old live anonymous
        · rw [List.mem_singleton.mp new]
          change rowsOf store.nextObjectId _ + (if store.nextObjectId = store.nextObjectId then 1
            else 0) = 1
          rw [rowsOf_fresh fun device inside => (rows cleared device inside).2, if_pos rfl]

/-- Every activity keeps every way back. The cases are the environment, the purge, and the
messages by what they do to devices. -/
theorem WaysBack.apply (ways : WaysBack store) (activity : Activity) :
    WaysBack (activity.apply store) := by
  have indexed := ways.indexed.apply activity
  cases activity with
  | environment event =>
      cases event <;> exact ⟨indexed, ways.users, ways.devices, ways.sound, ways.rows⟩
  | purge =>
      rw [Activity.apply, purge_run] at indexed ⊢
      by_cases up : store.databaseUp = true
      · rw [if_pos up] at indexed ⊢
        refine ⟨indexed, fun user member => ways.users user (List.mem_filter.mp member).1,
          fun device member => ways.devices device (List.mem_filter.mp member).1,
          fun user member => ways.sound user (List.mem_filter.mp member).1,
          fun user member live anonymous => ?_⟩
        obtain ⟨inside, spared⟩ := List.mem_filter.mp member
        refine (rowsOf_filter fun device _ owned => ?_).trans
          (ways.rows user inside live anonymous)
        rw [owned]
        exact spared
      · rw [if_neg up]
        exact ways
  | message operation =>
      have records := ways.records (serve_ends operation store)
      by_cases spares : operation.SparesDevices
      · have same := serve_devices spares store
        have later := runIn_nextObjectId (UsersController.handle operation) store
        refine ⟨indexed, ways.users_apply spares, fun device member => ?_,
          fun user member live => (records user member live).1,
          fun user member live anonymous => ?_⟩
        · rw [Activity.apply, same] at member
          obtain ⟨drawn, owned⟩ := ways.devices device member
          exact ⟨lt_of_lt_of_le drawn later, lt_of_lt_of_le owned later⟩
        · rw [Activity.apply, same]
          rcases (records user member live).2 anonymous with
            ⟨old, inside, equal, alive, still⟩ | ⟨payload, rfl, _⟩
          · rw [← equal]
            exact ways.rows old inside alive still
          · exact spares.elim
      cases operation with
      | createAutoregUser payload =>
          rcases createAutoregUser_message payload store with same | ⟨_, outcome, ends⟩
          · rw [Activity.apply, same]
            exact ways
          · exact ways.registered ends indexed
      | upgradeAccount userId payload =>
          obtain ⟨outcome, ends, _⟩ := upgradeAccount_message userId payload store
          rw [Activity.apply] at indexed ⊢
          generalize (serve (.upgradeAccount userId payload) store).1 = after
            at ends indexed records
          cases ends with
          | failed error => exact ⟨indexed, ways.users, ways.devices, ways.sound, ways.rows⟩
          | @upgraded _ loaded _ _ _ stored =>
              refine ⟨indexed, fun user member => ?_,
                fun device member => ways.devices device (List.mem_filter.mp member).1,
                fun user member live => (records user member live).1,
                fun user member live anonymous => ?_⟩
              · rcases mem_modifyAt member with ⟨old, _⟩ | ⟨old, inside, _, rfl⟩
                · exact ways.users user old
                · exact ways.users old inside
              · -- the upgraded account is not anonymous any more
                rcases mem_modifyAt member with ⟨old, differ⟩ | ⟨old, inside, same, rfl⟩
                · refine (rowsOf_filter fun device _ owned => ?_).trans
                    (ways.rows user old live anonymous)
                  rw [Bool.not_eq_true', DeviceFilter.accepts, decide_eq_false_iff_not, owned]
                  exact differ
                · rw [ways.indexed.users.unique inside (fetch_some_mem stored) same,
                    User.apply_changes] at anonymous
                  cases anonymous
      | _ => exact (spares trivial).elim

omit [Libraries] in
/-- In the empty store every way back is open, as there are no users. -/
theorem WaysBack.empty : WaysBack {} where
  indexed := .empty
  users _ member := nomatch member
  devices _ member := nomatch member
  sound _ member := nomatch member
  rows _ member := nomatch member

/-- Whatever messages and purge runs have followed one another from the empty
store, no live user is locked out. -/
theorem noLockout (maintained : Maintained AnyActivity {} store) : NoLockout store := by
  have ways : WaysBack store := by
    apply maintained.invariant WaysBack
    · exact .empty
    · exact fun activity _ ways _ => ways.apply activity
  exact ways.unlocked

end Law

section Upgraded

open scoped Plain

/-- A registration, its upgrade by email, a second registration, and a purge run. -/
def upgradedAndRegistered : List Activity :=
  [.message (.createAutoregUser { fingerprint := "f" }),
    .message (.upgradeAccount (ObjectIds.toHexString 0)
      { method := .email, email := some "a@b", password := some "p" }),
    .message (.createAutoregUser { fingerprint := "f" }), .purge]

/-- The premises are met by an upgraded account and a registration after it: each has one
way back. -/
theorem noLockout_upgradedAndRegistered : NoLockout (performAll upgradedAndRegistered {}) :=
  noLockout (.of_performAll .start upgradedAndRegistered)

end Upgraded

end NestMonorepo
