import NestMonorepo.Users.Runs

/-! # What a message does to one record

Served alone, a message leaves the users as they are, adds one under a fresh id,
or rewrites one live user. A property of single records is kept by every message
once it is checked for the records added and for each way of rewriting one.
-/

namespace NestMonorepo

open Collections Concurrency Handler UsersService

section Law

variable [Libraries] {operation : UserOperation} {store : Backend} {users : List User}
  {outcome : Except ServiceError Answer} {loaded current user version : User}

/-- The users a message may add. -/
inductive Adds : UserOperation → Backend → User → Prop
  | autoreg {payload store} :
      Adds (.createAutoregUser payload) store (autoregUser store.nextObjectId store.clock)
  | oauth {payload store} :
      store.users.find? (UserFilter.byLinkLive payload.provider payload.providerUserId).accepts =
        none →
      emailTaken store.users store.nextObjectId payload.email = false →
      Adds (.findOrCreateOAuthUser payload) store
        (oauthUser payload store.nextObjectId store.clock)

/-- The modified copies of a loaded user that a message may store. -/
inductive Rewrites : UserOperation → Backend → User → User → Prop
  | upgraded {userId payload store loaded current} :
      Libraries.ofHexString userId = some loaded.id → loaded.accountType = .autoreg →
      Credentials payload loaded current →
      Rewrites (.upgradeAccount userId payload) store loaded (upgraded current payload store.clock)
  | merged {payload store loaded} {email : String} : payload.mergeEmail = some email →
      loaded.email = some email →
      Rewrites (.findOrCreateOAuthUser payload) store loaded (merged loaded payload store.clock)
  | resetRequested {email store loaded} :
      store.users.find? (UserFilter.byEmailLive email).accepts = some loaded →
      loaded.email = some email →
      Rewrites (.forgotPassword email) store loaded
        (resetRequested loaded (Libraries.randomHex store.randomDraws) store.clock)
  | passwordReset {token newPassword store loaded} :
      store.users.find? (UserFilter.byResetTokenLive (hashResetToken token)).accepts =
        some loaded →
      loaded.resetPasswordToken = some (hashResetToken token) →
      Rewrites (.resetPassword token newPassword) store loaded
        (passwordReset loaded (Libraries.argon2Hash store.randomDraws newPassword))
  | profile {userId data store loaded} : Libraries.ofHexString userId = some loaded.id →
      Rewrites (.updateUser userId data) store loaded (data.applyTo loaded)
  | deleted {userId store loaded} : Libraries.ofHexString userId = some loaded.id →
      Rewrites (.deleteUser userId) store loaded (softDeleted loaded store.clock)

omit [Libraries] in
/-- The record once a modified copy has been stored. -/
def written (store : Backend) (loaded current : User) : User :=
  { current with id := loaded.id, createdAt := loaded.createdAt, updatedAt := store.clock }

/-- However an operation ends, the users are as before, one was added, or one was rewritten.
Most invariants need no more of an operation. -/
theorem Ends.shape (ends : Ends operation store users outcome) :
    users = store.users ∨
    (∃ added, Adds operation store added ∧ fetch User.id added.id store.users = none ∧
      users = store.users ++ [added]) ∨
    ∃ loaded current, loaded ∈ store.users ∧ loaded.Live ∧
      Rewrites operation store loaded current ∧ users = rewritten store loaded current := by
  cases ends with
  | created _ _ fresh => exact .inr (.inl ⟨_, .autoreg, fresh, rfl⟩)
  | oauthCreated _ unlinked _ fresh free =>
      exact .inr (.inl ⟨_, .oauth unlinked free, fresh, rfl⟩)
  | upgraded _ parsed stored live anonymous credentials =>
      exact .inr (.inr ⟨_, _, fetch_some_mem stored, live, .upgraded parsed anonymous credentials,
        rfl⟩)
  | oauthMerged _ _ attested found =>
      obtain ⟨addressed, live⟩ := UserFilter.accepts_byEmailLive.mp (List.find?_some found)
      exact .inr (.inr ⟨_, _, List.mem_of_find?_eq_some found, live, .merged attested addressed,
        rfl⟩)
  | resetRequested found =>
      obtain ⟨addressed, live⟩ := UserFilter.accepts_byEmailLive.mp (List.find?_some found)
      exact .inr (.inr ⟨_, _, List.mem_of_find?_eq_some found, live,
        .resetRequested found addressed, rfl⟩)
  | passwordReset found =>
      have accepted := UserFilter.accepts_byResetTokenLive.mp (List.find?_some found)
      exact .inr (.inr ⟨_, _, List.mem_of_find?_eq_some found, accepted.2,
        .passwordReset found accepted.1, rfl⟩)
  | profile parsed stored live =>
      exact .inr (.inr ⟨_, _, fetch_some_mem stored, live, .profile parsed, rfl⟩)
  | deleted parsed stored live =>
      exact .inr (.inr ⟨_, _, fetch_some_mem stored, live, .deleted parsed, rfl⟩)
  | _ => exact .inl rfl

/-! ## Distinct ids -/

omit [Libraries] in
/-- Rewriting one record changes no id. -/
theorem rewritten_ids (store : Backend) (loaded current : User) :
    (rewritten store loaded current).map User.id = store.users.map User.id := by
  rw [rewritten]
  exact modifyAt_keys fun user => User.apply_id user _ _

omit [Libraries] in
/-- A rewritten collection holds old users and the modified copy. -/
theorem mem_rewritten (distinct : DistinctIds store) (member : loaded ∈ store.users)
    (present : user ∈ rewritten store loaded current) :
    user ∈ store.users ∨ user = written store loaded current := by
  rcases mem_modifyAt present with ⟨old, _⟩ | ⟨old, inside, same, rfl⟩
  · exact .inl old
  · rw [distinct.unique inside member same, User.apply_changes]
    exact .inr rfl

omit [Libraries] in
/-- A stored user that is rewritten is stored as written. -/
theorem written_mem_rewritten (member : loaded ∈ store.users) :
    written store loaded current ∈ rewritten store loaded current := by
  have rewrote : loaded.apply (loaded.changes current) store.clock ∈
      rewritten store loaded current := mem_modifyAt_of_eq member rfl
  rwa [User.apply_changes] at rewrote

/-- However an operation ends, the ids stay distinct. -/
theorem Ends.nodup (ends : Ends operation store users outcome) (distinct : DistinctIds store) :
    (users.map User.id).Nodup := by
  rcases ends.shape with rfl | ⟨added, _, fresh, rfl⟩ | ⟨loaded, current, _, _, _, rfl⟩
  · exact distinct
  · exact nodup_keys_append distinct fresh
  · rw [rewritten_ids]
    exact distinct

/-- Messages served one after another never store two users under one id. -/
theorem Served.distinct {start store : Backend} (served : Served start store)
    (initial : DistinctIds start) : DistinctIds store := by
  induction served with
  | start => exact initial
  | serve operation _ ih => exact (serve_ends operation _).nodup ih
  | environment event _ ih =>
      rw [DistinctIds, (environment_frame event _).1]
      exact ih

/-! ## One record -/

/-- Where a record left by a message comes from. -/
theorem Ends.record_cases (ends : Ends operation store users outcome)
    (distinct : DistinctIds store) (member : version ∈ users) :
    version ∈ store.users ∨
    (Adds operation store version ∧ fetch User.id version.id store.users = none) ∨
    ∃ loaded current, loaded ∈ store.users ∧ loaded.Live ∧
      Rewrites operation store loaded current ∧ version = written store loaded current := by
  rcases ends.shape with rfl | ⟨added, adds, fresh, rfl⟩ |
    ⟨loaded, current, inside, live, rewrites, rfl⟩
  · exact .inl member
  · rcases List.mem_append.mp member with old | new
    · exact .inl old
    · rw [List.mem_singleton.mp new]
      exact .inr (.inl ⟨adds, fresh⟩)
  · rcases mem_rewritten distinct inside member with old | new
    · exact .inl old
    · exact .inr (.inr ⟨loaded, current, inside, live, rewrites, new⟩)

/-- What becomes of a record: it is still there, or it was live and rewritten. -/
theorem Ends.keeps_or_rewrites (ends : Ends operation store users outcome)
    (distinct : DistinctIds store) (member : user ∈ store.users) :
    user ∈ users ∨
    ∃ current, user.Live ∧ Rewrites operation store user current ∧
      written store user current ∈ users := by
  rcases ends.shape with rfl | ⟨added, _, _, rfl⟩ | ⟨loaded, current, inside, live, rewrites, rfl⟩
  · exact .inl member
  · exact .inl (List.mem_append_left _ member)
  · by_cases same : user.id = loaded.id
    · obtain rfl := distinct.unique member inside same
      exact .inr ⟨current, live, rewrites, written_mem_rewritten member⟩
    · exact .inl (mem_modifyAt_of_ne member same)

end Law

end NestMonorepo
