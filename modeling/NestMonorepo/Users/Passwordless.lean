import NestMonorepo.Users.Anonymous

/-! # Anonymous accounts have no password

An account gets a password hash with its upgrade, or with a reset token that only an
account with an email can ask for. So no anonymous account has one, in any interleaving;
and the unique indexes keep their keys apart whatever command is performed.
-/

namespace NestMonorepo

open Collections Concurrency Handler UsersService

/-- No anonymous account has a password hash. -/
def Passwordless (store : Backend) : Prop :=
  ∀ user ∈ store.users, user.accountType = .autoreg → user.passwordHash = none

section Law

variable [Libraries] {store : Backend}

/-! ## Unique indexes -/

omit [Libraries] in
/-- A write that applies keeps the indexes, as the database checks them before it stores. -/
theorem Indexed.stored (indexed : Indexed store) {write : Write} (applies : store.Applies write)
    (at_ : Millis) : Indexed (store.stored at_ write) := by
  have users := indexed.users.stored applies at_
  cases write with
  | insertDevice device =>
      have clean := applies.2
      simp only [Backend.violation] at clean
      split at clean
      · cases clean
      · rename_i unused
        split at clean
        · cases clean
        · rename_i unseen
          refine ⟨users, nodup_keys_append indexed.devices ?_,
            nodup_keys_append indexed.fingerprints ?_⟩
          · exact Option.not_isSome_iff_eq_none.mp unused
          · exact Option.not_isSome_iff_eq_none.mp unseen
  | updateDevice id changes =>
      refine ⟨users, ?_, ?_⟩
      · change ((modifyAt Device.id id (·.apply changes at_) store.devices).map Device.id).Nodup
        rw [modifyAt_keys fun device => Device.apply_id device changes at_]
        exact indexed.devices
      · change ((modifyAt Device.id id (·.apply changes at_) store.devices).map
          Device.fingerprint).Nodup
        have kept : (modifyAt Device.id id (·.apply changes at_) store.devices).map
            Device.fingerprint = store.devices.map Device.fingerprint := by
          unfold modifyAt
          rw [List.map_map]
          apply List.map_congr_left
          intro row _
          change Device.fingerprint (if row.id = id then _ else row) = row.fingerprint
          split <;> rfl
        rw [kept]
        exact indexed.fingerprints
  | insertUser user => exact ⟨users, indexed.devices, indexed.fingerprints⟩
  | updateUser id changes => exact ⟨users, indexed.devices, indexed.fingerprints⟩
  | insertOutbox row => exact ⟨users, indexed.devices, indexed.fingerprints⟩
  | updateOutbox id changes => exact ⟨users, indexed.devices, indexed.fingerprints⟩

/-- No command breaks a unique index. -/
theorem Indexed.exec (indexed : Indexed store) (command : Command) :
    Indexed (Backend.exec command store).1 := by
  have effect := Backend.exec_effect command store
  generalize (Backend.exec command store).1 = after at effect
  cases effect with
  | stored applies => exact indexed.stored applies _
  | deletedDevices =>
      exact ⟨indexed.users, nodup_keys_filter indexed.devices _,
        nodup_keys_filter indexed.fingerprints _⟩
  | deletedUser =>
      exact ⟨nodup_keys_filter indexed.users _, indexed.devices, indexed.fingerprints⟩
  | _ => exact ⟨indexed.users, indexed.devices, indexed.fingerprints⟩

/-! ## Passwords -/

/-- An account that is anonymous after a flush is given no password by it. -/
theorem WriteOf.passwordHash_eq_none {operation : UserOperation} {read : Backend} {id : ObjectId}
    {changes : UserChanges} {after : Option Command} {user : User} {at_ : Millis}
    (issues : WriteOf anonymity operation read (.updateUser id changes) after)
    (kept : anonymity.keeps read)
    (succeeds : ∀ loaded ∈ read.users, loaded.id = id → Succeeds loaded user)
    (without : user.accountType = .autoreg → user.passwordHash = none)
    (anonymous : (user.apply changes at_).accountType = .autoreg) :
    (user.apply changes at_).passwordHash = none := by
  change changes.passwordHash.getD user.passwordHash = none
  obtain ⟨untyped, former⟩ := issues.untyped anonymous
  have unchanged : ∀ loaded current : Option String, loaded = current →
      (changed loaded current).getD user.passwordHash = none := by
    intro loaded current same
    rw [same, changed_self, Option.getD_none, without former]
  cases issues with
  | @upgrade _ _ _ _ loaded _ _ _ _ _ typed =>
      change changed loaded.accountType .user = none at untyped
      rw [typed, changed_of_ne (by decide)] at untyped
      cases untyped
  | @reset _ _ _ _ loaded passwordHash member live requested =>
      -- only a full account can have asked for a token
      cases kind : loaded.accountType with
      | autoreg => exact nomatch (kept.2 loaded member kind).resetPasswordToken.symm.trans requested
      | user => exact nomatch former.symm.trans ((succeeds loaded member rfl).full kind)
  | merge => exact unchanged _ _ rfl
  | resetRequest => exact unchanged _ _ rfl
  | profile => exact unchanged _ _ rfl
  | deletionStaged =>
      rw [without former]
      exact getD_changed_none _
  | deletionBeforeRow =>
      rw [without former]
      exact getD_changed_none _

/-- Accounts inserted anonymously have no password, and flushes give them none. -/
theorem Passwordless.stored {operation : UserOperation} {write : Write} {after : Option Command}
    {at_ : Millis} (passwordless : Passwordless store)
    (grounded : Grounded anonymity operation write after store) (kept : anonymity.keeps store) :
    Passwordless (store.stored at_ write) := by
  obtain ⟨read, moved, keptRead, issues⟩ := grounded
  intro user member anonymous
  rcases mem_stored_users member with ⟨present, _⟩ | rfl | ⟨old, present, changes, rfl, rfl⟩
  · exact passwordless user present anonymous
  · cases issues with
    | autoregUser => rfl
    | oauthUser => rfl
  · refine issues.passwordHash_eq_none keptRead (fun loaded inside same => ?_)
      (passwordless old present) anonymous
    obtain ⟨version, found, equal, succeeds⟩ := moved loaded inside
    rwa [kept.1.unique found present (equal.trans same)] at succeeds

/-! ## Every reachable state -/

/-- In every state of the service no anonymous account has a password, and the unique
indexes hold. -/
theorem passwordless {pool : ServicePool}
    (reached : userService.Reaches (fun _ _ => True) ⟨{}, []⟩ pool) :
    Passwordless pool.shared ∧ Indexed pool.shared := by
  suffices sound : ServiceSound anonymity pool ∧ Passwordless pool.shared ∧ Indexed pool.shared from
    sound.2
  apply reached.invariant fun pool =>
    ServiceSound anonymity pool ∧ Passwordless pool.shared ∧ Indexed pool.shared
  · refine ⟨.initial ⟨List.nodup_nil, fun _ none => nomatch none⟩, ?_, Indexed.empty⟩
    exact fun _ none => nomatch none
  · intro label pool ⟨sound, passwordless, indexed⟩ _
    refine ⟨(sound.reaches anonymity_tame anonymity_respects (.step label .refl trivial)).1, ?_⟩
    rcases userService.shared_next label pool with
      same | ⟨thread, member, command, next, running, same⟩ | ⟨event, same⟩
    · rw [same]
      exact ⟨passwordless, indexed⟩
    · rw [same]
      refine ⟨?_, indexed.exec command⟩
      rcases sound.plain_or_write member running with plain | ⟨write, at_, rfl⟩
      · change Passwordless (Backend.exec command pool.shared).1
        rw [Passwordless, (plain.frame pool.shared).1]
        exact passwordless
      · change Passwordless (Backend.exec (.write write at_) pool.shared).1
        by_cases applies : pool.shared.Applies write
        · rw [Backend.exec_write_of_applies applies]
          exact passwordless.stored (sound.grounded member running) sound.keeps
        · rw [Backend.exec_write_of_not_applies applies]
          exact passwordless
    · rw [same]
      refine ⟨?_, ?_⟩
      · change Passwordless (Backend.environment event pool.shared)
        rw [Passwordless, (environment_frame event pool.shared).1]
        exact passwordless
      · cases event <;> exact ⟨indexed.users, indexed.devices, indexed.fingerprints⟩

end Law

end NestMonorepo
