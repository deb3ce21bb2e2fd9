import NestMonorepo.Database.ObjectIds
import NestMonorepo.Database.Outages
import NestMonorepo.Users.Interleaving

/-! # Upgrades that fail

An upgrade flushes the account and then deletes its device rows; there is no transaction
around the two. Whatever fails before the flush leaves both as they were, and a failure
of the delete leaves the account upgraded.
-/

namespace NestMonorepo

open Collections Concurrency Handler UsersService

/-- Accounts and device rows are as they were. -/
def Untouched (store later : Backend) : Prop :=
  later.users = store.users ∧ later.devices = store.devices

/-- The record of an upgraded account. -/
structure Upgrade (payload : UpgradePayload) (before after : User) : Prop where
  accountType : after.accountType = .user
  tokenVersion : after.tokenVersion = before.tokenVersion + 1
  credentials : ∃ current, Credentials payload before current ∧ after.email = current.email ∧
    after.passwordHash = current.passwordHash ∧ after.oauthLinks = current.oauthLinks

section Law

variable [Libraries] {store later : Backend} {userId : String} {payload : UpgradePayload}
  {user current : User}

/-- The account of the id has been upgraded, and every other one is as it was. -/
def AccountUpgraded (userId : String) (payload : UpgradePayload) (store later : Backend) : Prop :=
  ∃ before after, Libraries.ofHexString userId = some before.id ∧
    fetch User.id before.id store.users = some before ∧
      fetch User.id before.id later.users = some after ∧ Upgrade payload before after ∧
        ∀ id, id ≠ before.id → fetch User.id id later.users = fetch User.id id store.users

/-! ## Up to the flush -/

/-- Whatever fails, the lookup of the account leaves users and devices untouched, and the
user it answers is the stored one of the id. -/
theorem findById_throughout (untouched : Untouched store later) :
    (findById userId).Throughout Backend.attempts (Untouched store)
      (fun outcome last => Untouched store last ∧ ∀ user, outcome = .ok user →
        Libraries.ofHexString userId = some user.id ∧
          fetch User.id user.id store.users = some user) later := by
  unfold findById
  cases parsed : Libraries.ofHexString userId with
  | none => exact ⟨untouched, untouched, fun _ => nofun⟩
  | some id =>
      refine ⟨untouched, fun after answered => ?_⟩
      rcases Backend.attempts_findUser answered with rfl | rfl
      · cases found : later.users.find? (UserFilter.byId id).accepts with
        | none => exact ⟨untouched, untouched, fun _ => nofun⟩
        | some user =>
            have accepted : (UserFilter.byId id).accepts user = true := List.find?_some found
            have same : user.id = id := of_decide_eq_true accepted
            subst same
            change Program.Throughout _ _ _
              (if user.deletedAt.isSome then throwException userNotFound else .ret user) later
            split
            · exact ⟨untouched, untouched, fun _ => nofun⟩
            · refine ⟨untouched, untouched, fun _ same => ?_⟩
              cases same
              refine ⟨rfl, ?_⟩
              rw [← untouched.1]
              exact found
      · exact ⟨untouched, untouched, fun _ => nofun⟩

/-- Whatever fails, the computation of the credentials leaves users and devices untouched,
and what it answers are the credentials of the payload. -/
theorem upgradeCredentials_throughout (untouched : Untouched store later) :
    (upgradeCredentials userId user payload).Throughout Backend.attempts (Untouched store)
      (fun outcome last => Untouched store last ∧
        ∀ current, outcome = .ok current → Credentials payload user current) later := by
  have linked : ∀ provider providerUserId, payload.method = .oauth provider →
      truthy payload.providerUserId = some providerUserId →
        (upgradeCredentials.link user payload provider providerUserId).Throughout
          Backend.attempts (Untouched store) (fun outcome last => Untouched store last ∧
            ∀ current, outcome = .ok current → Credentials payload user current) later := by
    intro provider providerUserId method present
    refine ⟨untouched, fun after answered => ?_⟩
    rw [Backend.attempts_now answered]
    refine ⟨untouched, untouched, fun _ same => ?_⟩
    cases same
    exact .link _ method present
  unfold upgradeCredentials
  split
  · rename_i method
    split
    · rename_i email password addressed _
      refine ⟨untouched, fun after answered => ?_⟩
      rcases Backend.attempts_findUser answered with rfl | rfl
      · change Program.Throughout _ _ _ (if (later.users.find? _).any _ then _ else _) later
        split
        · exact ⟨untouched, untouched, fun _ => nofun⟩
        · refine ⟨untouched, fun after answered => ?_⟩
          rcases Backend.attempts_argon2Hash answered with ⟨hash, rfl⟩ | ⟨message, rfl⟩
          · refine ⟨untouched, untouched, fun _ same => ?_⟩
            cases same
            exact .password hash method addressed
          · exact ⟨untouched, untouched, fun _ => nofun⟩
      · exact ⟨untouched, untouched, fun _ => nofun⟩
    · exact ⟨untouched, untouched, fun _ => nofun⟩
  · rename_i provider method
    split
    · exact ⟨untouched, untouched, fun _ => nofun⟩
    · rename_i providerUserId present
      refine ⟨untouched, fun after answered => ?_⟩
      rcases Backend.attempts_findUser answered with rfl | rfl
      · cases found : later.users.find? (UserFilter.byLink provider providerUserId).accepts with
        | none => exact linked provider providerUserId method present
        | some clash =>
            change Program.Throughout _ _ _ (if clash.hexId ≠ userId then _ else _) later
            split
            · exact ⟨untouched, untouched, fun _ => nofun⟩
            · exact linked provider providerUserId method present
      · exact ⟨untouched, untouched, fun _ => nofun⟩

/-! ## The flush and the delete -/

/-- The copy of the account is stored over its record. -/
def Flushed (store : Backend) (user current : User) (later : Backend) : Prop :=
  later.devices = store.devices ∧ ∃ at_, later.users =
    modifyAt User.id user.id (·.apply (user.changes current) at_) store.users

/-- Whatever fails, during the flush the account is as it was or as it is flushed, and it is
flushed when the flush has answered. -/
theorem flushEmail_throughout (untouched : Untouched store later)
    (bumped : current.tokenVersion ≠ user.tokenVersion) :
    (flushEmail (user.update current)).Throughout Backend.attempts
      (fun last => Untouched store last ∨ Flushed store user current last)
      (fun outcome last => match outcome with
        | .ok _ => Flushed store user current last
        | .error _ => Untouched store last) later := by
  rw [User.update_of_tokenVersion bumped]
  refine ⟨.inl untouched, fun after answered => ?_⟩
  rw [Backend.attempts_now answered]
  refine ⟨.inl untouched, fun after answered => ?_⟩
  rcases Backend.attempts_write answered with ⟨_, rfl⟩ | ⟨error, rfl⟩
  · have flushed : Flushed store user current (later.stored later.clock
        (.updateUser user.id (user.changes current))) := by
      refine ⟨untouched.2, later.clock, ?_⟩
      rw [← untouched.1]
      rfl
    exact ⟨.inr flushed, flushed⟩
  · change Program.Throughout _ _ _
      (if isDuplicateKeyError error "email" then throwException emailTakenException
        else .fail (.mongo error)) later
    split <;> exact ⟨.inl untouched, untouched⟩

/-- What the flush of an upgrade stores. -/
theorem Flushed.accountUpgraded {upgradedAt : Millis}
    (parsed : Libraries.ofHexString userId = some user.id)
    (found : fetch User.id user.id store.users = some user)
    (credentials : Credentials payload user current)
    (flushed : Flushed store user (upgraded current payload upgradedAt) later) :
    AccountUpgraded userId payload store later := by
  obtain ⟨_, at_, users⟩ := flushed
  refine ⟨user, user.apply (user.changes (upgraded current payload upgradedAt)) at_, parsed, found,
    ?_, ?_, fun id other => ?_⟩
  · rw [users, fetch_modifyAt_self, found]
    · rfl
    · exact fun _ => rfl
  · rw [User.apply_changes]
    exact ⟨rfl, congrArg (· + 1) credentials.tokenVersion, current, credentials, rfl, rfl, rfl⟩
  · rw [users]
    exact fetch_modifyAt_ne (fun _ => rfl) other

/-- An upgrade that throws has left everything as it was, or has upgraded the account and
deleted none of its devices; one that returns has done both. -/
theorem upgradeAccount_throughout (userId : String) (payload : UpgradePayload) (store : Backend) :
    (upgradeAccount userId payload).Throughout Backend.attempts (fun _ => True)
      (fun outcome last => match outcome with
        | .ok _ => AccountUpgraded userId payload store last ∧
            ∀ device ∈ last.devices, Libraries.ofHexString userId ≠ some device.userId
        | .error _ => Untouched store last ∨
            AccountUpgraded userId payload store last ∧ last.devices = store.devices) store := by
  have start : Untouched store store := ⟨rfl, rfl⟩
  refine ((findById_throughout start).mono (fun _ _ => trivial) fun _ _ _ => id).bind
    (fun _ last _ ends => .inl ends.1) fun user last _ ends => ?_
  obtain ⟨untouched, found⟩ := ends
  obtain ⟨parsed, found⟩ := found user rfl
  simp only
  split
  · exact ⟨trivial, .inl untouched⟩
  refine ((upgradeCredentials_throughout untouched).mono (fun _ _ => trivial) fun _ _ _ => id).bind
    (fun _ last _ ends => .inl ends.1) fun current last _ ends => ?_
  obtain ⟨untouched, credentials⟩ := ends
  refine ⟨trivial, fun after answered => ?_⟩
  rw [Backend.attempts_now answered]
  have bumped : (upgraded current payload last.clock).tokenVersion ≠ user.tokenVersion := by
    change current.tokenVersion + 1 ≠ user.tokenVersion
    rw [(credentials current rfl).tokenVersion]
    exact Nat.succ_ne_self _
  refine ((flushEmail_throughout untouched bumped).mono (fun _ _ => trivial) fun _ _ _ => id).bind
    (fun _ last _ ends => .inl ends) fun updatedAt last _ flushed => ?_
  have account := flushed.accountUpgraded parsed found (credentials current rfl)
  refine ⟨trivial, fun after answered => ?_⟩
  rcases Backend.attempts_deleteDevices answered with rfl | rfl
  · refine ⟨trivial, account, fun device present same => ?_⟩
    have kept := (List.mem_filter.mp present).2
    rw [parsed] at same
    simp only [DeviceFilter.accepts, Option.some.inj same, decide_true, Bool.not_true,
      Bool.false_eq_true] at kept
  · exact ⟨trivial, .inr ⟨account, flushed.1⟩⟩

/-- An upgraded account is refused a second upgrade, whatever fails meanwhile. -/
theorem AccountUpgraded.refused (account : AccountUpgraded userId payload store later)
    (again : UpgradePayload) {last : Backend} {upgradedUser : User} :
    ¬(upgradeAccount userId again).Comes Backend.attempts later (.ret upgradedUser) last := by
  intro comes
  obtain ⟨before, after, parsed, _, found, upgrade, _⟩ := account
  have refuses : (upgradeAccount userId again).Throughout Backend.attempts (fun _ => True)
      (fun outcome _ => ∀ user, outcome ≠ .ok user) later := by
    have start : Untouched later later := ⟨rfl, rfl⟩
    refine ((findById_throughout start).mono (fun _ _ => trivial) fun _ _ _ => id).bind
      (fun _ _ _ _ _ => nofun) fun user last _ ends => ?_
    obtain ⟨parsed', found'⟩ := ends.2 user rfl
    rw [← Option.some.inj (parsed.symm.trans parsed'), found] at found'
    cases found'
    have full : after.accountType ≠ .autoreg := by
      rw [upgrade.accountType]
      exact nofun
    simp only [ne_eq, full, not_false_eq_true, ↓reduceIte]
    exact ⟨trivial, fun _ => nofun⟩
  exact (refuses.comes comes).2 _ rfl

/-! ## All, nothing, or an account with its devices -/

/-- An upgrade that throws leaves accounts and devices as they were; one that returns has
upgraded the account and left it without devices. -/
structure AllOrNothing (userId : String) (payload : UpgradePayload) (store : Backend) : Prop where
  throws : ∀ error later, (upgradeAccount userId payload).Comes Backend.attempts store
    (.fail error) later → Untouched store later
  returns : ∀ user later, (upgradeAccount userId payload).Comes Backend.attempts store
    (.ret user) later → AccountUpgraded userId payload store later ∧
      ∀ device ∈ later.devices, Libraries.ofHexString userId ≠ some device.userId

/-- The same up to a failing delete: an upgrade that throws may also have upgraded the
account and kept its devices, and is not repeated then. -/
structure AllOrFlushed (userId : String) (payload : UpgradePayload) (store : Backend) : Prop where
  throws : ∀ error later, (upgradeAccount userId payload).Comes Backend.attempts store
    (.fail error) later → Untouched store later ∨
      AccountUpgraded userId payload store later ∧ later.devices = store.devices ∧
        ∀ (again : UpgradePayload) (user : User) (last : Backend),
          ¬(upgradeAccount userId again).Comes Backend.attempts later (.ret user) last
  returns : ∀ user later, (upgradeAccount userId payload).Comes Backend.attempts store
    (.ret user) later → AccountUpgraded userId payload store later ∧
      ∀ device ∈ later.devices, Libraries.ofHexString userId ≠ some device.userId

/-- Wherever calls fail, an upgrade that throws has left users and devices untouched, or has
upgraded the account and left its devices; then no further upgrade of the account returns.
An upgrade that returns has upgraded the account and deleted its devices. -/
theorem allOrFlushed (userId : String) (payload : UpgradePayload) (store : Backend) :
    AllOrFlushed userId payload store where
  throws error later comes := by
    rcases ((upgradeAccount_throughout userId payload store).comes comes).2 with
      untouched | ⟨account, devices⟩
    · exact .inl untouched
    · exact .inr ⟨account, devices, fun again _ _ => account.refused again⟩
  returns user later comes :=
    ((upgradeAccount_throughout userId payload store).comes comes).2

end Law

section Runs

open scoped Plain

/-- An anonymous account with its device. -/
def anonymousStore : Backend :=
  { users := [autoregUser 0 0]
    devices := [autoregDevice { fingerprint := "f" } 1 0 0]
    nextObjectId := 2 }

def upgradeByEmail : UpgradePayload :=
  { method := .email, email := some "a@example.com", password := some "password" }

/-- The database is out when the devices are to be deleted. -/
def outAtDelete : List Outage := [{}, {}, {}, {}, {}, {}, { database := false }]

/-- The upgrade is flushed and the deletion of the devices fails. The call throws, and still
the account is no longer anonymous. -/
theorem not_allOrNothing_of_failedDelete :
    ¬AllOrNothing (ObjectIds.toHexString 0) upgradeByEmail anonymousStore := by
  intro law
  have thrown : ∃ error, (Backend.through outAtDelete
      (upgradeAccount (ObjectIds.toHexString 0) upgradeByEmail) anonymousStore).1 =
        .fail error := ⟨_, by rfl⟩
  have comes := Backend.comes_through outAtDelete
    (upgradeAccount (ObjectIds.toHexString 0) upgradeByEmail) anonymousStore
  obtain ⟨error, thrown⟩ := thrown
  rw [thrown] at comes
  have kept := congrArg (List.map User.tokenVersion) (law.throws error _ comes).1
  have bumped : (Backend.through outAtDelete (upgradeAccount (ObjectIds.toHexString 0)
    upgradeByEmail) anonymousStore).2.users.map User.tokenVersion = [1] := by decide
  rw [bumped] at kept
  cases kept

end Runs

end NestMonorepo
