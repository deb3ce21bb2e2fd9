import NestMonorepo.Database.ObjectIds
import NestMonorepo.Users.Records

/-! # Identities handed out for deleted accounts

Messages served one after another keep the ids of the users distinct, so an
identity is usable exactly when it belongs to a live stored user. Every lookup of
the issuing operations asks for a live user except the one by device: anonymous
registration hands out the user a device row leads to, deleted or not.
-/

namespace NestMonorepo

open Collections Concurrency Handler UsersService

section Law

variable [Libraries]

/-! ## Usable identities -/

/-- The subject belongs to a live stored user. -/
def Usable (users : List User) (subject : String) : Prop :=
  ∃ user ∈ users, Libraries.ofHexString subject = some user.id ∧ user.Live

/-- With the database up, `findById` accepts exactly the usable subjects. -/
theorem findById_accepts_iff {store : Backend} (up : store.databaseUp = true)
    (distinct : DistinctIds store) (subject : String) :
    (∃ user, (findById subject).runIn store = (store, .ok user)) ↔
      Usable store.users subject := by
  constructor
  · rintro ⟨user, found⟩
    rcases runIn_findById store subject with ⟨other, _, parsed, stored, live, _⟩ | ⟨error, failed⟩
    · exact ⟨other, fetch_some_mem stored, parsed, live⟩
    · rw [failed] at found
      cases found
  · rintro ⟨user, member, parsed, live⟩
    exact ⟨user, runIn_findById_of_live up parsed (fetch_of_mem distinct member) live⟩

/-- The registration of a device that leads to a user answers with that user. -/
theorem LeadsTo.answer {store : Backend} {payload : AutoregPayload} {device : Device}
    {linked : User} (leads : LeadsTo store payload.fingerprint device linked)
    (up : store.databaseUp = true) (present : payload.fingerprint ≠ "") :
    serve (.createAutoregUser payload) store =
      ((serve (.createAutoregUser payload) store).1, .ok (.autoreg
        ⟨linked.hexId, Libraries.toHexString device.id, linked.tokenVersion⟩)) ∧
      (serve (.createAutoregUser payload) store).1.users = store.users := by
  obtain ⟨seen, unblocked, stored, anonymous⟩ := leads
  have found : store.users.find? (UserFilter.byId device.userId).accepts = some linked := stored
  rw [serve, UsersController.handle, UsersController.createAutoregUser, if_neg present,
    UsersService.createAutoregUser]
  simp only [Program.bind_assoc]
  rw [runIn_findDevice up]
  simp only [seen, unblocked, Bool.false_eq_true, ↓reduceIte, Program.bind_assoc]
  rw [runIn_findUser up]
  simp only [found, anonymous, ne_eq, not_true_eq_false, ↓reduceIte, Program.bind_assoc]
  rw [runIn_now, runIn_flush, Device.update, User.hexId, fetch_some_key stored]
  split
  · exact ⟨rfl, rfl⟩
  · rw [runIn_writeAll_cons _ _ _ _ up]
    exact ⟨rfl, rfl⟩

/-- The message is an anonymous registration whose device leads to a deleted
user. -/
def RecoversDeleted (operation : UserOperation) (store : Backend) : Prop :=
  store.databaseUp = true ∧ ∃ payload device linked, operation = .createAutoregUser payload ∧
    payload.fingerprint ≠ "" ∧ LeadsTo store payload.fingerprint device linked ∧ ¬linked.Live

/-- An identity that was just handed out is usable, or a deleted user's device
was recovered. -/
theorem Ends.usable_or {operation : UserOperation} {store : Backend} {users : List User}
    {answer : Answer} (ends : Ends operation store users (.ok answer)) {subject : String}
    {tokenVersion : Nat} (identity : issued operation answer = some (subject, tokenVersion)) :
    store.databaseUp = true ∧ (Usable users subject ∨ RecoversDeleted operation store) := by
  have hexadecimal : ∀ {user : User} {users : List User}, user ∈ users → user.Live →
      Usable users user.hexId := fun member live =>
    ⟨_, member, Libraries.ofHexString_toHexString _, live⟩
  have kept : ∀ {loaded : User} (current : User), loaded ∈ store.users → loaded.Live →
      current.deletedAt = loaded.deletedAt →
      ∃ user ∈ rewritten store loaded current, user.id = loaded.id ∧ user.Live := by
    intro loaded current member live same
    refine ⟨_, mem_modifyAt_of_eq member rfl, rfl, ?_⟩
    rw [User.apply_changes]
    exact same.trans live
  cases ends with
  | silent none =>
      rw [none] at identity
      cases identity
  | @recovered _ _ _ linked up present leads =>
      cases identity
      by_cases live : linked.Live
      · exact ⟨up, .inl (hexadecimal (fetch_some_mem leads.2.2.1) live)⟩
      · exact ⟨up, .inr ⟨up, _, _, _, rfl, present, leads, live⟩⟩
  | created up _ _ answered =>
      obtain ⟨deviceRecordId, rfl⟩ := answered answer rfl
      cases identity
      exact ⟨up, .inl ⟨_, List.mem_append_right _ (List.mem_singleton.mpr rfl),
        Libraries.ofHexString_toHexString _, rfl⟩⟩
  | loggedIn up found =>
      cases identity
      have accepted := UserFilter.accepts_byEmailLive.mp (List.find?_some found)
      exact ⟨up, .inl (hexadecimal (List.mem_of_find?_eq_some found) accepted.2)⟩
  | upgraded up parsed stored live _ credentials =>
      cases identity
      obtain ⟨user, member, same, alive⟩ := kept (UsersService.upgraded _ _ store.clock)
        (fetch_some_mem stored) live credentials.deletedAt
      exact ⟨up, .inl ⟨user, member, parsed.trans (congrArg some same.symm), alive⟩⟩
  | oauthKnown up found =>
      cases identity
      have accepted := UserFilter.accepts_byLinkLive.mp (List.find?_some found)
      exact ⟨up, .inl (hexadecimal (List.mem_of_find?_eq_some found) accepted.2)⟩
  | oauthMerged up _ _ found =>
      cases identity
      have accepted := UserFilter.accepts_byEmailLive.mp (List.find?_some found)
      obtain ⟨user, member, same, alive⟩ := kept (merged _ _ store.clock)
        (List.mem_of_find?_eq_some found) accepted.2 rfl
      rw [User.identity, User.hexId, ← same]
      exact ⟨up, .inl (hexadecimal member alive)⟩
  | oauthCreated up =>
      cases identity
      exact ⟨up, .inl (hexadecimal (List.mem_append_right _ (List.mem_singleton.mpr rfl)) rfl)⟩
  | resetRequested => cases identity
  | passwordReset => cases identity
  | versioned up parsed stored live =>
      cases identity
      exact ⟨up, .inl ⟨_, fetch_some_mem stored, parsed, live⟩⟩
  | profile _ _ _ none =>
      rw [none] at identity
      cases identity
  | deleted _ _ _ none =>
      rw [none answer rfl] at identity
      cases identity

/-- An identity the message hands out in `store` belongs to a user `findById`
accepts in the resulting store. -/
def IssuesUsable (operation : UserOperation) (store : Backend) : Prop :=
  ∀ answer subject tokenVersion, (serve operation store).2 = .ok answer →
    issued operation answer = some (subject, tokenVersion) →
    ∃ user, (findById subject).runIn (serve operation store).1 =
      ((serve operation store).1, .ok user)

/-- In every run of messages served one after another, an identity handed out is
usable exactly when the message was not an anonymous registration from a device
that leads to a deleted user. -/
theorem issuesUsable_iff {store : Backend} (served : Served {} store)
    (operation : UserOperation) :
    IssuesUsable operation store ↔ ¬RecoversDeleted operation store := by
  have distinct := served.distinct List.nodup_nil
  have ends := serve_ends operation store
  have later : DistinctIds (serve operation store).1 := ends.nodup distinct
  have still : (serve operation store).1.databaseUp = store.databaseUp :=
    runIn_databaseUp (UsersController.handle operation) store
  constructor
  · rintro usable ⟨up, payload, device, linked, rfl, present, leads, deleted⟩
    obtain ⟨answered, users⟩ := leads.answer up present
    have accepted := usable _ _ _ (congrArg Prod.snd answered) rfl
    rw [findById_accepts_iff (still.trans up) later, users] at accepted
    obtain ⟨user, member, parsed, live⟩ := accepted
    rw [User.hexId, Libraries.ofHexString_toHexString] at parsed
    obtain rfl := distinct.unique member (fetch_some_mem leads.2.2.1) (Option.some.inj parsed).symm
    exact deleted live
  · intro spared answer subject tokenVersion answered identity
    rw [answered] at ends
    obtain ⟨up, usable⟩ := ends.usable_or identity
    exact (findById_accepts_iff (still.trans up) later subject).mpr
      (usable.resolve_right spared)

end Law

/-! ## A deleted user's device -/

section DeletedDevice

open scoped Plain

/-- A registration and the deletion of the account it created. -/
def afterDeletion : Backend :=
  (serve (.deleteUser (ObjectIds.toHexString 0))
    (serve (.createAutoregUser { fingerprint := "f" }) {}).1).1

/-- The premises are met by a login after the deletion of its account, in a store that a run
leads to. -/
theorem issuesUsable_iff_afterDeletion :
    IssuesUsable (.login "a@b" "p") afterDeletion ↔
      ¬RecoversDeleted (.login "a@b" "p") afterDeletion :=
  issuesUsable_iff (.serve _ (.serve _ .start)) _

/-- The device row outlives the account: the same device is handed the deleted
account's identity. -/
theorem not_issuesUsable_of_deletedDevice :
    ¬∀ store, Served {} store → ∀ operation, IssuesUsable operation store := by
  intro usable
  have recovered : (serve (.createAutoregUser { fingerprint := "f" }) afterDeletion).2 =
      .ok (.autoreg ⟨ObjectIds.toHexString 0, ObjectIds.toHexString 1, 1⟩) := by rfl
  obtain ⟨user, found⟩ := usable afterDeletion (.serve _ (.serve _ .start)) _ _ _ _ recovered rfl
  cases found

end DeletedDevice

end NestMonorepo
