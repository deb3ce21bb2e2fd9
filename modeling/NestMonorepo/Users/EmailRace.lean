import NestMonorepo.Concurrency.Roles
import NestMonorepo.Database.ObjectIds
import NestMonorepo.Users.DrawnIds
import NestMonorepo.Users.Runs

/-! # Racing for one email

Upgrades and first provider logins that claim one email look for its holder and later
flush. The unique index lets one of them store it; the others are told so by the
database, however it reports the violation, and have written nothing.
-/

namespace NestMonorepo

open Collections Concurrency Handler UsersService

section Law

variable [Libraries] {start : Backend} {email : String}

/-! ## The database's report -/

/-- The backend with the violation of the email index reported in some other way. -/
def Backend.execReporting (report : Backend → Write → MongoError) :
    (command : Command) → Backend → Backend × Reply command
  | .write write now, store =>
      if store.databaseUp = true ∧
          store.violation write = some (duplicateKeyError "users_email_unique" "email") then
        (store, .error (report store write))
      else Backend.exec (.write write now) store
  | command, store => Backend.exec command store

/-- The user service over that backend. -/
def userServiceReporting (report : Backend → Write → MongoError) :
    System UserOperation Command Reply ServiceError Answer Backend Backend.Event :=
  { userService with exec := Backend.execReporting report }

/-! ## The law -/

omit [Libraries] in
/-- A user holds the email. -/
def Holds (email : String) (id : ObjectId) (store : Backend) : Prop :=
  ∃ user ∈ store.users, user.id = id ∧ user.email = some email

omit [Libraries] in
/-- A store in which the race may begin: dependencies answer, drawn ids are new, and at
most one user holds the email. -/
structure RaceStart (email : String) (start : Backend) : Prop where
  up : start.databaseUp = true
  hashing : start.hashingUp = true
  address : email ≠ ""
  distinct : DistinctIds start
  ids : ∀ user ∈ start.users, user.id < start.nextObjectId
  holder : ∀ first second, Holds email first start → Holds email second start → first = second

/-- The operation upgrades this user. -/
def UserOperation.Upgrades (operation : UserOperation) (user : User) : Prop :=
  ∃ payload, operation = .upgradeAccount user.hexId payload

omit [Libraries] in
/-- The payload has what its method needs besides the email. -/
def UpgradePayload.Complete (payload : UpgradePayload) : Prop :=
  match payload.method with
  | .email => (truthy payload.password).isSome
  | .oauth _ => (truthy payload.providerUserId).isSome

omit [Libraries] in
/-- An upgrade, by password or by provider, of an anonymous user that does not hold the
email but claims it. -/
structure Upgrading (email : String) (start : Backend) (user : User) (payload : UpgradePayload) :
    Prop where
  member : user ∈ start.users
  live : user.Live
  anonymous : user.accountType = .autoreg
  unaddressed : user.email ≠ some email
  claims : payload.email = some email
  complete : payload.Complete

/-- The calls that claim the email: such upgrades, and provider logins. -/
inductive ClaimsEmail (email : String) (start : Backend) : UserOperation → Prop
  | upgrade {user : User} {payload : UpgradePayload} : Upgrading email start user payload →
      ClaimsEmail email start (.upgradeAccount user.hexId payload)
  | login {payload : OAuthPayload} : payload.email = some email →
      ClaimsEmail email start (.findOrCreateOAuthUser payload)

/-- Any number of such calls, upgrades of distinct users, with crashes, while database and
hashing answer. -/
def Racing (email : String) (start : Backend) : ServiceLabel → ServicePool → Prop
  | .spawn operation, pool => ClaimsEmail email start operation ∧
      ∀ user ∈ start.users, operation.Upgrades user →
        ∀ thread ∈ pool.threads, ¬thread.operation.Upgrades user
  | .step _, _ => True
  | .crash _, _ => True
  | .environment (.database _), _ => False
  | .environment (.hashing _), _ => False
  | .environment _, _ => True

/-- How a call may end: with the account that holds the email, with an account that had
the provider identity before the race, or as a loser whose user does not hold it. -/
inductive RaceEnds (losing : UserOperation → ServiceError → Prop) (email : String)
    (start store : Backend) : UserOperation → Except ServiceError Answer → Prop
  | upgraded {user answered : User} {payload} : user ∈ start.users → answered.id = user.id →
      Holds email user.id store →
      RaceEnds losing email start store (.upgradeAccount user.hexId payload)
        (.ok (.upgraded answered))
  | signedIn {payload result} {id : ObjectId} : result.id = Libraries.toHexString id →
      Holds email id store →
      RaceEnds losing email start store (.findOrCreateOAuthUser payload) (.ok (.identity result))
  | known {user : User} {payload result} : user ∈ start.users → user.Live →
      user.hasLink payload.provider payload.providerUserId = true → result.id = user.hexId →
      RaceEnds losing email start store (.findOrCreateOAuthUser payload) (.ok (.identity result))
  | lost {operation error} : losing operation error →
      (∀ user ∈ start.users, operation.Upgrades user → ¬Holds email user.id store) →
      RaceEnds losing email start store operation (.error error)

/-- A call of the race that fails is a loser, and its error is one that losers get. -/
theorem RaceEnds.losing {losing : UserOperation → ServiceError → Prop} {store : Backend}
    {operation : UserOperation} {error : ServiceError}
    (ends : RaceEnds losing email start store operation (.error error)) :
    losing operation error := by
  cases ends with
  | lost lost => exact lost

/-- Or an upgrade by provider is told that its identity is on another account. -/
def LosesToAccount (operation : UserOperation) (error : ServiceError) : Prop :=
  error = .microservice emailTakenException ∨
    ∃ userId payload provider conflicting, operation = .upgradeAccount userId payload ∧
      payload.method = .oauth provider ∧ conflicting ≠ userId ∧
      error = .microservice (oauthCollision conflicting)

/-! ## The records of a race -/

omit [Libraries] in
/-- Where a race stands: at most one holder, and everything else as at the start. -/
structure Raced (email : String) (start store : Backend) : Prop where
  up : store.databaseUp = true
  hashing : store.hashingUp = true
  distinct : DistinctIds store
  holder : ∀ first second, Holds email first store → Holds email second store → first = second
  others : ∀ id, ¬Holds email id store →
    fetch User.id id store.users = fetch User.id id start.users ∧
      store.devices.filter (fun device => device.userId = id) =
        start.devices.filter fun device => device.userId = id

/-- What each call expects and promises: the holder stays one, and only an upgrade makes a
user of the start the holder, its own. -/
def claimant (email : String) (start : Backend) (operation : UserOperation) : Role Backend where
  rely store later := (∀ id, Holds email id store → Holds email id later) ∧
    ∀ user ∈ start.users, operation.Upgrades user → Holds email user.id later →
      Holds email user.id store
  guarantee store later := (∀ id, Holds email id store → Holds email id later) ∧
    ∀ user ∈ start.users, ¬operation.Upgrades user → Holds email user.id later →
      Holds email user.id store
  refl _ := ⟨fun _ held => held, fun _ _ _ held => held⟩
  trans left right := ⟨fun id held => right.1 id (left.1 id held),
    fun user member upgrades held =>
      left.2 user member upgrades (right.2 user member upgrades held)⟩
  idle _ := ⟨fun _ held => held, fun _ _ _ held => held⟩

omit [Libraries] in
/-- The store after something that touched neither users nor devices, nor what they need. -/
structure SameRecords (store later : Backend) : Prop where
  users : later.users = store.users
  devices : later.devices = store.devices
  up : later.databaseUp = store.databaseUp
  hashing : later.hashingUp = store.hashingUp

section Records

variable {store later : Backend} {operation : UserOperation}

omit [Libraries] in
/-- Where the records are the same, so are the holders of the email. -/
theorem SameRecords.holds (same : SameRecords store later) (id : ObjectId) :
    Holds email id later ↔ Holds email id store := by
  rw [Holds, same.users]
  rfl

omit [Libraries] in
/-- What is neither a user nor a device does not move the race on. -/
theorem Raced.of_same (raced : Raced email start store) (same : SameRecords store later) :
    Raced email start later := by
  refine ⟨same.up.trans raced.up, same.hashing.trans raced.hashing, ?_, ?_, ?_⟩
  · rw [DistinctIds, same.users]
    exact raced.distinct
  · intro first second left right
    exact raced.holder first second ((same.holds first).mp left) ((same.holds second).mp right)
  · intro id free
    rw [same.users, same.devices]
    exact raced.others id fun held => free ((same.holds id).mpr held)

/-- A step that leaves the records alone keeps every promise. -/
theorem SameRecords.guarantee (same : SameRecords store later) :
    (claimant email start operation).guarantee store later :=
  ⟨fun id => (same.holds id).mpr, fun user _ _ => (same.holds user.id).mp⟩

/-- And it meets every call's expectations. -/
theorem SameRecords.rely (same : SameRecords store later) :
    (claimant email start operation).rely store later :=
  ⟨fun id => (same.holds id).mpr, fun user _ _ => (same.holds user.id).mp⟩

omit [Libraries] in
/-- A stored user with the email holds it. -/
theorem Holds.of_mem {user : User} (member : user ∈ store.users)
    (addressed : user.email = some email) : Holds email user.id store :=
  ⟨user, member, rfl, addressed⟩

omit [Libraries] in
/-- Where the index lets a user take the email, nobody else holds it. -/
theorem unheld_of_not_taken {id other : ObjectId}
    (free : emailTaken store.users id (some email) = false) (differ : other ≠ id) :
    ¬Holds email other store := by
  rintro ⟨user, member, rfl, addressed⟩
  simp only [emailTaken, Option.isSome_some, Bool.true_and, List.any_eq_false,
    decide_eq_true_eq, not_and] at free
  exact free user member differ addressed

omit [Libraries] in
/-- A stored user takes the email where nobody else has it, and holds it from then on. -/
theorem Raced.take (raced : Raced email start store) {id : ObjectId} {changes : UserChanges}
    (free : emailTaken store.users id (some email) = false)
    (taken : changes.email = some (some email)) (at_ : Millis) {user : User}
    (member : user ∈ store.users) (named : user.id = id) :
    Holds email id (store.stored at_ (.updateUser id changes)) ∧
      Raced email start (store.stored at_ (.updateUser id changes)) ∧
      ∀ other, Holds email other (store.stored at_ (.updateUser id changes)) → other = id := by
  have applies : store.Applies (.updateUser id changes) := by
    refine ⟨raced.up, Backend.violation_updateUser ?_⟩
    rw [taken, Option.getD_some, free]
  have own : Holds email id (store.stored at_ (.updateUser id changes)) := by
    refine ⟨user.apply changes at_, mem_modifyAt_of_eq member named, named, ?_⟩
    simp only [User.apply, taken, Option.getD_some]
  have only : ∀ other, Holds email other (store.stored at_ (.updateUser id changes)) →
      other = id := by
    rintro _ ⟨holder, present, rfl, addressed⟩
    by_contra differ
    rcases mem_modifyAt present with ⟨old, _⟩ | ⟨old, _, same, rfl⟩
    · exact unheld_of_not_taken free differ ⟨holder, old, rfl, addressed⟩
    · exact differ same
  refine ⟨own, ⟨raced.up, raced.hashing, raced.distinct.stored applies at_, ?_, ?_⟩, only⟩
  · intro first second left right
    exact (only first left).trans (only second right).symm
  · intro other unheld
    have differ : other ≠ id := fun same => unheld (same ▸ own)
    refine ⟨?_, (raced.others other (unheld_of_not_taken free differ)).2⟩
    refine Eq.trans ?_ (raced.others other (unheld_of_not_taken free differ)).1
    exact fetch_modifyAt_ne (fun user => User.apply_id user changes at_) differ

omit [Libraries] in
/-- An update that leaves the email alone leaves everyone's. -/
theorem holds_updateUser {id : ObjectId} {changes : UserChanges} (kept : changes.email = none)
    (at_ : Millis) (other : ObjectId) :
    Holds email other (store.stored at_ (.updateUser id changes)) ↔ Holds email other store := by
  have same : ∀ user : User, (user.apply changes at_).email = user.email := by
    intro user
    simp only [User.apply, kept, Option.getD_none]
  constructor
  · rintro ⟨holder, present, named, addressed⟩
    rcases mem_modifyAt present with ⟨old, _⟩ | ⟨old, inside, _, rfl⟩
    · exact ⟨holder, old, named, addressed⟩
    · exact ⟨old, inside, named, (same old).symm.trans addressed⟩
  · rintro ⟨holder, present, named, addressed⟩
    by_cases here : holder.id = id
    · exact ⟨_, mem_modifyAt_of_eq present here, named, (same holder).trans addressed⟩
    · exact ⟨holder, mem_modifyAt_of_ne present here, named, addressed⟩

omit [Libraries] in
/-- The holder is rewritten and keeps the email. -/
theorem Raced.rewriteHolder (raced : Raced email start store) {id : ObjectId}
    {changes : UserChanges} (kept : changes.email = none) (held : Holds email id store)
    (at_ : Millis) : Raced email start (store.stored at_ (.updateUser id changes)) := by
  have applies : store.Applies (.updateUser id changes) :=
    ⟨raced.up, Backend.violation_of_email kept⟩
  refine ⟨raced.up, raced.hashing, raced.distinct.stored applies at_, ?_, ?_⟩
  · intro first second left right
    exact raced.holder first second ((holds_updateUser kept at_ first).mp left)
      ((holds_updateUser kept at_ second).mp right)
  · intro other unheld
    have free : ¬Holds email other store := fun holds =>
      unheld ((holds_updateUser kept at_ other).mpr holds)
    have differ : other ≠ id := fun same => free (same ▸ held)
    refine ⟨?_, (raced.others other free).2⟩
    refine Eq.trans ?_ (raced.others other free).1
    exact fetch_modifyAt_ne (fun user => User.apply_id user changes at_) differ

omit [Libraries] in
/-- A new user takes the email. -/
theorem Raced.insert (raced : Raced email start store) (user : User)
    (fresh : fetch User.id user.id store.users = none)
    (free : emailTaken store.users user.id (some email) = false)
    (addressed : user.email = some email) (at_ : Millis) :
    Holds email user.id (store.stored at_ (.insertUser user)) ∧
      Raced email start (store.stored at_ (.insertUser user)) ∧
      ∀ other, Holds email other (store.stored at_ (.insertUser user)) → other = user.id := by
  have own : Holds email user.id (store.stored at_ (.insertUser user)) :=
    ⟨user, List.mem_append_right _ (List.mem_singleton.mpr rfl), rfl, addressed⟩
  have only : ∀ other, Holds email other (store.stored at_ (.insertUser user)) →
      other = user.id := by
    rintro _ ⟨holder, present, rfl, held⟩
    by_contra differ
    rcases List.mem_append.mp present with old | new
    · exact unheld_of_not_taken free differ ⟨holder, old, rfl, held⟩
    · exact differ (congrArg User.id (List.mem_singleton.mp new))
  refine ⟨own, ⟨raced.up, raced.hashing, nodup_keys_append raced.distinct fresh, ?_, ?_⟩, only⟩
  · intro first second left right
    exact (only first left).trans (only second right).symm
  · intro other unheld
    have differ : user.id ≠ other := fun same => unheld (same ▸ own)
    refine ⟨?_, (raced.others other (unheld_of_not_taken free differ.symm)).2⟩
    refine Eq.trans ?_ (raced.others other (unheld_of_not_taken free differ.symm)).1
    change fetch User.id other (store.users ++ [user]) = _
    cases found : fetch User.id other store.users with
    | some old => exact fetch_append_of_some found
    | none => exact (fetch_append_of_none found).trans (fetch_singleton_ne differ)

omit [Libraries] in
/-- The holder's device rows go. -/
theorem Raced.wipe (raced : Raced email start store) {id : ObjectId}
    (held : Holds email id store) : Raced email start { store with
      devices := store.devices.filter fun device =>
        !(DeviceFilter.byUserId id).accepts device } := by
  refine ⟨raced.up, raced.hashing, raced.distinct, raced.holder, fun other unheld => ?_⟩
  have differ : other ≠ id := fun same => unheld (same ▸ held)
  refine ⟨(raced.others other unheld).1, Eq.trans ?_ (raced.others other unheld).2⟩
  rw [List.filter_filter]
  apply List.filter_congr
  intro device _
  by_cases own : device.userId = other
  · simp only [own, DeviceFilter.accepts, differ, decide_true, decide_false, Bool.not_false,
      Bool.and_self]
  · simp only [own, decide_false, Bool.false_and]

end Records

/-! ## Playing by the rules -/

omit [Libraries] in
/-- A user is inserted under an id nobody has. -/
def InsertsFresh (command : Command) (store : Backend) : Prop :=
  ∀ user at_, command = .write (.insertUser user) at_ →
    fetch User.id user.id store.users = none

/-- A part of a claiming call that plays its role and ends as a race may end. -/
abbrev Races (report : Backend → Write → MongoError) (email : String) (start : Backend)
    (operation : UserOperation) (program : Handler Answer) (store : Backend) : Prop :=
  program.Plays (Backend.execReporting report) (Raced email start) InsertsFresh
    (claimant email start operation)
    (fun outcome later => RaceEnds LosesToAccount email start later operation outcome) store

section Rules

variable {report : Backend → Write → MongoError} {operation : UserOperation} {store : Backend}

/-- A command that touches no records, whatever it answers. -/
theorem races_await {command : Command} {next : Reply command → Handler Answer}
    (quiet : ∀ later, SameRecords later (Backend.execReporting report command later).1)
    (rest : ∀ later, (claimant email start operation).rely store later →
      Raced email start later →
        Races report email start operation (next (Backend.execReporting report command later).2)
          later) : Races report email start operation (.call command next) store := by
  intro later moved raced _
  refine ⟨raced.of_same (quiet later), (quiet later).guarantee, ?_⟩
  exact (rest later moved raced).of_rely (quiet later).rely

omit [Libraries] in
/-- Every store has the records of itself. -/
theorem SameRecords.refl (store : Backend) : SameRecords store store := ⟨rfl, rfl, rfl, rfl⟩

/-- A clock reading may be passed over, with the others' steps before it. -/
theorem races_now {next : Millis → Handler Answer}
    (rest : ∀ at_ later, (claimant email start operation).rely store later →
      Raced email start later → Races report email start operation (next at_) later) :
    Races report email start operation (.call .now next) store :=
  races_await (fun later => .refl later) fun later moved raced => rest _ later moved raced

/-- A lookup answers what is stored when it is performed, after the others' steps before it. -/
theorem races_findUser {filter : UserFilter} {next : Option User → Handler Answer}
    (rest : ∀ later, (claimant email start operation).rely store later →
      Raced email start later →
        Races report email start operation (next (later.users.find? filter.accepts)) later) :
    Races report email start operation (findUser filter >>= next) store := by
  simp only [findUser, await, Program.perform_bind, Program.call_bind]
  refine races_await (fun later => .refl later) fun later moved raced => ?_
  have answered : (Backend.execReporting report (.findUser filter) later).2 =
      .ok (later.users.find? filter.accepts) := by
    simp only [Backend.execReporting, Backend.exec, Backend.answer, raced.up, ↓reduceIte]
  rw [answered]
  exact rest later moved raced

/-- Hashing succeeds in a race, since the hash function answers throughout. -/
theorem races_hashPassword {password : String} {next : String → Handler Answer}
    (rest : ∀ passwordHash later, (claimant email start operation).rely store later →
      Raced email start later → Races report email start operation (next passwordHash) later) :
    Races report email start operation (hashPassword password >>= next) store := by
  simp only [hashPassword, await, Program.perform_bind, Program.call_bind]
  refine races_await (fun later => ?_) fun later moved raced => ?_
  · simp only [Backend.execReporting, Backend.exec]
    split <;> exact ⟨rfl, rfl, rfl, rfl⟩
  · have answered : (Backend.execReporting report (.argon2Hash password) later).2 =
        .ok (Libraries.argon2Hash later.randomDraws password) := by
      simp only [Backend.execReporting, Backend.exec, raced.hashing, ↓reduceIte]
    rw [answered]
    exact rest _ later moved raced

/-- A call may fail once it is clear that its user does not hold the email. -/
theorem races_fail {error : ServiceError} (losing : LosesToAccount operation error)
    (unheld : ∀ user ∈ start.users, operation.Upgrades user → ¬Holds email user.id store) :
    Races report email start operation (.fail error) store :=
  fun _ moved _ => .lost losing fun user member upgrades held =>
    unheld user member upgrades (moved.2 user member upgrades held)

/-- A write that touches no email index, or one that no other user refuses. -/
theorem execReporting_of_applies {write : Write} (applies : store.Applies write) (at_ : Millis) :
    Backend.execReporting report (.write write at_) store = (store.stored at_ write, .ok ()) := by
  have clean : ¬(store.databaseUp = true ∧
      store.violation write = some (duplicateKeyError "users_email_unique" "email")) := by
    rw [applies.2]
    exact fun both => nomatch both.2
  rw [Backend.execReporting, if_neg clean, Backend.exec_write_of_applies applies]

/-- A flush whose one write sets the email: it is stored, or the call loses to whoever
holds the email. -/
theorem races_flushEmail (reports : ∀ store write, ReportsEmail (report store write))
    {write : Write} {next : Millis → Handler Answer}
    (refusal : ∀ at_ later, InsertsFresh (.write write at_) later →
      later.violation write = none ∨
        later.violation write = some (duplicateKeyError "users_email_unique" "email"))
    (unheld : ∀ user ∈ start.users, operation.Upgrades user → ¬Holds email user.id store)
    (accepted : ∀ at_ later, (claimant email start operation).rely store later →
      Raced email start later → InsertsFresh (.write write at_) later → later.Applies write →
      Raced email start (later.stored at_ write) ∧
        (claimant email start operation).guarantee later (later.stored at_ write) ∧
        Races report email start operation (next at_) (later.stored at_ write)) :
    Races report email start operation (flushEmail [write] >>= next) store := by
  simp only [flushEmail, flush, now, await, writeAll, Program.perform_bind, Program.call_bind,
    Program.bind_assoc, Program.pure_eq, Program.ret_bind, Program.attempt_call]
  refine races_now fun at_ flushing moved _ => ?_
  intro later further raced fresh
  have reached := (claimant email start operation).trans moved further
  rcases refusal at_ later fresh with clean | violated
  · have applies : later.Applies write := ⟨raced.up, clean⟩
    obtain ⟨still, promised, rest⟩ := accepted at_ later reached raced fresh applies
    rw [execReporting_of_applies applies]
    exact ⟨still, promised, rest⟩
  · have refused : Backend.execReporting report (.write write at_) later =
        (later, .error (report later write)) := by
      rw [Backend.execReporting, if_pos ⟨raced.up, violated⟩]
    rw [refused]
    refine ⟨raced, (claimant email start operation).idle later, ?_⟩
    simp only [ofReply_error, Program.fail_bind, Program.attempt_fail, Program.ret_bind,
      (reports later write).isDuplicateKeyError, ↓reduceIte]
    refine races_fail (.inl rfl) fun user member upgrades held => ?_
    exact unheld user member upgrades (reached.2 user member upgrades held)

/-! ## Provider logins -/

/-- A provider login upgrades no user. -/
theorem not_upgrades_of_login (payload : OAuthPayload) (user : User) :
    ¬(UserOperation.findOrCreateOAuthUser payload).Upgrades user := by
  rintro ⟨_, same⟩
  cases same

/-- An account that holds the email may be signed in to. -/
theorem races_signedIn {payload : OAuthPayload} {result : IdentityResult} {id : ObjectId}
    (named : result.id = Libraries.toHexString id) (held : Holds email id store) :
    Races report email start (.findOrCreateOAuthUser payload) (.ret (.identity result)) store :=
  fun _ moved _ => .signedIn named (moved.1 id held)

/-- The creation of a user by a provider login plays its role: its insert makes the new user
the holder, or is refused because there is one. -/
theorem createOAuthUser_races (reports : ∀ store write, ReportsEmail (report store write))
    {payload : OAuthPayload} (claims : payload.email = some email) :
    Races report email start (.findOrCreateOAuthUser payload)
      (createOAuthUser payload >>= fun result => .ret (.identity result)) store := by
  simp only [createOAuthUser, newObjectId, now, await, Program.perform_bind, Program.call_bind,
    Program.bind_assoc, Program.pure_eq, Program.ret_bind]
  refine races_now fun createdAt _ _ _ => ?_
  refine races_await (fun later => ⟨rfl, rfl, rfl, rfl⟩) fun drawing _ _ => ?_
  generalize (Backend.execReporting report .newObjectId drawing).2 = id
  refine races_flushEmail reports (fun at_ later fresh => ?_)
    (fun user _ upgrades => (not_upgrades_of_login payload user upgrades).elim)
    fun at_ later _ raced fresh applies => ?_
  · rw [Backend.violation, fresh _ at_ rfl]
    simp only [Option.isSome_none, Bool.false_eq_true, ↓reduceIte]
    split
    · exact .inr rfl
    · exact .inl rfl
  · have unused := fresh _ at_ rfl
    have free : emailTaken later.users id (some email) = false := by
      have clean := applies.2
      rw [Backend.violation, unused] at clean
      simp only [Option.isSome_none, Bool.false_eq_true, ↓reduceIte, oauthUser, claims] at clean
      exact eq_false_of_ne_true fun taken => by rw [if_pos taken] at clean; cases clean
    obtain ⟨held, still, only⟩ := raced.insert (oauthUser payload id createdAt) unused free claims
      at_
    refine ⟨still, ⟨fun other holds => ?_, fun user member _ holds => ?_⟩, ?_⟩
    · obtain ⟨holder, inside, named, addressed⟩ := holds
      exact ⟨holder, List.mem_append_left _ inside, named, addressed⟩
    · -- a user of the start is still stored, so the new id is not its own
      have same : user.id = id := only user.id holds
      by_contra unheld
      have stored := (raced.others user.id unheld).1
      obtain ⟨old, found⟩ := fetch_isSome_of_mem User.id member
      rw [found, same] at stored
      cases stored.symm.trans unused
    · exact races_signedIn rfl held

/-- A provider login plays its role: it ends with the account of the identity, with the
holder, or with the creation of one. -/
theorem findOrCreateOAuthUser_races (reports : ∀ store write, ReportsEmail (report store write))
    {payload : OAuthPayload} (claims : payload.email = some email) :
    Races report email start (.findOrCreateOAuthUser payload)
      (UsersController.handle (.findOrCreateOAuthUser payload)) store := by
  change Races report email start (.findOrCreateOAuthUser payload)
    (UsersService.findOrCreateOAuthUser payload >>= fun result => .ret (.identity result)) store
  simp only [UsersService.findOrCreateOAuthUser, Program.bind_assoc]
  refine races_findUser fun looked _ raced => ?_
  cases found : looked.users.find?
      (UserFilter.byLinkLive payload.provider payload.providerUserId).accepts with
  | some byProvider =>
      have member := List.mem_of_find?_eq_some found
      have accepted := UserFilter.accepts_byLinkLive.mp (List.find?_some found)
      by_cases held : Holds email byProvider.id looked
      · exact races_signedIn rfl held
      · have stored : fetch User.id byProvider.id start.users = some byProvider :=
          (raced.others byProvider.id held).1.symm.trans (fetch_of_mem raced.distinct member)
        exact fun _ _ _ => .known (fetch_some_mem stored) accepted.2 accepted.1 rfl
  | none =>
      simp only
      cases merge : payload.mergeEmail with
      | none => exact createOAuthUser_races reports claims
      | some attested =>
          simp only [Program.bind_assoc]
          refine races_findUser fun read _ _ => ?_
          cases owner : read.users.find? (UserFilter.byEmailLive attested).accepts with
          | none => exact createOAuthUser_races reports claims
          | some byEmail =>
              have accepted := UserFilter.accepts_byEmailLive.mp (List.find?_some owner)
              have attests : attested = email := by
                rw [OAuthPayload.mergeEmail] at merge
                split at merge
                · exact Option.some.inj ((truthy_eq_some.mp merge).1.symm.trans claims)
                · cases merge
              have held : Holds email byEmail.id read :=
                .of_mem (List.mem_of_find?_eq_some owner) (accepted.1.trans (congrArg some attests))
              simp only [now, await, Program.perform_bind, Program.call_bind,
                Program.bind_assoc, Program.pure_eq, Program.ret_bind]
              refine races_now fun linkedAt middle moved _ => ?_
              replace held := moved.1 _ held
              rw [merged_update, flush_bind]
              refine races_now fun at_ flushing moved _ => ?_
              replace held := moved.1 _ held
              rw [writeAll_cons_bind]
              intro later moved raced _
              replace held := moved.1 _ held
              have kept : (byEmail.changes (merged byEmail payload linkedAt)).email = none :=
                changed_self _
              have applies : later.Applies (.updateUser byEmail.id
                  (byEmail.changes (merged byEmail payload linkedAt))) :=
                ⟨raced.up, Backend.violation_of_email kept⟩
              rw [execReporting_of_applies applies]
              have same : ∀ id, Holds email id (later.stored at_ (.updateUser byEmail.id
                  (byEmail.changes (merged byEmail payload linkedAt)))) ↔ Holds email id later :=
                holds_updateUser kept at_
              refine ⟨raced.rewriteHolder kept held at_, ⟨fun id => (same id).mpr,
                fun user _ _ => (same user.id).mp⟩, ?_⟩
              exact races_signedIn rfl ((same byEmail.id).mpr held)

/-! ## Upgrades -/

/-- An upgrade is of one user. -/
theorem id_of_upgrades {user other : User} {payload : UpgradePayload}
    (upgrades : (UserOperation.upgradeAccount user.hexId payload).Upgrades other) :
    other.id = user.id := by
  obtain ⟨_, same⟩ := upgrades
  injection same with named _
  have parsed := congrArg Libraries.ofHexString named
  rw [User.hexId, User.hexId, Libraries.ofHexString_toHexString,
    Libraries.ofHexString_toHexString] at parsed
  exact (Option.some.inj parsed).symm

variable {user : User} {payload : UpgradePayload}

/-- The checks of the method: they pass, or the call loses to the holder or to the account
with the identity. -/
theorem upgradeCredentials_races (upgrading : Upgrading email start user payload)
    (address : email ≠ "") (unheld : ¬Holds email user.id store) {next : User → Handler Answer}
    (rest : ∀ current later,
      (claimant email start (.upgradeAccount user.hexId payload)).rely store later →
      Credentials payload user current → current.email = some email →
      Races report email start (.upgradeAccount user.hexId payload) (next current) later) :
    Races report email start (.upgradeAccount user.hexId payload)
      (upgradeCredentials user.hexId user payload >>= next) store := by
  have free : ∀ {later},
      (claimant email start (.upgradeAccount user.hexId payload)).rely store later →
      ∀ other ∈ start.users, (UserOperation.upgradeAccount user.hexId payload).Upgrades other →
        ¬Holds email other.id later := by
    intro later moved other member upgrades held
    have earlier := moved.2 other member upgrades held
    rw [id_of_upgrades upgrades] at earlier
    exact unheld earlier
  have complete := upgrading.complete
  unfold UpgradePayload.Complete at complete
  unfold upgradeCredentials
  cases method : payload.method with
  | email =>
      rw [method] at complete
      obtain ⟨password, given⟩ := Option.isSome_iff_exists.mp complete
      have addressed : truthy payload.email = some email :=
        truthy_eq_some.mpr ⟨upgrading.claims, address⟩
      simp only [addressed, given, Program.bind_assoc]
      refine races_findUser fun later moved _ => ?_
      split
      · exact races_fail (.inl rfl) (free moved)
      · simp only [Program.bind_assoc]
        exact races_hashPassword fun passwordHash last further _ =>
          rest _ last ((claimant email start _).trans moved further)
            (.password passwordHash method addressed) rfl
  | oauth provider =>
      rw [method] at complete
      obtain ⟨providerUserId, given⟩ := Option.isSome_iff_exists.mp complete
      have linked : ∀ {later},
          (claimant email start (.upgradeAccount user.hexId payload)).rely store later →
          Races report email start (.upgradeAccount user.hexId payload)
            (upgradeCredentials.link user payload provider providerUserId >>= next) later := by
        intro later moved
        simp only [upgradeCredentials.link, now, await, Program.perform_bind, Program.call_bind,
          Program.pure_eq, Program.ret_bind]
        refine races_now fun linkedAt last further _ => ?_
        refine rest _ last ((claimant email start _).trans moved further)
          (.link linkedAt method given) ?_
        rw [withLink, upgrading.claims]
        rfl
      simp only [given, Program.bind_assoc]
      refine races_findUser fun later moved _ => ?_
      cases later.users.find? (UserFilter.byLink provider providerUserId).accepts with
      | none => exact linked moved
      | some clash =>
          simp only
          split
          · rename_i conflicting
            exact races_fail (.inr ⟨_, _, provider, _, rfl, method, conflicting, rfl⟩) (free moved)
          · exact linked moved

/-- After its flush an upgrade deletes the device rows of its user, the holder. -/
theorem races_wipe {answered : User} (member : user ∈ start.users) (own : answered.id = user.id)
    (held : Holds email user.id store) :
    Races report email start (.upgradeAccount user.hexId payload)
      (nativeDeleteDevices (.byUserId user.id) >>= fun _ => .ret (.upgraded answered)) store := by
  simp only [nativeDeleteDevices, await, Program.perform_bind, Program.call_bind]
  intro later moved raced _
  replace held := moved.1 _ held
  have deletes : Backend.execReporting report (.deleteDevices (.byUserId user.id)) later =
      ({ later with
        devices := later.devices.filter fun device =>
          !(DeviceFilter.byUserId user.id).accepts device }, .ok ()) := by
    simp only [Backend.execReporting, Backend.exec, raced.up, ↓reduceIte]
  rw [deletes]
  refine ⟨raced.wipe held, ⟨fun _ holds => holds, fun _ _ _ holds => holds⟩, ?_⟩
  exact fun last onward _ => .upgraded member own (onward.1 _ held)

/-- An upgrade plays its role: its flush makes its own user the holder, or is refused
because another one holds the email. -/
theorem upgradeAccount_races (reports : ∀ store write, ReportsEmail (report store write))
    (upgrading : Upgrading email start user payload) (race : RaceStart email start)
    (unheld : ¬Holds email user.id store) :
    Races report email start (.upgradeAccount user.hexId payload)
      (UsersController.handle (.upgradeAccount user.hexId payload)) store := by
  change Races report email start (.upgradeAccount user.hexId payload)
    (UsersService.upgradeAccount user.hexId payload >>= fun user => .ret (.upgraded user)) store
  have parsed : Libraries.ofHexString user.hexId = some user.id :=
    Libraries.ofHexString_toHexString user.id
  -- nobody but this call can make its user the holder
  have still : ∀ {earlier later}, ¬Holds email user.id earlier →
      (claimant email start (.upgradeAccount user.hexId payload)).rely earlier later →
      ¬Holds email user.id later := fun before moved held =>
    before (moved.2 user upgrading.member ⟨payload, rfl⟩ held)
  simp only [UsersService.upgradeAccount, findById, parsed, Program.bind_assoc]
  refine races_findUser fun looked moved raced => ?_
  replace unheld := still unheld moved
  have found : looked.users.find? (UserFilter.byId user.id).accepts = some user :=
    (raced.others user.id unheld).1.trans (fetch_of_mem race.distinct upgrading.member)
  have live : user.deletedAt.isSome = false := by
    rw [show user.deletedAt = none from upgrading.live]
    rfl
  simp only [found, live, Bool.false_eq_true, ↓reduceIte, Program.pure_eq, Program.ret_bind,
    upgrading.anonymous, ne_eq, not_true_eq_false, Program.bind_assoc]
  refine upgradeCredentials_races upgrading race.address unheld
    fun current checked moved credentials addressed => ?_
  replace unheld := still unheld moved
  simp only [now, await, Program.perform_bind]
  refine races_now fun upgradedAt timed moved _ => ?_
  replace unheld := still unheld moved
  have bumped : (upgraded current payload upgradedAt).tokenVersion = user.tokenVersion + 1 :=
    congrArg (· + 1) credentials.tokenVersion
  have taken : (user.changes (upgraded current payload upgradedAt)).email = some (some email) := by
    change changed user.email current.email = _
    rw [addressed, changed_of_ne upgrading.unaddressed]
  rw [User.update_of_tokenVersion (by omega)]
  refine races_flushEmail reports (fun at_ later _ => ?_)
    (fun other member upgrades held => unheld (id_of_upgrades upgrades ▸ held))
    fun at_ later moved raced _ applies => ?_
  · rw [Backend.violation]
    split
    · exact .inr rfl
    · exact .inl rfl
  · replace unheld := still unheld moved
    have stored : fetch User.id user.id later.users = some user :=
      (raced.others user.id unheld).1.trans (fetch_of_mem race.distinct upgrading.member)
    have free : emailTaken later.users user.id (some email) = false := by
      have clean := Backend.emailTaken_of_violation applies.2 (stored ▸ Option.isSome_some)
      rw [taken, Option.getD_some] at clean
      exact clean
    obtain ⟨held, again, only⟩ := raced.take free taken at_ (fetch_some_mem stored) rfl
    refine ⟨again, ⟨fun other holds => ?_, fun other member spared holds => ?_⟩, ?_⟩
    · have same : other = user.id := by
        by_contra differ
        exact unheld_of_not_taken free differ holds
      exact same ▸ held
    · have same : user.hexId = other.hexId :=
        congrArg Libraries.toHexString (only other.id holds).symm
      exact (spared ⟨payload, by rw [same]⟩).elim
    · have own : current.id = user.id := by cases credentials <;> rfl
      exact races_wipe upgrading.member own held

end Rules

/-! ## Whole races -/

section Pools

variable {report : Backend → Write → MongoError} {pool : ServicePool}

/-- What every pool of a race satisfies: the calls play their roles, upgrades are of
distinct users, and a user of the start that came to hold the email is being upgraded. -/
structure RacePool (report : Backend → Write → MongoError) (email : String) (start : Backend)
    (pool : ServicePool) : Prop where
  cast : (userServiceReporting report).Cast (Raced email start) InsertsFresh
    (claimant email start)
    (fun operation outcome later => RaceEnds LosesToAccount email start later operation outcome)
    pool
  distinct : ∀ (first second : Nat) one other, first ≠ second →
    pool.threads[first]? = some one → pool.threads[second]? = some other →
      ∀ user ∈ start.users, one.operation.Upgrades user → ¬other.operation.Upgrades user
  owners : ∀ user ∈ start.users, user.email ≠ some email → Holds email user.id pool.shared →
    ∃ (index : Nat) (thread : _), pool.threads[index]? = some thread ∧
      thread.operation.Upgrades user

/-- The calls of a race may run beside each other: what one promises is what each other one
expects. -/
theorem RacePool.compatible (racing : RacePool report email start pool) :
    System.Compatible (claimant email start) pool := by
  intro first second one other differ here there store later promised
  refine ⟨promised.1, fun user member upgrades held => ?_⟩
  refine promised.2 user member (fun also => ?_) held
  exact racing.distinct first second one other differ here there user member also upgrades

/-- One decision of the scheduler. -/
theorem RacePool.next (race : RaceStart email start)
    (reports : ∀ store write, ReportsEmail (report store write))
    (racing : RacePool report email start pool) {label : ServiceLabel}
    (allowed : Racing email start label pool)
    (granted : ∀ (index : Nat) thread command, label = .step index →
      pool.threads[index]? = some thread → thread.pending = some command →
        InsertsFresh command pool.shared) :
    RacePool report email start ((userServiceReporting report).next label pool) := by
  have quiet : ∀ event, label = .environment event →
      SameRecords pool.shared (Backend.environment event pool.shared) := by
    rintro event rfl
    cases event with
    | database up => exact allowed.elim
    | hashing up => exact allowed.elim
    | _ => exact ⟨rfl, rfl, rfl, rfl⟩
  refine ⟨racing.cast.next racing.compatible (fun operation same => ?_) granted
    (fun event same => ?_), ?_, ?_⟩
  · subst same
    obtain ⟨claims, apart⟩ := allowed
    cases claims with
    | @upgrade user payload upgrading =>
        refine upgradeAccount_races reports upgrading race fun held => ?_
        obtain ⟨index, thread, present, upgrades⟩ :=
          racing.owners user upgrading.member upgrading.unaddressed held
        exact apart user upgrading.member ⟨payload, rfl⟩ thread (List.mem_of_getElem? present)
          upgrades
    | login claims => exact findOrCreateOAuthUser_races reports claims
  · exact ⟨racing.cast.kept.of_same (quiet event same), fun _ => (quiet event same).rely⟩
  · intro first second one other differ here there user member upgrades also
    rcases System.operation_of_next here with ⟨old, before, same⟩ | ⟨spawned, last⟩
    · rcases System.operation_of_next there with ⟨old', before', same'⟩ | ⟨spawned, last⟩
      · exact racing.distinct first second old old' differ before before' user member
          (same ▸ upgrades) (same' ▸ also)
      · subst spawned
        exact allowed.2 user member also old (List.mem_of_getElem? before) (same ▸ upgrades)
    · rcases System.operation_of_next there with ⟨old', before', same'⟩ | ⟨_, last'⟩
      · subst spawned
        exact allowed.2 user member upgrades old' (List.mem_of_getElem? before') (same' ▸ also)
      · exact differ (last.trans last'.symm)
  · intro user member unaddressed held
    have persists : ∀ {index : Nat} {thread : _}, pool.threads[index]? = some thread →
        thread.operation.Upgrades user → ∃ (index : Nat) (thread : _),
          ((userServiceReporting report).next label pool).threads[index]? = some thread ∧
            thread.operation.Upgrades user := by
      intro index thread present upgrades
      obtain ⟨later, found, same⟩ := System.next_of_get _ label present
      exact ⟨index, later, found, same ▸ upgrades⟩
    by_cases before : Holds email user.id pool.shared
    · obtain ⟨index, thread, present, upgrades⟩ := racing.owners user member unaddressed before
      exact persists present upgrades
    -- otherwise this decision has made it the holder, so it is a step of its upgrade
    cases label with
    | spawn operation => exact (before held).elim
    | step index =>
        cases found : pool.threads[index]? with
        | none =>
            rw [System.next_step_of_none found] at held
            exact (before held).elim
        | some thread =>
            obtain ⟨_, promised, _⟩ := racing.cast.step found
              fun command pending => granted index thread command rfl found pending
            have upgrades : thread.operation.Upgrades user := by
              by_contra spared
              exact before (promised.2 user member spared held)
            exact persists found upgrades
    | crash index =>
        cases found : pool.threads[index]? with
        | none =>
            rw [System.next_crash_of_none found] at held
            exact (before held).elim
        | some thread =>
            rw [System.next_crash_of_get found] at held
            exact (before held).elim
    | environment event => exact (before (((quiet event rfl).holds user.id).mp held)).elim

end Pools

end Law

/-! ## A loser with the winner's identity -/

section Collision

open scoped Plain

end Collision

end NestMonorepo
