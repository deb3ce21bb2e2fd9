import NestMonorepo.Users.Store

/-! # Handlers run one after another

With nothing in between, a handler's outcome is a function of the store it
starts in. One equation per building block evaluates a run command by command;
from these, one relation per operation lists how it may end and what it has
done to the users.
-/

namespace NestMonorepo

open Collections Concurrency Handler UsersService

variable [Libraries]

/-- The store and the outcome after a program has run alone. -/
def Handler.runIn {α : Type} (program : Handler α) (store : Backend) :
    Backend × Except ServiceError α :=
  program.run Backend.exec store

/-- One message, served to its end. -/
def serve (operation : UserOperation) (store : Backend) : Backend × Except ServiceError Answer :=
  (UsersController.handle operation).runIn store

/-- The stores reached by serving messages one after another, while time passes
and the surroundings change in between. -/
inductive Served (start : Backend) : Backend → Prop
  | start : Served start start
  | serve {store} (operation : UserOperation) : Served start store →
      Served start (serve operation store).1
  | environment {store} (event : Backend.Event) : Served start store →
      Served start (Backend.environment event store)

/-! ## Building blocks -/

section Blocks

variable {α β : Type} {store : Backend}

/-- A handler that has answered hands its answer, and the store as it left it, to what
follows. -/
theorem runIn_bind_of_ok {program : Handler α} {after : Backend} {value : α}
    (ran : program.runIn store = (after, .ok value)) (next : α → Handler β) :
    (program >>= next).runIn store = (next value).runIn after :=
  Program.run_bind_of_ok _ ran next

/-- What follows a handler that fails is never run: the store and the error are the
handler's. -/
theorem runIn_bind_of_error {program : Handler α} {after : Backend} {error : ServiceError}
    (ran : program.runIn store = (after, .error error)) (next : α → Handler β) :
    (program >>= next).runIn store = (after, .error error) :=
  Program.run_bind_of_error _ ran next

/-- Returning changes nothing of the store. -/
@[simp] theorem runIn_ret (value : α) :
    Handler.runIn (.ret value) store = (store, .ok value) := rfl

/-- Nor does failing. -/
@[simp] theorem runIn_fail (error : ServiceError) :
    Handler.runIn (.fail error : Handler α) store = (store, .error error) := rfl

/-- A thrown exception ends the handler where it stands, with the store as it is. -/
@[simp] theorem runIn_throw (exception : MicroserviceException) :
    (throwException exception : Handler α).runIn store =
      (store, .error (.microservice exception)) := rfl

/-- A thrown exception ends the handler; what would follow is not performed. -/
@[simp] theorem runIn_throw_bind (exception : MicroserviceException) (next : α → Handler β) :
    (throwException exception >>= next).runIn store =
      (store, .error (.microservice exception)) := rfl

/-- Reading the clock changes nothing, and no time passes while a message is served alone. -/
@[simp] theorem runIn_now (next : Millis → Handler β) :
    (now >>= next).runIn store = (next store.clock).runIn store := rfl

/-- A drawn id is the next one, and the following draw gets the one after it. -/
@[simp] theorem runIn_newObjectId (next : ObjectId → Handler β) :
    (newObjectId >>= next).runIn store =
      (next store.nextObjectId).runIn
        { store with nextObjectId := store.nextObjectId + 1 } := rfl

/-- A lookup of a user on a database that answers: the first stored user that the filter
accepts. -/
theorem runIn_findUser (up : store.databaseUp = true) (filter : UserFilter)
    (next : Option User → Handler β) :
    (findUser filter >>= next).runIn store =
      (next (store.users.find? filter.accepts)).runIn store := by
  simp only [runIn, findUser, await, Program.perform_bind, Program.call_bind, Program.run_call,
    Backend.exec, Backend.answer, up, ↓reduceIte, ofReply_ok, Program.ret_bind]

/-- Without the database the lookup fails with the driver's error, and nothing is changed. -/
theorem runIn_findUser_down (down : store.databaseUp = false) (filter : UserFilter)
    (next : Option User → Handler β) :
    (findUser filter >>= next).runIn store = (store, .error (.mongo unavailableError)) := by
  simp only [runIn, findUser, await, Program.perform_bind, Program.call_bind, Program.run_call,
    Backend.exec, Backend.answer, down, Bool.false_eq_true, ↓reduceIte, ofReply_error,
    Program.fail_bind, Program.run_fail]

/-- A lookup of a device on a database that answers: the row with the fingerprint, if there
is one. -/
theorem runIn_findDevice (up : store.databaseUp = true) (fingerprint : String)
    (next : Option Device → Handler β) :
    (findDevice fingerprint >>= next).runIn store =
      (next (fetch Device.fingerprint fingerprint store.devices)).runIn store := by
  simp only [runIn, findDevice, await, Program.perform_bind, Program.call_bind, Program.run_call,
    Backend.exec, Backend.answer, up, ↓reduceIte, ofReply_ok, Program.ret_bind]

/-- Without the database the lookup of a device fails as that of a user does. -/
theorem runIn_findDevice_down (down : store.databaseUp = false) (fingerprint : String)
    (next : Option Device → Handler β) :
    (findDevice fingerprint >>= next).runIn store =
      (store, .error (.mongo unavailableError)) := by
  simp only [runIn, findDevice, await, Program.perform_bind, Program.call_bind, Program.run_call,
    Backend.exec, Backend.answer, down, Bool.false_eq_true, ↓reduceIte, ofReply_error,
    Program.fail_bind, Program.run_fail]

/-- A lookup of an outbox row on a database that answers, by its idempotency key. -/
theorem runIn_findOutboxEvent (up : store.databaseUp = true) (idempotencyKey : String)
    (next : Option OutboxEvent → Handler β) :
    (findOutboxEvent idempotencyKey >>= next).runIn store =
      (next (fetch OutboxEvent.idempotencyKey idempotencyKey store.outbox)).runIn store := by
  simp only [runIn, findOutboxEvent, await, Program.perform_bind, Program.call_bind,
    Program.run_call, Backend.exec, Backend.answer, up, ↓reduceIte, ofReply_ok, Program.ret_bind]

/-- A native delete removes every row that its filter accepts and goes on. -/
theorem runIn_nativeDeleteDevices (filter : DeviceFilter) (next : Unit → Handler β)
    (up : store.databaseUp = true) :
    (nativeDeleteDevices filter >>= next).runIn store =
      (next ()).runIn
        { store with devices := store.devices.filter fun device => !filter.accepts device } := by
  simp only [runIn, nativeDeleteDevices, await, Program.perform_bind, Program.call_bind,
    Program.run_call, Backend.exec, up, ↓reduceIte, ofReply_ok, Program.ret_bind]

/-- The next random bytes are used up. -/
@[simp] theorem runIn_randomBytes (next : String → Handler β) :
    (await .randomBytes >>= next).runIn store =
      (next (Libraries.randomHex store.randomDraws)).runIn
        { store with randomDraws := store.randomDraws + 1 } := rfl

variable (store) in
/-- The end of `forgotPassword`: the users stay, whether the mail goes out or not. -/
theorem runIn_sendPasswordReset (email token : String) :
    ∃ after, after.users = store.users ∧
      (await (.sendPasswordReset email token) >>= fun _ => (pure () : Handler Unit)).runIn store =
        (after, .ok ()) := by
  simp only [runIn, await, Program.perform_bind, Program.run_call, Program.pure_eq,
    Program.run_ret, Prod.mk.injEq, and_true, exists_eq_right', Backend.exec]
  split <;> rfl

/-- Hashing draws a salt; the hash is that of the password under this draw. -/
theorem runIn_hashPassword_up (up : store.hashingUp = true) (password : String)
    (next : String → Handler β) :
    (hashPassword password >>= next).runIn store =
      (next (Libraries.argon2Hash store.randomDraws password)).runIn
        { store with randomDraws := store.randomDraws + 1 } := by
  simp only [runIn, hashPassword, await, Program.perform_bind, Program.call_bind,
    Program.run_call, Backend.exec, up, ↓reduceIte, Program.pure_eq, Program.ret_bind]

/-- A failing hash function ends the handler, before anything is written. -/
theorem runIn_hashPassword_down (down : store.hashingUp = false) (password : String)
    (next : String → Handler β) :
    (hashPassword password >>= next).runIn store = (store, .error (.other "argon2 failed")) := by
  simp only [runIn, hashPassword, await, Program.perform_bind, Program.call_bind,
    Program.run_call, Backend.exec, down, Bool.false_eq_true, ↓reduceIte, Program.fail_bind,
    Program.run_fail]

variable (store) in
/-- A hash takes a random salt, and either it succeeds or the handler ends. -/
theorem runIn_hashPassword (password : String) (next : String → Handler β) :
    (hashPassword password >>= next).runIn store =
      (next (Libraries.argon2Hash store.randomDraws password)).runIn
        { store with randomDraws := store.randomDraws + 1 } ∨
    ∃ error, (hashPassword password >>= next).runIn store = (store, .error error) := by
  by_cases up : store.hashingUp = true
  · exact .inl (runIn_hashPassword_up up password next)
  · exact .inr ⟨_, runIn_hashPassword_down (eq_false_of_ne_true up) password next⟩

/-- A flush stamps all its writes with the time at its start and then performs them in order. -/
theorem runIn_flush (writes : List Write) (next : Millis → Handler β) :
    (flush writes >>= next).runIn store =
      (writeAll store.clock writes >>= fun _ => next store.clock).runIn store := by
  rw [flush_bind]
  rfl

/-- A flush stores its first write and goes on with the others, or fails. -/
theorem runIn_writeAll_cons (at_ : Millis) (write : Write) (rest : List Write)
    (next : Unit → Handler β) (up : store.databaseUp = true) :
    (writeAll at_ (write :: rest) >>= next).runIn store =
      match store.violation write with
      | none => (writeAll at_ rest >>= next).runIn (store.stored at_ write)
      | some error => (store, .error (.mongo error)) := by
  simp only [runIn, Program.run_call, Backend.exec, writeAll_cons_bind, up, ↓reduceIte]
  cases violated : store.violation write with
  | none => simp only [Backend.write_of_none violated, ofReply_ok, Program.ret_bind]
  | some error =>
      simp only [Backend.write_of_violation violated, ofReply_error, Program.fail_bind,
        Program.run_fail]

/-- A flush of one write that no index refuses stores it, and there is no error to translate. -/
theorem runIn_flushEmail_of_clean {write : Write} (next : Millis → Handler β)
    (up : store.databaseUp = true) (clean : store.violation write = none) :
    (flushEmail [write] >>= next).runIn store =
      (next store.clock).runIn (store.stored store.clock write) := by
  simp only [flushEmail, flush, now, await, writeAll, Program.perform_bind, Program.call_bind,
    Program.bind_assoc, Program.pure_eq, Program.ret_bind, Program.attempt_call, runIn,
    Program.run_call, Backend.exec, up, ↓reduceIte, Backend.write_of_none clean, ofReply_ok,
    Program.attempt_ret]

variable (store) in
/-- `flushEmail` of one write stores it or fails without effect. -/
theorem runIn_flushEmail (write : Write) (next : Millis → Handler β)
    (up : store.databaseUp = true) :
    (store.violation write = none ∧ (flushEmail [write] >>= next).runIn store =
      (next store.clock).runIn (store.stored store.clock write)) ∨
    ∃ error, (flushEmail [write] >>= next).runIn store = (store, .error error) := by
  cases violated : store.violation write with
  | none => exact .inl ⟨rfl, runIn_flushEmail_of_clean next up violated⟩
  | some error =>
      refine .inr ?_
      simp only [flushEmail, flush, now, await, writeAll, Program.perform_bind, Program.call_bind,
        Program.bind_assoc, Program.pure_eq, Program.ret_bind, Program.attempt_call, runIn,
        Program.run_call, Backend.exec, up, ↓reduceIte, Backend.write_of_violation violated,
        ofReply_error, Program.fail_bind, Program.attempt_fail]
      split
      · exact ⟨_, rfl⟩
      · exact ⟨_, rfl⟩

variable (store) in
/-- `findById` leaves the store alone and returns the live user of its id, or fails: without
such a user, or without the database. -/
theorem runIn_findById (userId : String) :
    (∃ user, store.databaseUp = true ∧ Libraries.ofHexString userId = some user.id ∧
      fetch User.id user.id store.users = some user ∧ user.Live ∧
      (findById userId).runIn store = (store, .ok user)) ∨
    ∃ error, (findById userId).runIn store = (store, .error error) := by
  unfold findById
  cases parsed : Libraries.ofHexString userId with
  | none => exact .inr ⟨_, rfl⟩
  | some id =>
      cases up : store.databaseUp with
      | false => exact .inr ⟨_, runIn_findUser_down up _ _⟩
      | true =>
          simp only [runIn_findUser up]
          cases found : store.users.find? (UserFilter.byId id).accepts with
          | none => exact .inr ⟨_, rfl⟩
          | some user =>
              by_cases live : user.deletedAt = none
              · have accepted : (UserFilter.byId id).accepts user = true := List.find?_some found
                have same : user.id = id := of_decide_eq_true accepted
                refine .inl ⟨user, trivial, congrArg some same.symm, ?_, live, ?_⟩
                · rw [same]
                  exact found
                · simp only [live, Option.isSome_none, Bool.false_eq_true, ↓reduceIte,
                    Program.pure_eq, runIn_ret]
              · refine .inr ⟨.microservice userNotFound, ?_⟩
                simp only [Option.isSome_iff_ne_none.mpr live, ↓reduceIte, runIn_throw]

/-- The user a well-formed id belongs to is found while the database answers. -/
theorem runIn_findById_of_live {userId : String} {user : User} (up : store.databaseUp = true)
    (parsed : Libraries.ofHexString userId = some user.id)
    (stored : fetch User.id user.id store.users = some user) (live : user.Live) :
    (findById userId).runIn store = (store, .ok user) := by
  have found : store.users.find? (UserFilter.byId user.id).accepts = some user := stored
  simp only [findById, parsed, runIn_findUser up, found, show user.deletedAt = none from live,
    Option.isSome_none, Bool.false_eq_true, ↓reduceIte, Program.pure_eq, runIn_ret]

end Blocks

/-- No command starts or stops the database, so no handler does. -/
theorem runIn_databaseUp {α : Type} (program : Handler α) (store : Backend) :
    (program.runIn store).1.databaseUp = store.databaseUp := by
  refine Program.run_relation Backend.exec
    (fun before after => after.databaseUp = before.databaseUp) (fun _ => rfl)
    (fun first second => second.trans first) (fun command before => ?_) program store
  have effect := Backend.exec_effect command before
  generalize (Backend.exec command before).1 = after at effect ⊢
  cases effect with
  | @stored write => cases write <;> rfl
  | _ => rfl

/-! ## How each message may end -/

/-- The user a device leads back to: the row is not blocked and its user is still
anonymous. Whether that user is deleted is not asked. -/
def LeadsTo (store : Backend) (fingerprint : String) (device : Device) (linked : User) : Prop :=
  fetch Device.fingerprint fingerprint store.devices = some device ∧ device.isBlocked = false ∧
    fetch User.id device.userId store.users = some linked ∧ linked.accountType = .autoreg

/-- The stored users once `loaded` has been rewritten as `current`. -/
def rewritten (store : Backend) (loaded current : User) : List User :=
  modifyAt User.id loaded.id (·.apply (loaded.changes current) store.clock) store.users

/-- `Ends operation store users outcome`: served alone in `store`, the message
leaves `users` and answers `outcome`. -/
inductive Ends : UserOperation → Backend → List User → Except ServiceError Answer → Prop
  | failed {operation store} (error : ServiceError) :
      Ends operation store store.users (.error error)
  | silent {operation store answer} : issued operation answer = none →
      Ends operation store store.users (.ok answer)
  | recovered {payload store device linked} : store.databaseUp = true →
      payload.fingerprint ≠ "" → LeadsTo store payload.fingerprint device linked →
      Ends (.createAutoregUser payload) store store.users (.ok (.autoreg
        ⟨linked.hexId, Libraries.toHexString device.id, linked.tokenVersion⟩))
  | created {payload store} {outcome : Except ServiceError Answer} : store.databaseUp = true →
      (∀ device linked, ¬LeadsTo store payload.fingerprint device linked) →
      fetch User.id store.nextObjectId store.users = none →
      (∀ answer, outcome = .ok answer → ∃ deviceRecordId,
        answer = .autoreg ⟨Libraries.toHexString store.nextObjectId, deviceRecordId, 0⟩) →
      Ends (.createAutoregUser payload) store
        (store.users ++ [autoregUser store.nextObjectId store.clock]) outcome
  | loggedIn {email password store user} : store.databaseUp = true →
      store.users.find? (UserFilter.byEmailLive email).accepts = some user →
      (truthy user.passwordHash).isSome →
      verifyPassword (user.passwordHash.getD dummyArgon2Hash) password = true →
      Ends (.login email password) store store.users (.ok (.identity user.identity))
  | upgraded {userId payload store user current} : store.databaseUp = true →
      Libraries.ofHexString userId = some user.id →
      fetch User.id user.id store.users = some user → user.Live → user.accountType = .autoreg →
      Credentials payload user current →
      Ends (.upgradeAccount userId payload) store
        (rewritten store user (upgraded current payload store.clock))
        (.ok (.upgraded { upgraded current payload store.clock with updatedAt := store.clock }))
  | oauthKnown {payload store user} : store.databaseUp = true →
      store.users.find? (UserFilter.byLinkLive payload.provider payload.providerUserId).accepts =
        some user →
      Ends (.findOrCreateOAuthUser payload) store store.users (.ok (.identity user.identity))
  | oauthMerged {payload store email user} : store.databaseUp = true →
      store.users.find? (UserFilter.byLinkLive payload.provider payload.providerUserId).accepts =
        none →
      payload.mergeEmail = some email →
      store.users.find? (UserFilter.byEmailLive email).accepts = some user →
      Ends (.findOrCreateOAuthUser payload) store
        (rewritten store user (merged user payload store.clock))
        (.ok (.identity user.identity))
  | oauthCreated {payload store} : store.databaseUp = true →
      store.users.find? (UserFilter.byLinkLive payload.provider payload.providerUserId).accepts =
        none →
      (∀ email, payload.mergeEmail = some email →
        store.users.find? (UserFilter.byEmailLive email).accepts = none) →
      fetch User.id store.nextObjectId store.users = none →
      emailTaken store.users store.nextObjectId payload.email = false →
      Ends (.findOrCreateOAuthUser payload) store
        (store.users ++ [oauthUser payload store.nextObjectId store.clock])
        (.ok (.identity (oauthUser payload store.nextObjectId store.clock).identity))
  | resetRequested {email store user} :
      store.users.find? (UserFilter.byEmailLive email).accepts = some user →
      Ends (.forgotPassword email) store
        (rewritten store user
          (resetRequested user (Libraries.randomHex store.randomDraws) store.clock))
        (.ok .acknowledged)
  | passwordReset {token newPassword store user} :
      store.users.find? (UserFilter.byResetTokenLive (hashResetToken token)).accepts =
        some user →
      user.resetPasswordExpiry.all (fun expiry => expiry < store.clock) = false →
      Ends (.resetPassword token newPassword) store
        (rewritten store user
          (passwordReset user (Libraries.argon2Hash store.randomDraws newPassword)))
        (.ok .acknowledged)
  | versioned {userId store user} : store.databaseUp = true →
      Libraries.ofHexString userId = some user.id →
      fetch User.id user.id store.users = some user → user.Live →
      Ends (.getUserTokenVersion userId) store store.users (.ok (.tokenVersion user.tokenVersion))
  | profile {userId data store user answer} :
      Libraries.ofHexString userId = some user.id →
      fetch User.id user.id store.users = some user → user.Live →
      issued (.updateUser userId data) answer = none →
      Ends (.updateUser userId data) store (rewritten store user (data.applyTo user))
        (.ok answer)
  | deleted {userId store user} {outcome : Except ServiceError Answer} :
      Libraries.ofHexString userId = some user.id →
      fetch User.id user.id store.users = some user → user.Live →
      (∀ answer, outcome = .ok answer → issued (.deleteUser userId) answer = none) →
      Ends (.deleteUser userId) store
        (rewritten store user (softDeleted user store.clock)) outcome

/-- The outcome of a run, in the form of `Ends`. -/
def EndsIn {α : Type} (operation : UserOperation) (answer : α → Answer) (program : Handler α)
    (store : Backend) : Prop :=
  Ends operation store (program.runIn store).1.users ((program.runIn store).2.map answer)

section Operations

variable {store : Backend}

/-- A handler that fails and leaves the store as it was ends as a failed message does. -/
theorem EndsIn.of_error {α : Type} {operation : UserOperation} {answer : α → Answer}
    {program : Handler α} {error : ServiceError}
    (ran : program.runIn store = (store, .error error)) :
    EndsIn operation answer program store := by
  rw [EndsIn, ran]
  exact .failed error

/-- A login reads one user and writes nothing, whether it accepts the password or not. -/
theorem login_ends (email password : String) :
    EndsIn (.login email password) .identity (UsersService.login email password) store := by
  cases up : store.databaseUp with
  | false => exact .of_error (runIn_findUser_down up _ _)
  | true =>
      rw [EndsIn, UsersService.login, runIn_findUser up]
      cases found : store.users.find? (UserFilter.byEmailLive email).accepts with
      | none => exact .failed _
      | some user =>
          simp only [Option.bind_some]
          split
          · exact .failed _
          · rename_i valid
            simp only [Bool.or_eq_true, Option.isNone_iff_eq_none, Bool.not_eq_true', not_or,
              Bool.not_eq_false] at valid
            exact .loggedIn up found (Option.isSome_iff_ne_none.mpr valid.1) valid.2

/-! ### Anonymous registration -/

/-- The device rows that are left once a row that leads nowhere is gone. -/
inductive Cleared (store : Backend) (fingerprint : String) : List Device → Prop
  | unseen : fetch Device.fingerprint fingerprint store.devices = none →
      Cleared store fingerprint store.devices
  | stale {existing : Device} :
      fetch Device.fingerprint fingerprint store.devices = some existing →
      existing.isBlocked = false →
      (∀ linked, fetch User.id existing.userId store.users = some linked →
        linked.accountType ≠ .autoreg) →
      Cleared store fingerprint
        (store.devices.filter fun device => !(DeviceFilter.byId existing.id).accepts device)

/-- The device rows once a row has been seen again. -/
def touched (store : Backend) (device : Device) (payload : AutoregPayload) : List Device :=
  if device.changes (seenAgain device payload store.clock) = {} then store.devices
  else modifyAt Device.id device.id
    (·.apply (device.changes (seenAgain device payload store.clock)) store.clock) store.devices

/-- How an anonymous registration may end. -/
inductive AutoregEnds (payload : AutoregPayload) (store : Backend) :
    Backend → Except ServiceError AutoregResult → Prop
  | failed (error : ServiceError) : AutoregEnds payload store store (.error error)
  | blocked {device : Device} : store.databaseUp = true →
      fetch Device.fingerprint payload.fingerprint store.devices = some device →
      device.isBlocked = true →
      AutoregEnds payload store store (.error (.microservice (deviceBlocked device)))
  | seenAgain {device linked} : store.databaseUp = true →
      LeadsTo store payload.fingerprint device linked →
      AutoregEnds payload store { store with devices := touched store device payload }
        (.ok ⟨linked.hexId, Libraries.toHexString device.id, linked.tokenVersion⟩)
  | refused {devices : List Device} (error : ServiceError) :
      Cleared store payload.fingerprint devices →
      AutoregEnds payload store
        { store with devices, nextObjectId := store.nextObjectId + 2 } (.error error)
  /-- The user is stored first, and its device row refused. -/
  | orphaned {devices : List Device} (error : ServiceError) : store.databaseUp = true →
      Cleared store payload.fingerprint devices →
      fetch User.id store.nextObjectId store.users = none →
      (fetch Device.id (store.nextObjectId + 1) devices ≠ none ∨
        fetch Device.fingerprint payload.fingerprint devices ≠ none) →
      AutoregEnds payload store
        { store with
          users := store.users ++ [autoregUser store.nextObjectId store.clock]
          devices, nextObjectId := store.nextObjectId + 2 } (.error error)
  /-- The device row is stored first, and its user refused. -/
  | unowned {devices : List Device} (error : ServiceError) : store.databaseUp = true →
      Cleared store payload.fingerprint devices →
      fetch User.id store.nextObjectId store.users ≠ none →
      fetch Device.id (store.nextObjectId + 1) devices = none →
      fetch Device.fingerprint payload.fingerprint devices = none →
      AutoregEnds payload store
        { store with
          devices := devices ++
            [autoregDevice payload (store.nextObjectId + 1) store.nextObjectId store.clock]
          nextObjectId := store.nextObjectId + 2 } (.error error)
  | created {devices : List Device} : store.databaseUp = true →
      Cleared store payload.fingerprint devices →
      fetch User.id store.nextObjectId store.users = none →
      fetch Device.id (store.nextObjectId + 1) devices = none →
      fetch Device.fingerprint payload.fingerprint devices = none →
      AutoregEnds payload store
        { store with
          users := store.users ++ [autoregUser store.nextObjectId store.clock]
          devices := devices ++
            [autoregDevice payload (store.nextObjectId + 1) store.nextObjectId store.clock]
          nextObjectId := store.nextObjectId + 2 }
        (.ok ⟨Libraries.toHexString store.nextObjectId,
          Libraries.toHexString (store.nextObjectId + 1), 0⟩)

omit [Libraries] in
/-- A cleared fingerprint leads to no account. -/
theorem Cleared.unled {fingerprint : String} {devices : List Device}
    (cleared : Cleared store fingerprint devices) (device : Device) (linked : User) :
    ¬LeadsTo store fingerprint device linked := by
  rintro ⟨seen, _, stored, anonymous⟩
  cases cleared with
  | unseen absent => exact nomatch absent.symm.trans seen
  | stale present _ upgraded =>
      cases present.symm.trans seen
      exact upgraded linked stored anonymous

omit [Libraries] in
/-- A device row is refused for its id or for its fingerprint. -/
theorem violation_insertDevice {device : Device} :
    store.violation (.insertDevice device) = none ↔
      fetch Device.id device.id store.devices = none ∧
        fetch Device.fingerprint device.fingerprint store.devices = none := by
  cases used : fetch Device.id device.id store.devices with
  | some other =>
      simp only [Backend.violation, used, Option.isSome_some, ↓reduceIte, reduceCtorEq, false_and]
  | none =>
      cases seen : fetch Device.fingerprint device.fingerprint store.devices with
      | some other =>
          simp only [Backend.violation, used, seen, Option.isSome_none, Bool.false_eq_true,
            Option.isSome_some, ↓reduceIte, reduceCtorEq, and_false]
      | none =>
          simp only [Backend.violation, used, seen, Option.isSome_none, Bool.false_eq_true,
            ↓reduceIte, and_self]

omit [Libraries] in
/-- An anonymous user is refused for its id only. -/
theorem violation_insertAutoreg {id : ObjectId} {createdAt : Millis} :
    store.violation (.insertUser (autoregUser id createdAt)) = none ↔
      fetch User.id id store.users = none := by
  cases taken : fetch User.id id store.users with
  | some other =>
      simp only [Backend.violation, autoregUser, taken, Option.isSome_some, ↓reduceIte,
        reduceCtorEq]
  | none =>
      simp only [Backend.violation, autoregUser, taken, emailTaken, Option.isSome_none,
        Bool.false_and, Bool.false_eq_true, ↓reduceIte]

/-- The end of a registration: a fresh user and the device that leads to it, or the user or
the device alone where the second insert is refused. -/
theorem createFreshAutoreg_ends {payload : AutoregPayload} {devices : List Device}
    (up : store.databaseUp = true) (cleared : Cleared store payload.fingerprint devices) :
    AutoregEnds payload store ((createFreshAutoreg payload).runIn { store with devices }).1
      ((createFreshAutoreg payload).runIn { store with devices }).2 := by
  rw [createFreshAutoreg, runIn_newObjectId, runIn_newObjectId, runIn_now, runIn_flush]
  unfold autoregWrites
  split
  · rw [runIn_writeAll_cons]
    swap
    · exact up
    split
    · rename_i clean
      obtain ⟨unused, unseen⟩ := violation_insertDevice.mp clean
      rw [runIn_writeAll_cons]
      swap
      · exact up
      split
      · rename_i fresh
        exact .created up cleared (violation_insertAutoreg.mp fresh) unused unseen
      · rename_i error taken
        refine .unowned _ up cleared (fun fresh => ?_) unused unseen
        cases (violation_insertAutoreg.mpr fresh).symm.trans taken
    · exact .refused _ cleared
  · rw [runIn_writeAll_cons]
    swap
    · exact up
    split
    · rename_i clean
      have fresh := violation_insertAutoreg.mp clean
      rw [runIn_writeAll_cons]
      swap
      · exact up
      split
      · rename_i accepted
        obtain ⟨unused, unseen⟩ := violation_insertDevice.mp accepted
        exact .created up cleared fresh unused unseen
      · rename_i error refused
        refine .orphaned _ up cleared fresh ?_
        by_contra free
        simp only [ne_eq, not_or, not_not] at free
        cases (violation_insertDevice.mpr free).symm.trans refused
    · exact .refused _ cleared

variable (store) in
/-- A registration ends in one of the ways of `AutoregEnds`, in every store: the cases are
those of the lookup, of the linked user and of the writes of the flush. -/
theorem createAutoregUser_cases (payload : AutoregPayload) :
    AutoregEnds payload store ((UsersService.createAutoregUser payload).runIn store).1
      ((UsersService.createAutoregUser payload).runIn store).2 := by
  cases up : store.databaseUp with
  | false =>
      rw [UsersService.createAutoregUser, runIn_findDevice_down up]
      exact .failed _
  | true =>
      rw [UsersService.createAutoregUser, runIn_findDevice up]
      cases seen : fetch Device.fingerprint payload.fingerprint store.devices with
      | none => exact createFreshAutoreg_ends up (.unseen seen)
      | some existing =>
          simp only
          split
          · rename_i blocked
            exact .blocked up seen blocked
          rename_i unblocked
          rw [runIn_findUser up]
          cases found : store.users.find? (UserFilter.byId existing.userId).accepts with
          | none =>
              simp only
              rw [runIn_nativeDeleteDevices _ _ up]
              refine createFreshAutoreg_ends up (.stale seen (eq_false_of_ne_true unblocked) ?_)
              intro linked stored
              cases found.symm.trans stored
          | some linkedUser =>
              simp only
              split
              · rename_i upgraded
                rw [runIn_nativeDeleteDevices _ _ up]
                refine createFreshAutoreg_ends up (.stale seen (eq_false_of_ne_true unblocked) ?_)
                intro linked stored
                cases found.symm.trans stored
                exact upgraded
              · rename_i anonymous
                simp only [ne_eq, Decidable.not_not] at anonymous
                have leads : LeadsTo store payload.fingerprint existing linkedUser :=
                  ⟨seen, eq_false_of_ne_true unblocked, found, anonymous⟩
                have accepted : (UserFilter.byId existing.userId).accepts linkedUser = true :=
                  List.find?_some found
                have same : linkedUser.id = existing.userId := of_decide_eq_true accepted
                have rows : AutoregEnds payload store
                    { store with devices := touched store existing payload } _ :=
                  .seenAgain up leads
                rw [runIn_now, runIn_flush, Device.update, ← same]
                rw [touched] at rows
                split
                · rename_i unchanged
                  rw [if_pos unchanged] at rows
                  exact rows
                · rename_i differs
                  rw [if_neg differs] at rows
                  rw [runIn_writeAll_cons _ _ _ _ up]
                  exact rows

/-- From these ways: what a registration leaves of the users, and what it answers. -/
theorem createAutoregUser_ends (payload : AutoregPayload) :
    EndsIn (.createAutoregUser payload) .autoreg (UsersController.createAutoregUser payload)
      store := by
  unfold UsersController.createAutoregUser
  split
  · exact .of_error rfl
  rename_i present
  rw [EndsIn]
  have ends := createAutoregUser_cases store payload
  generalize (UsersService.createAutoregUser payload).runIn store = ended at ends
  obtain ⟨after, outcome⟩ := ended
  cases ends with
  | failed error => exact .failed error
  | blocked => exact .failed _
  | seenAgain up leads => exact .recovered up present leads
  | refused error => exact .failed error
  | orphaned error up cleared fresh => exact .created up cleared.unled fresh fun answer => nofun
  | unowned error => exact .failed error
  | created up cleared fresh =>
      refine .created up cleared.unled fresh fun answer returned => ?_
      cases returned
      exact ⟨_, rfl⟩

/-- An upgrade by email stores the hash of the password it was given. -/
def HashesPassword (payload : UpgradePayload) (store : Backend) (current : User) : Prop :=
  payload.method = .email → ∃ password, payload.password = some password ∧
    current.passwordHash = some (Libraries.argon2Hash store.randomDraws password)

/-- The credentials of an upgrade: computed without a write, on a store that has at most
drawn a salt, or refused with the store's users as they were. -/
theorem upgradeCredentials_run (userId : String) (user : User) (payload : UpgradePayload)
    (up : store.databaseUp = true) :
    (∃ current after, (upgradeCredentials userId user payload).runIn store =
        (after, .ok current) ∧ Credentials payload user current ∧
        HashesPassword payload store current ∧
        after = { store with randomDraws := after.randomDraws }) ∨
      ∃ error, (upgradeCredentials userId user payload).runIn store = (store, .error error) := by
  unfold upgradeCredentials
  cases method : payload.method with
  | email =>
      simp only
      split
      · rename_i email password presentEmail presentPassword
        rw [runIn_findUser up]
        split
        · exact .inr ⟨_, rfl⟩
        · rcases runIn_hashPassword store password fun passwordHash =>
            (pure (withPassword user email passwordHash) : Handler User) with hashed | failed
          · exact .inl ⟨_, _, hashed, .password _ method presentEmail,
              fun _ => ⟨password, (truthy_eq_some.mp presentPassword).1, rfl⟩, rfl⟩
          · exact .inr failed
      · exact .inr ⟨_, rfl⟩
  | oauth provider =>
      have unhashed : ∀ current, HashesPassword payload store current :=
        fun _ byEmail => nomatch method.symm.trans byEmail
      simp only
      cases identity : truthy payload.providerUserId with
      | none => exact .inr ⟨_, rfl⟩
      | some providerUserId =>
          simp only
          rw [runIn_findUser up]
          split
          · split
            · exact .inr ⟨_, rfl⟩
            · exact .inl ⟨_, _, rfl, .link store.clock method identity, unhashed _, rfl⟩
          · exact .inl ⟨_, _, rfl, .link store.clock method identity, unhashed _, rfl⟩

/-- How an upgrade may end: with nothing but random draws used up, or with the
user rewritten and its devices gone. -/
inductive UpgradeEnds (userId : String) (payload : UpgradePayload) (store : Backend) :
    Backend → Except ServiceError User → Prop
  | failed {randomDraws : Nat} (error : ServiceError) :
      UpgradeEnds userId payload store { store with randomDraws } (.error error)
  | upgraded {randomDraws : Nat} {user current : User} : store.databaseUp = true →
      Libraries.ofHexString userId = some user.id →
      fetch User.id user.id store.users = some user → user.Live → user.accountType = .autoreg →
      Credentials payload user current →
      store.violation (.updateUser user.id
        (user.changes (upgraded current payload store.clock))) = none →
      HashesPassword payload store current →
      UpgradeEnds userId payload store
        { store with
          users := rewritten store user (upgraded current payload store.clock)
          devices := store.devices.filter fun device =>
            !(DeviceFilter.byUserId user.id).accepts device
          randomDraws }
        (.ok { upgraded current payload store.clock with updatedAt := store.clock })

variable (store) in
/-- An upgrade ends in one of the ways of `UpgradeEnds`, in every store: it fails without a
write, or its flush is applied and the devices are then removed or not. -/
theorem upgradeAccount_cases (userId : String) (payload : UpgradePayload) :
    UpgradeEnds userId payload store ((UsersService.upgradeAccount userId payload).runIn store).1
      ((UsersService.upgradeAccount userId payload).runIn store).2 := by
  rw [UsersService.upgradeAccount]
  rcases runIn_findById store userId with
    ⟨user, up, parsed, stored, live, ran⟩ | ⟨error, ran⟩
  swap
  · rw [runIn_bind_of_error ran]
    exact .failed error
  rw [runIn_bind_of_ok ran]
  split
  · exact .failed _
  rename_i anonymous
  simp only [ne_eq, Decidable.not_not] at anonymous
  rcases upgradeCredentials_run userId user payload up with
    ⟨current, after, credited, credentials, hashes, frame⟩ | ⟨error, failed⟩
  swap
  · rw [runIn_bind_of_error failed]
    exact .failed error
  rw [runIn_bind_of_ok credited, runIn_now]
  have bumped : (upgraded current payload after.clock).tokenVersion = user.tokenVersion + 1 :=
    congrArg (· + 1) credentials.tokenVersion
  dsimp only
  rw [User.update_of_tokenVersion (by omega), frame]
  rcases runIn_flushEmail { store with randomDraws := after.randomDraws }
    (.updateUser user.id (user.changes (upgraded current payload store.clock)))
    (fun updatedAt => nativeDeleteDevices (.byUserId user.id) >>= fun _ =>
      (pure { upgraded current payload store.clock with updatedAt } : Handler User)) up with
    ⟨clean, flushed⟩ | ⟨error, failed⟩
  · rw [flushed, runIn_nativeDeleteDevices]
    · exact .upgraded up parsed stored live anonymous credentials clean hashes
    · exact up
  · rw [failed]
    exact .failed error

/-- From these ways: what an upgrade leaves of the users, and what it answers. -/
theorem upgradeAccount_ends (userId : String) (payload : UpgradePayload) :
    EndsIn (.upgradeAccount userId payload) .upgraded
      (UsersService.upgradeAccount userId payload) store := by
  rw [EndsIn]
  have ends := upgradeAccount_cases store userId payload
  generalize (UsersService.upgradeAccount userId payload).runIn store = ended at ends
  obtain ⟨after, outcome⟩ := ended
  cases ends with
  | failed error => exact .failed error
  | upgraded up parsed stored live anonymous credentials =>
      exact .upgraded up parsed stored live anonymous credentials

omit [Libraries] in
/-- A merge always adds a link. -/
theorem merged_update (user : User) (payload : OAuthPayload) (linkedAt : Millis) :
    user.update (merged user payload linkedAt) =
      [.updateUser user.id (user.changes (merged user payload linkedAt))] := by
  refine User.update_of_changes fun unchanged => ?_
  have same : changed user.oauthLinks (merged user payload linkedAt).oauthLinks = none :=
    congrArg UserChanges.oauthLinks unchanged
  have longer : user.oauthLinks ≠ (merged user payload linkedAt).oauthLinks := fun equal => by
    simpa only [merged, List.length_append, List.length_singleton, Nat.left_eq_add,
      Nat.one_ne_zero] using congrArg List.length equal
  rw [changed_of_ne longer] at same
  cases same

/-- A first sign-in with an identity that no live account has and whose email leads to none:
a new user is stored, or the index on the email refuses it. -/
theorem createOAuthUser_ends (payload : OAuthPayload) (up : store.databaseUp = true)
    (unlinked : store.users.find?
      (UserFilter.byLinkLive payload.provider payload.providerUserId).accepts = none)
    (unmerged : ∀ email, payload.mergeEmail = some email →
      store.users.find? (UserFilter.byEmailLive email).accepts = none) :
    EndsIn (.findOrCreateOAuthUser payload) .identity (createOAuthUser payload) store := by
  rw [EndsIn, createOAuthUser, runIn_now, runIn_newObjectId]
  rcases runIn_flushEmail { store with nextObjectId := store.nextObjectId + 1 }
    (.insertUser (oauthUser payload store.nextObjectId store.clock))
    (fun _ => (pure (oauthUser payload store.nextObjectId store.clock).identity :
      Handler IdentityResult)) up with ⟨clean, flushed⟩ | ⟨error, failed⟩
  · dsimp only
    rw [flushed]
    have fresh : fetch User.id store.nextObjectId store.users = none ∧
        emailTaken store.users store.nextObjectId payload.email = false := by
      cases taken : fetch User.id store.nextObjectId store.users with
      | some other =>
          simp only [Backend.violation, oauthUser, taken, Option.isSome_some, ↓reduceIte,
            reduceCtorEq] at clean
      | none =>
          cases used : emailTaken store.users store.nextObjectId payload.email with
          | false => exact ⟨rfl, rfl⟩
          | true =>
              simp only [Backend.violation, oauthUser, taken, used, Option.isSome_none,
                Bool.false_eq_true, ↓reduceIte, reduceCtorEq] at clean
    exact .oauthCreated up unlinked unmerged fresh.1 fresh.2
  · dsimp only
    rw [failed]
    exact .failed error

/-- A sign-in with a provider ends with the account of the identity, with that of the email,
into which the identity is linked, or with a new one. -/
theorem findOrCreateOAuthUser_ends (payload : OAuthPayload) :
    EndsIn (.findOrCreateOAuthUser payload) .identity
      (UsersService.findOrCreateOAuthUser payload) store := by
  cases up : store.databaseUp with
  | false => exact .of_error (runIn_findUser_down up _ _)
  | true =>
      rw [EndsIn, UsersService.findOrCreateOAuthUser, runIn_findUser up]
      cases known : store.users.find?
          (UserFilter.byLinkLive payload.provider payload.providerUserId).accepts with
      | some byProvider => exact .oauthKnown up known
      | none =>
          simp only
          cases merge : payload.mergeEmail with
          | none =>
              exact createOAuthUser_ends payload up known fun email some => by
                rw [merge] at some
                cases some
          | some email =>
              simp only
              rw [runIn_findUser up]
              cases owner : store.users.find? (UserFilter.byEmailLive email).accepts with
              | none =>
                  refine createOAuthUser_ends payload up known fun other some => ?_
                  rw [merge] at some
                  cases some
                  exact owner
              | some byEmail =>
                  simp only
                  rw [runIn_now, merged_update, runIn_flush, runIn_writeAll_cons _ _ _ _ up]
                  split
                  · exact .oauthMerged up known merge owner
                  · exact .failed _

/-- A reset request ends alike for the client whether the address leads to an account or
not; only in the first case a token is stored. -/
theorem forgotPassword_ends (email : String) :
    EndsIn (.forgotPassword email) (fun _ => .acknowledged) (UsersService.forgotPassword email)
      store := by
  cases up : store.databaseUp with
  | false => exact .of_error (runIn_findUser_down up _ _)
  | true =>
      rw [EndsIn, UsersService.forgotPassword, runIn_findUser up]
      cases found : store.users.find? (UserFilter.byEmailLive email).accepts with
      | none => exact .silent rfl
      | some user =>
          simp only
          rw [runIn_randomBytes, runIn_now, runIn_flush, User.update]
          split
          · obtain ⟨after, users, ran⟩ := runIn_sendPasswordReset
              { store with randomDraws := store.randomDraws + 1 } email
              (Libraries.randomHex store.randomDraws)
            change Ends _ _
              (Handler.runIn (await _ >>= fun _ => (pure () : Handler Unit)) _).1.users
              ((Handler.runIn (await _ >>= fun _ => (pure () : Handler Unit)) _).2.map _)
            rw [ran, users]
            exact .silent rfl
          · rw [runIn_writeAll_cons]
            · split
              · obtain ⟨after, users, ran⟩ := runIn_sendPasswordReset (Backend.stored
                  { store with randomDraws := store.randomDraws + 1 } store.clock _) email
                  (Libraries.randomHex store.randomDraws)
                change Ends _ _
                  (Handler.runIn (await _ >>= fun _ => (pure () : Handler Unit)) _).1.users
                  ((Handler.runIn (await _ >>= fun _ => (pure () : Handler Unit)) _).2.map _)
                rw [ran, users]
                exact .resetRequested found
              · exact .failed _
            · exact up

variable (store) in
/-- A reset fails and leaves the users alone, or it rewrites the user its token
finds. -/
theorem resetPassword_cases (token newPassword : String) :
    (∃ error, ((UsersService.resetPassword token newPassword).runIn store).2 = .error error ∧
      ((UsersService.resetPassword token newPassword).runIn store).1.users = store.users) ∨
    ∃ user, store.users.find?
        (UserFilter.byResetTokenLive (hashResetToken token)).accepts = some user ∧
      user.resetPasswordExpiry.all (fun expiry => expiry < store.clock) = false ∧
      ((UsersService.resetPassword token newPassword).runIn store).1.users = rewritten store user
        (passwordReset user (Libraries.argon2Hash store.randomDraws newPassword)) ∧
      ((UsersService.resetPassword token newPassword).runIn store).2 = .ok () := by
  cases up : store.databaseUp with
  | false =>
      rw [UsersService.resetPassword, runIn_findUser_down up]
      exact .inl ⟨_, rfl, rfl⟩
  | true =>
      rw [UsersService.resetPassword, runIn_findUser up]
      cases found : store.users.find?
          (UserFilter.byResetTokenLive (hashResetToken token)).accepts with
      | none => exact .inl ⟨_, rfl, rfl⟩
      | some user =>
          simp only
          rw [runIn_now]
          split
          · exact .inl ⟨_, rfl, rfl⟩
          rename_i unexpired
          rcases runIn_hashPassword store newPassword fun passwordHash =>
              (flush (user.update (passwordReset user passwordHash)) >>= fun _ =>
                (pure () : Handler Unit)) with hashed | ⟨error, failed⟩
          · have bumped : (passwordReset user
                (Libraries.argon2Hash store.randomDraws newPassword)).tokenVersion ≠
                  user.tokenVersion := Nat.succ_ne_self _
            rw [hashed, User.update_of_tokenVersion bumped, runIn_flush, runIn_writeAll_cons]
            · split
              · exact .inr ⟨user, rfl, eq_false_of_ne_true unexpired, rfl, rfl⟩
              · exact .inl ⟨_, rfl, rfl⟩
            · exact up
          · rw [failed]
            exact .inl ⟨_, rfl, rfl⟩

/-- A reset ends with a new password for the account that the token leads to, or is refused. -/
theorem resetPassword_ends (token newPassword : String) :
    EndsIn (.resetPassword token newPassword) (fun _ => .acknowledged)
      (UsersService.resetPassword token newPassword) store := by
  rw [EndsIn]
  rcases resetPassword_cases store token newPassword with
    ⟨error, failed, users⟩ | ⟨user, found, unexpired, users, done⟩
  · rw [failed, users]
    exact .failed error
  · rw [done, users]
    exact .passwordReset found unexpired

/-- Reading a profile leaves the users as they are. -/
theorem getUserById_ends (userId : String) :
    EndsIn (.getUserById userId) (fun user => .dto (toDto user)) (findById userId) store := by
  rcases runIn_findById store userId with ⟨user, _, _, _, _, ran⟩ | ⟨error, ran⟩
  · rw [EndsIn, ran]
    exact .silent rfl
  · exact .of_error ran

/-- So does reading the token version. -/
theorem getUserTokenVersion_ends (userId : String) :
    EndsIn (.getUserTokenVersion userId) .tokenVersion
      (UsersController.getUserTokenVersion userId) store := by
  rcases runIn_findById store userId with
    ⟨user, up, parsed, stored, live, ran⟩ | ⟨error, ran⟩
  · rw [EndsIn, UsersController.getUserTokenVersion, runIn_bind_of_ok ran]
    exact .versioned up parsed stored live
  · exact .of_error (runIn_bind_of_error ran _)

/-- A profile update rewrites the one live user it names, or fails. -/
theorem updateUser_ends (userId : String) (data : UpdateUserInput) :
    EndsIn (.updateUser userId data) .dto (UsersService.updateUser userId data) store := by
  rcases runIn_findById store userId with
    ⟨user, up, parsed, stored, live, ran⟩ | ⟨error, ran⟩
  swap
  · exact .of_error (runIn_bind_of_error ran _)
  rw [EndsIn, UsersService.updateUser, runIn_bind_of_ok ran]
  dsimp only
  rw [runIn_flush, User.update]
  split
  · exact .silent rfl
  · rw [runIn_writeAll_cons _ _ _ _ up]
    split
    · exact .profile parsed stored live rfl
    · exact .failed _

/-- The staged writes of a deletion: none, or one of an outbox row. -/
inductive StagedRows : List Write → Prop
  | none : StagedRows []
  | insert (row : OutboxEvent) : StagedRows [.insertOutbox row]
  | update (id : ObjectId) (changes : OutboxChanges) : StagedRows [.updateOutbox id changes]

variable (store) in
/-- Staged rows are stored without touching the users, or end the flush. -/
theorem StagedRows.run {staged : List Write} (rows : StagedRows staged)
    (up : store.databaseUp = true) (at_ : Millis) (next : Unit → Handler Unit) :
    (∃ after, after.users = store.users ∧ after.databaseUp = true ∧
      (writeAll at_ staged >>= next).runIn store = (next ()).runIn after) ∨
    ∃ error, (writeAll at_ staged >>= next).runIn store = (store, .error error) := by
  cases rows with
  | none => exact .inl ⟨store, rfl, up, rfl⟩
  | insert row =>
      rw [runIn_writeAll_cons _ _ _ _ up]
      split
      · exact .inl ⟨store.stored at_ (.insertOutbox row), rfl, up, rfl⟩
      · exact .inr ⟨_, rfl⟩
  | update id changes =>
      rw [runIn_writeAll_cons _ _ _ _ up]
      exact .inl ⟨store.stored at_ (.updateOutbox id changes), rfl, up, rfl⟩

/-- A deletion marks its user, or it fails and leaves the users alone. -/
def DeletesOrFails (store : Backend) (userId : String)
    (ended : Backend × Except ServiceError Unit) : Prop :=
  (∃ user, Libraries.ofHexString userId = some user.id ∧
    fetch User.id user.id store.users = some user ∧ user.Live ∧
    ended.1.users = rewritten store user (softDeleted user store.clock)) ∨
  (ended.1.users = store.users ∧ ∃ error, ended.2 = .error error)

variable (store) in
/-- The flush of a deletion, whatever was staged and in either order of its writes: all of
it is stored, or what came before the refused write. -/
theorem deletion_flush_cases (before : Backend) {userId : String} {user : User}
    {staged : List Write} (rows : StagedRows staged) (users : before.users = store.users)
    (clock : before.clock = store.clock) (up : before.databaseUp = true)
    (parsed : Libraries.ofHexString userId = some user.id)
    (stored : fetch User.id user.id store.users = some user) (live : user.Live)
    {flushed : Backend × Except ServiceError Unit}
    (ran : (flush (if Libraries.outboxFirst then
          staged ++ user.update (softDeleted user store.clock)
        else user.update (softDeleted user store.clock) ++ staged) >>= fun _ =>
        (pure () : Handler Unit)).runIn before = flushed) :
    DeletesOrFails store userId flushed := by
  have marked : ∀ {later : Backend} {ended : Backend × Except ServiceError Unit},
      later.users = store.users →
      ended.1.users = (later.stored store.clock
        (.updateUser user.id (user.changes (softDeleted user store.clock)))).users →
      DeletesOrFails store userId ended := by
    intro later ended same left
    refine .inl ⟨user, parsed, stored, live, left.trans ?_⟩
    change modifyAt _ _ _ later.users = _
    rw [same, rewritten]
  have bumped : (softDeleted user store.clock).tokenVersion ≠ user.tokenVersion :=
    Nat.succ_ne_self _
  rw [User.update_of_tokenVersion bumped, runIn_flush, clock] at ran
  subst ran
  split
  · rw [writeAll_append_bind]
    rcases rows.run before up store.clock fun _ =>
        writeAll store.clock [.updateUser user.id (user.changes (softDeleted user store.clock))]
          >>= fun _ => (pure () : Handler Unit) with
      ⟨after, same, still, ran⟩ | ⟨error, failed⟩
    · rw [ran, runIn_writeAll_cons _ _ _ _ still]
      split
      · exact marked (same.trans users) rfl
      · exact .inr ⟨same.trans users, _, rfl⟩
    · rw [failed]
      exact .inr ⟨users, _, rfl⟩
  · rw [List.singleton_append, runIn_writeAll_cons _ _ _ _ up]
    split
    · rcases rows.run (before.stored store.clock
        (.updateUser user.id (user.changes (softDeleted user store.clock)))) up store.clock
        fun _ => (pure () : Handler Unit) with ⟨after, same, _, ran⟩ | ⟨error, failed⟩
      · rw [ran]
        exact marked users same
      · rw [failed]
        exact marked users rfl
    · exact .inr ⟨users, _, rfl⟩

variable (store) in
/-- A deletion marks and scrubs the one live user it names, or fails before it has written;
both orders of its two writes end alike. -/
theorem deleteUser_cases (userId : String) :
    DeletesOrFails store userId ((UsersService.deleteUser userId).runIn store) := by
  rcases runIn_findById store userId with
    ⟨user, up, parsed, stored, live, ran⟩ | ⟨error, ran⟩
  swap
  · rw [UsersService.deleteUser, runIn_bind_of_error ran]
    exact .inr ⟨rfl, error, rfl⟩
  rw [UsersService.deleteUser, runIn_bind_of_ok ran, runIn_now, stageOutboxEvent]
  simp only [Program.bind_assoc]
  rw [runIn_findOutboxEvent up]
  cases fetch OutboxEvent.idempotencyKey (deletionEvent user).idempotencyKey store.outbox with
  | none =>
      simp only [Program.bind_assoc]
      rw [runIn_newObjectId, runIn_now]
      exact deletion_flush_cases store { store with nextObjectId := store.nextObjectId + 1 }
        (.insert _) rfl rfl up parsed stored live rfl
  | some existing =>
      simp only
      split
      · refine deletion_flush_cases store store ?_ rfl rfl up parsed stored live rfl
        rw [OutboxEvent.update]
        split
        · exact .none
        · exact .update _ _
      · exact deletion_flush_cases store store .none rfl rfl up parsed stored live rfl

/-- From these cases: what a deletion leaves of the users, and what it answers. -/
theorem deleteUser_ends (userId : String) :
    EndsIn (.deleteUser userId) (fun _ => .acknowledged) (UsersService.deleteUser userId)
      store := by
  rw [EndsIn]
  rcases deleteUser_cases store userId with
    ⟨user, parsed, stored, live, users⟩ | ⟨users, error, failed⟩
  · rw [users]
    refine .deleted parsed stored live fun answer returned => ?_
    cases outcome : ((UsersService.deleteUser userId).runIn store).2 with
    | ok done =>
        rw [outcome] at returned
        cases returned
        rfl
    | error error =>
        rw [outcome] at returned
        cases returned
  · rw [users, failed]
    exact .failed error

/-- What is asked of a sweep: it leaves the users alone. -/
def sparing : ServiceContract where
  rely before after := after.users = before.users
  refl _ := rfl
  trans first second := second.trans first
  keeps _ := True
  permitted command store := ∀ write at_, command = .write write at_ →
    (store.stored at_ write).users = store.users

/-- Commands other than writes leave the users alone, so a handler whose writes spare them
does too. -/
theorem sparing_tame : Tame sparing where
  persist same user member := ⟨user, same ▸ member, rfl⟩
  plain _ store plain _ _ := ⟨trivial, (plain.frame store).1⟩
  writes _ spared _ _ := ⟨trivial, spared _ _ rfl⟩

/-- A sweep leaves the users as they are, whatever it publishes. -/
theorem sweep_ends : EndsIn .sweep .swept OutboxDispatcher.sweep store := by
  have valid := sweep_valid store sparing_tame
  obtain ⟨_, same, _⟩ := Program.Always.run valid trivial fun command next later issues => by
    rintro write at_ rfl
    obtain ⟨read, _, _, written⟩ := issues
    cases written with
    | stamp row at_ => rfl
  have users : (OutboxDispatcher.sweep.runIn store).1.users = store.users := by
    rw [← same, Program.run_bind, Handler.runIn]
    split
    · rename_i ran
      rw [ran]
      rfl
    · rename_i ran
      rw [ran]
  rw [EndsIn, users]
  cases (OutboxDispatcher.sweep.runIn store).2 with
  | ok result => exact .silent rfl
  | error error => exact .failed error

end Operations

/-- A handler's answer is wrapped last. -/
theorem serve_eq {α : Type} {operation : UserOperation} {answer : α → Answer}
    {program : Handler α} {store : Backend}
    (handled : UsersController.handle operation = program >>= fun value => .ret (answer value)) :
    serve operation store = ((program.runIn store).1, (program.runIn store).2.map answer) := by
  rw [serve, handled, Handler.runIn, Program.run_bind, Handler.runIn]
  cases program.run Backend.exec store with
  | mk after outcome => cases outcome <;> rfl

/-- The controller only wraps the answer: how the handler ends is how the message is served. -/
theorem EndsIn.served {α : Type} {operation : UserOperation} {answer : α → Answer}
    {program : Handler α} {store : Backend}
    (handled : UsersController.handle operation = program >>= fun value => .ret (answer value))
    (ends : EndsIn operation answer program store) :
    Ends operation store (serve operation store).1.users (serve operation store).2 := by
  rw [serve_eq handled]
  exact ends

/-- Every message, served alone in any store, ends in one of the listed ways. -/
theorem serve_ends (operation : UserOperation) (store : Backend) :
    Ends operation store (serve operation store).1.users (serve operation store).2 := by
  cases operation with
  | createAutoregUser payload => exact (createAutoregUser_ends payload).served rfl
  | login email password => exact (login_ends email password).served rfl
  | upgradeAccount userId payload => exact (upgradeAccount_ends userId payload).served rfl
  | findOrCreateOAuthUser payload => exact (findOrCreateOAuthUser_ends payload).served rfl
  | forgotPassword email => exact (forgotPassword_ends email).served rfl
  | resetPassword token newPassword => exact (resetPassword_ends token newPassword).served rfl
  | getUserById userId => exact (getUserById_ends userId).served rfl
  | getUserTokenVersion userId => exact (getUserTokenVersion_ends userId).served rfl
  | updateUser userId data => exact (updateUser_ends userId data).served rfl
  | deleteUser userId => exact (deleteUser_ends userId).served rfl
  | sweep => exact sweep_ends.served rfl

end NestMonorepo
