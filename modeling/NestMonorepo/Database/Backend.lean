import Mathlib.Data.List.Sort
import NestMonorepo.Collections.Keyed
import NestMonorepo.Common.Errors
import NestMonorepo.Concurrency.Program
import NestMonorepo.Database.DuplicateKey
import NestMonorepo.Messaging.EventBus

/-! # The user service's world

The state behind the user service (its three collections, the clock, mail and
the event bus), the commands its code awaits, and what each command does. A
flush is a sequence of document writes, each atomic and each subject to the
unique indexes; nothing encloses them in a transaction.
-/

namespace NestMonorepo

open Collections Concurrency

/-- The library functions the user service calls. -/
class Libraries where
  toHexString : ObjectId → String
  ofHexString : String → Option ObjectId
  ofHexString_toHexString : ∀ id, ofHexString (toHexString id) = some id
  sha256Hex : String → String
  /-- The outcome of the n-th random draw, in hexadecimal. -/
  randomHex : Nat → String
  /-- The hash of a password under the salt of the n-th random draw. -/
  argon2Hash : Nat → String → String
  argon2Verify : String → String → Except String Bool
  toISOString : Millis → String
  /-- `subDays(date, amount)` in the process's time zone. -/
  subDays : Millis → Nat → Millis
  /-- Whether the unit of work writes outbox rows before user documents. -/
  outboxFirst : Bool
  /-- Whether the unit of work inserts device rows before user documents. -/
  deviceFirst : Bool

/-- A password-reset mail: the address and the plaintext token. -/
structure ResetMail where
  email : String
  token : String
  deriving DecidableEq, Repr

/-- Everything the user service's code reads or writes. -/
structure Backend where
  users : List User := []
  devices : List Device := []
  outbox : List OutboxEvent := []
  clock : Millis := 0
  nextObjectId : ObjectId := 0
  randomDraws : Nat := 0
  databaseUp : Bool := true
  hashingUp : Bool := true
  smtpUp : Bool := true
  mailbox : List ResetMail := []
  bus : EventBus := ⟨true, none, false, []⟩
  sweepRunning : Bool := false
  deriving DecidableEq, Repr

/-! ## Commands -/

/-- The filters of the `findOne(User, …)` calls. -/
inductive UserFilter where
  | byId (id : ObjectId)
  | byEmail (email : String)
  | byEmailLive (email : String)
  | byLink (provider : OAuthProvider) (providerUserId : String)
  | byLinkLive (provider : OAuthProvider) (providerUserId : String)
  | byResetTokenLive (tokenHash : String)
  deriving DecidableEq, Repr

/-- Whether a document satisfies a filter. -/
def UserFilter.accepts : UserFilter → User → Bool
  | .byId id, user => decide (user.id = id)
  | .byEmail email, user => decide (user.email = some email)
  | .byEmailLive email, user => decide (user.email = some email) && decide user.Live
  | .byLink provider providerUserId, user => user.hasLink provider providerUserId
  | .byLinkLive provider providerUserId, user =>
      user.hasLink provider providerUserId && decide user.Live
  | .byResetTokenLive tokenHash, user =>
      decide (user.resetPasswordToken = some tokenHash) && decide user.Live

namespace UserFilter

variable {user : User} {email tokenHash providerUserId : String} {provider : OAuthProvider}

/-- A user whose email is looked up among the live ones has it, and is live. -/
theorem accepts_byEmailLive : (byEmailLive email).accepts user = true ↔
    user.email = some email ∧ user.Live := by
  simp only [accepts, Bool.and_eq_true, decide_eq_true_eq]

/-- A user whose identity is looked up among the live ones has it, and is live. -/
theorem accepts_byLinkLive : (byLinkLive provider providerUserId).accepts user = true ↔
    user.hasLink provider providerUserId = true ∧ user.Live := by
  simp only [accepts, Bool.and_eq_true, decide_eq_true_eq]

/-- A user whose reset token is looked up among the live ones has its hash, and is live. -/
theorem accepts_byResetTokenLive : (byResetTokenLive tokenHash).accepts user = true ↔
    user.resetPasswordToken = some tokenHash ∧ user.Live := by
  simp only [accepts, Bool.and_eq_true, decide_eq_true_eq]

end UserFilter

/-- The filters of the `nativeDelete(Device, …)` calls. -/
inductive DeviceFilter where
  | byId (id : ObjectId)
  | byUserId (userId : ObjectId)
  deriving DecidableEq, Repr

def DeviceFilter.accepts : DeviceFilter → Device → Bool
  | .byId id, device => decide (device.id = id)
  | .byUserId userId, device => decide (device.userId = userId)

/-- One document write of a flush. -/
inductive Write where
  | insertUser (user : User)
  | insertDevice (device : Device)
  | insertOutbox (row : OutboxEvent)
  | updateUser (id : ObjectId) (changes : UserChanges)
  | updateDevice (id : ObjectId) (changes : DeviceChanges)
  | updateOutbox (id : ObjectId) (changes : OutboxChanges)
  deriving DecidableEq, Repr

/-- Everything the code awaits, or calls on another component. -/
inductive Command where
  | findUser (filter : UserFilter)
  | findUsersDeletedBefore (cutoff : Millis)
  | findDevice (fingerprint : String)
  | findOutboxEvent (idempotencyKey : String)
  | findPendingOutbox (maxAttempts limit : Nat)
  | countOutbox (status : OutboxEventStatus)
  | write (write : Write) (now : Millis)
  | deleteDevices (filter : DeviceFilter)
  | deleteUser (id : ObjectId)
  | now
  | newObjectId
  | randomBytes
  | argon2Hash (password : String)
  | sendPasswordReset (email token : String)
  | publishEvent (row : ObjectId) (pattern : String) (payload : Payload)
  | beginSweep
  | endSweep
  deriving DecidableEq, Repr

/-- What each command answers. -/
@[reducible] def Reply : Command → Type
  | .findUser _ => Except MongoError (Option User)
  | .findUsersDeletedBefore _ => Except MongoError (List User)
  | .findDevice _ => Except MongoError (Option Device)
  | .findOutboxEvent _ => Except MongoError (Option OutboxEvent)
  | .findPendingOutbox _ _ => Except MongoError (List OutboxEvent)
  | .countOutbox _ => Except MongoError Nat
  | .write _ _ => Except MongoError Unit
  | .deleteDevices _ => Except MongoError Unit
  | .deleteUser _ => Except MongoError Unit
  | .now => Millis
  | .newObjectId => ObjectId
  | .randomBytes => String
  | .argon2Hash _ => Except String String
  | .sendPasswordReset _ _ => Except String Unit
  | .publishEvent _ _ _ => Except String Unit
  | .beginSweep => Bool
  | .endSweep => Unit

/-- The write that the command performs. -/
def Command.write? : Command → Option Write
  | .write change _ => some change
  | _ => none

/-- The filter of a `findOne(User, …)` call. -/
def Command.userFilter? : Command → Option UserFilter
  | .findUser filter => some filter
  | _ => none

/-- The command hands the event of a row to the bus. -/
def Command.publishes : Command → Bool
  | .publishEvent _ _ _ => true
  | _ => false

/-- The write is the `$set` of a user. -/
def Write.updatesUser : Write → Bool
  | .updateUser _ _ => true
  | _ => false

/-! ## Writes -/

/-- The E11000 of a unique index. -/
def duplicateKeyError (index field : String) : MongoError where
  code := 11000
  keyPattern := some [field]
  message := "E11000 duplicate key error index: " ++ index ++ " dup key: \x7b " ++ field ++ " \x7d"

/-- The error of a database that does not answer. -/
def unavailableError : MongoError := { code := 0, message := "server selection timed out" }

/-- Whether storing `email` on the user `id` violates `users_email_unique`: the
index is sparse, so documents without the field are not in it. -/
def emailTaken (users : List User) (id : ObjectId) (email : Option String) : Bool :=
  email.isSome && users.any fun user => decide (user.id ≠ id ∧ user.email = email)

namespace Backend

/-- The unique index a write would violate; an update of a document that is gone changes
nothing and violates none. -/
def violation (backend : Backend) : Write → Option MongoError
  | .insertUser user =>
      if (fetch User.id user.id backend.users).isSome then
        some (duplicateKeyError "_id_" "_id")
      else if emailTaken backend.users user.id user.email then
        some (duplicateKeyError "users_email_unique" "email")
      else none
  | .insertDevice device =>
      if (fetch Device.id device.id backend.devices).isSome then
        some (duplicateKeyError "_id_" "_id")
      else if (fetch Device.fingerprint device.fingerprint backend.devices).isSome then
        some (duplicateKeyError "fingerprint_1" "fingerprint")
      else none
  | .insertOutbox row =>
      if (fetch OutboxEvent.id row.id backend.outbox).isSome then
        some (duplicateKeyError "_id_" "_id")
      else if (fetch OutboxEvent.idempotencyKey row.idempotencyKey backend.outbox).isSome then
        some (duplicateKeyError "idempotencyKey_1" "idempotencyKey")
      else none
  | .updateUser id changes =>
      if (fetch User.id id backend.users).isSome &&
          emailTaken backend.users id (changes.email.getD none) then
        some (duplicateKeyError "users_email_unique" "email")
      else none
  | .updateDevice _ _ => none
  | .updateOutbox _ _ => none

/-- An update is refused by the index of emails only. -/
theorem violation_updateUser {backend : Backend} {id : ObjectId} {changes : UserChanges}
    (free : emailTaken backend.users id (changes.email.getD none) = false) :
    backend.violation (.updateUser id changes) = none := by
  rw [violation, free, Bool.and_false]
  rfl

/-- An update that leaves the email alone passes the index. -/
theorem violation_of_email {backend : Backend} {id : ObjectId} {changes : UserChanges}
    (kept : changes.email = none) : backend.violation (.updateUser id changes) = none := by
  apply violation_updateUser
  rw [kept]
  rfl

/-- An update that no index refuses, of a user that is there, stores an email of its own. -/
theorem emailTaken_of_violation {backend : Backend} {id : ObjectId} {changes : UserChanges}
    (clean : backend.violation (.updateUser id changes) = none)
    (present : (fetch User.id id backend.users).isSome = true) :
    emailTaken backend.users id (changes.email.getD none) = false := by
  rw [violation, present, Bool.true_and] at clean
  split at clean
  · cases clean
  · exact eq_false_of_ne_true ‹_›

/-- The store with one write of a flush computed at `now`. -/
def stored (backend : Backend) (now : Millis) : Write → Backend
  | .insertUser user => { backend with users := backend.users ++ [user] }
  | .insertDevice device => { backend with devices := backend.devices ++ [device] }
  | .insertOutbox row => { backend with outbox := backend.outbox ++ [row] }
  | .updateUser id changes =>
      { backend with users := modifyAt User.id id (·.apply changes now) backend.users }
  | .updateDevice id changes =>
      { backend with devices := modifyAt Device.id id (·.apply changes now) backend.devices }
  | .updateOutbox id changes =>
      { backend with outbox := modifyAt OutboxEvent.id id (·.apply changes now) backend.outbox }

/-- One document write: refused by a unique index, or stored. -/
def write (backend : Backend) (write : Write) (now : Millis) :
    Backend × Except MongoError Unit :=
  match backend.violation write with
  | some error => (backend, .error error)
  | none => (backend.stored now write, .ok ())

/-- A write that violates an index changes nothing and answers the index's error. -/
theorem write_of_violation {backend : Backend} {write : Write} {error : MongoError}
    (violated : backend.violation write = some error) (now : Millis) :
    backend.write write now = (backend, .error error) := by
  simp only [Backend.write, violated]

/-- A write that violates none is stored and answered. -/
theorem write_of_none {backend : Backend} {write : Write}
    (clean : backend.violation write = none) (now : Millis) :
    backend.write write now = (backend.stored now write, .ok ()) := by
  simp only [Backend.write, clean]

/-- A write is applied when the database answers and no unique index refuses it. -/
def Applies (backend : Backend) (write : Write) : Prop :=
  backend.databaseUp = true ∧ backend.violation write = none

instance (backend : Backend) (write : Write) : Decidable (backend.Applies write) :=
  inferInstanceAs (Decidable (_ ∧ _))

/-- The pending rows a sweep takes: oldest first, a bounded batch. -/
def pendingOutbox (backend : Backend) (maxAttempts limit : Nat) : List OutboxEvent :=
  ((backend.outbox.filter fun row =>
      decide (row.status = .pending ∧ row.attempts < maxAttempts)).insertionSort
    fun first second => first.createdAt ≤ second.createdAt).take limit

/-- What the sweep's query finds are stored rows that are pending and have attempts left. -/
theorem mem_pendingOutbox {backend : Backend} {maxAttempts limit : Nat} {row : OutboxEvent}
    (member : row ∈ backend.pendingOutbox maxAttempts limit) :
    row ∈ backend.outbox ∧ row.status = .pending ∧ row.attempts < maxAttempts := by
  have sorted := List.mem_of_mem_take member
  rw [List.mem_insertionSort] at sorted
  obtain ⟨present, visible⟩ := List.mem_filter.mp sorted
  exact ⟨present, of_decide_eq_true visible⟩

variable [Libraries]

/-- What the database answers to a query. -/
def answer {α : Type} (backend : Backend) (value : α) : Except MongoError α :=
  if backend.databaseUp then .ok value else .error unavailableError

/-- What each command does to the world, and its answer. -/
def exec : (command : Command) → Backend → Backend × Reply command
  | .findUser filter, backend => (backend, backend.answer (backend.users.find? filter.accepts))
  | .findUsersDeletedBefore cutoff, backend =>
      (backend, backend.answer (backend.users.filter fun user =>
        user.deletedAt.any fun deletedAt => decide (deletedAt < cutoff)))
  | .findDevice fingerprint, backend =>
      (backend, backend.answer (fetch Device.fingerprint fingerprint backend.devices))
  | .findOutboxEvent idempotencyKey, backend =>
      (backend, backend.answer (fetch OutboxEvent.idempotencyKey idempotencyKey backend.outbox))
  | .findPendingOutbox maxAttempts limit, backend =>
      (backend, backend.answer (backend.pendingOutbox maxAttempts limit))
  | .countOutbox status, backend =>
      (backend, backend.answer (backend.outbox.countP fun row => decide (row.status = status)))
  | .write write now, backend =>
      if backend.databaseUp then backend.write write now else (backend, .error unavailableError)
  | .deleteDevices filter, backend =>
      if backend.databaseUp then
        ({ backend with devices := backend.devices.filter fun device => !filter.accepts device },
          .ok ())
      else (backend, .error unavailableError)
  | .deleteUser id, backend =>
      if backend.databaseUp then
        ({ backend with users := removeAt User.id id backend.users }, .ok ())
      else (backend, .error unavailableError)
  | .now, backend => (backend, backend.clock)
  | .newObjectId, backend =>
      ({ backend with nextObjectId := backend.nextObjectId + 1 }, backend.nextObjectId)
  | .randomBytes, backend =>
      ({ backend with randomDraws := backend.randomDraws + 1 },
        Libraries.randomHex backend.randomDraws)
  | .argon2Hash password, backend =>
      if backend.hashingUp then
        ({ backend with randomDraws := backend.randomDraws + 1 },
          .ok (Libraries.argon2Hash backend.randomDraws password))
      else (backend, .error "argon2 failed")
  | .sendPasswordReset email token, backend =>
      if backend.smtpUp then
        ({ backend with mailbox := backend.mailbox ++ [⟨email, token⟩] }, .ok ())
      else (backend, .error "smtp unavailable")
  | .publishEvent row pattern payload, backend =>
      let (bus, outcome) := RpcClientService.publishEvent row pattern payload
        (Libraries.randomHex backend.randomDraws) backend.bus
      ({ backend with bus, randomDraws := backend.randomDraws + 1 }, outcome)
  | .beginSweep, backend =>
      if backend.sweepRunning then (backend, false)
      else ({ backend with sweepRunning := true }, true)
  | .endSweep, backend => ({ backend with sweepRunning := false }, ())

/-- A write that applies is stored and accepted. -/
theorem exec_write_of_applies {backend : Backend} {write : Write}
    (applies : backend.Applies write) (now : Millis) :
    exec (.write write now) backend = (backend.stored now write, .ok ()) := by
  simp only [exec, applies.1, ↓reduceIte, write_of_none applies.2]

/-- A write that does not apply changes nothing. -/
theorem exec_write_of_not_applies {backend : Backend} {write : Write}
    (refused : ¬backend.Applies write) (now : Millis) :
    (exec (.write write now) backend).1 = backend := by
  cases up : backend.databaseUp with
  | false => simp only [exec, up, Bool.false_eq_true, ↓reduceIte]
  | true =>
      cases violated : backend.violation write with
      | some error => simp only [exec, up, ↓reduceIte, write_of_violation violated]
      | none => exact (refused ⟨up, violated⟩).elim

/-- What a command may do to the world. -/
inductive Effect : Command → Backend → Backend → Prop
  | nothing {command backend} : Effect command backend backend
  | stored {write now} {backend : Backend} : backend.Applies write →
      Effect (.write write now) backend (backend.stored now write)
  | deletedDevices {filter} {backend : Backend} : Effect (.deleteDevices filter) backend
      { backend with devices := backend.devices.filter fun device => !filter.accepts device }
  | deletedUser {id} {backend : Backend} :
      Effect (.deleteUser id) backend { backend with users := removeAt User.id id backend.users }
  | drewId {backend : Backend} :
      Effect .newObjectId backend { backend with nextObjectId := backend.nextObjectId + 1 }
  | drewRandom {command} {backend : Backend} :
      Effect command backend { backend with randomDraws := backend.randomDraws + 1 }
  | mailed {email token} {backend : Backend} : Effect (.sendPasswordReset email token) backend
      { backend with mailbox := backend.mailbox ++ [⟨email, token⟩] }
  | published {row pattern payload} {backend : Backend} (bus : EventBus) :
      Effect (.publishEvent row pattern payload) backend
        { backend with bus, randomDraws := backend.randomDraws + 1 }
  | swept {command} {backend : Backend} (running : Bool) :
      Effect command backend { backend with sweepRunning := running }

/-- Every command has one of the listed effects on the store. The cases are the commands,
and for a write whether it is accepted. -/
theorem exec_effect (command : Command) (backend : Backend) :
    Effect command backend (exec command backend).1 := by
  cases command with
  | write write now =>
      by_cases applies : backend.Applies write
      · rw [exec_write_of_applies applies]
        exact .stored applies
      · rw [exec_write_of_not_applies applies]
        exact .nothing
  | deleteDevices filter =>
      simp only [exec]
      split
      · exact .deletedDevices
      · exact .nothing
  | deleteUser id =>
      simp only [exec]
      split
      · exact .deletedUser
      · exact .nothing
  | newObjectId => exact .drewId
  | randomBytes => exact .drewRandom
  | argon2Hash password =>
      simp only [exec]
      split
      · exact .drewRandom
      · exact .nothing
  | sendPasswordReset email token =>
      simp only [exec]
      split
      · exact .mailed
      · exact .nothing
  | publishEvent row pattern payload => exact .published _
  | beginSweep =>
      simp only [exec]
      split
      · exact .nothing
      · exact .swept true
  | endSweep => exact .swept false
  | _ => exact .nothing

/-- What happens outside the handlers: time passes, a dependency goes up or
down, the bus starts or stops, the process is started again. -/
inductive Event where
  | tick (elapsed : Millis)
  | database (up : Bool)
  | hashing (up : Bool)
  | smtp (up : Bool)
  | bus (event : EventBusService.Lifecycle)
  | restart
  deriving DecidableEq, Repr

def environment : Event → Backend → Backend
  | .tick elapsed, backend => { backend with clock := backend.clock + elapsed }
  | .database up, backend => { backend with databaseUp := up }
  | .hashing up, backend => { backend with hashingUp := up }
  | .smtp up, backend => { backend with smtpUp := up }
  | .bus event, backend => { backend with bus := EventBusService.lifecycle event backend.bus }
  | .restart, backend =>
      { backend with sweepRunning := false, bus := { backend.bus with channel := none } }

end Backend

end NestMonorepo
