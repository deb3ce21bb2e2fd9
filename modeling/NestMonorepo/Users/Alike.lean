import NestMonorepo.Users.Runs

/-! # Two stores that differ in credentials only

Two handlers are run side by side, each in its own store. As long as they find the same
records up to their credentials, they perform the same commands up to them, are answered
alike and end alike; and what they throw names no credential.
-/

namespace NestMonorepo

open Collections Concurrency Handler UsersService

/-! ## Credentials -/

/-- A record without its credentials. -/
def User.masked (user : User) : User :=
  { user with passwordHash := none, resetPasswordToken := none }

def Device.masked (device : Device) : Device := { device with fingerprint := "" }

/-- A write without the credentials it sets. -/
def Write.masked : Write → Write
  | .insertUser user => .insertUser user.masked
  | .insertDevice device => .insertDevice device.masked
  | .updateUser id changes =>
      .updateUser id { changes with passwordHash := none, resetPasswordToken := none }
  | write => write

def Backend.masked (store : Backend) : Backend :=
  { store with users := store.users.map User.masked, devices := store.devices.map Device.masked }

/-- The stores are the same, credentials apart. -/
def Alike (first second : Backend) : Prop := first.masked = second.masked

/-- The properties that hold a credential. -/
def credentialNames : List String := ["passwordHash", "resetPasswordToken", "fingerprint"]

/-- No property of the value is a credential. -/
def Json.Harmless (value : Json) : Prop := ∀ name ∈ credentialNames, name ∉ value.fieldNames

/-- The refusal of a duplicate key quotes the value of the field. -/
def MongoError.quotes (error : MongoError) (field : String) : Prop :=
  error.keyPattern.any (fun fields => fields.contains field) = true

/-- An error without a credential: its details have none, and its text quotes none. -/
def ServiceError.Discreet : ServiceError → Prop
  | .microservice exception => ∀ details, exception.details = some details → details.Harmless
  | .mongo error => ¬error.quotes "fingerprint"
  | .other _ => True

section Masked

variable {store first second : Backend}

/-- Masking keeps identifiers, so it commutes with a lookup by id. -/
theorem fetch_masked (id : ObjectId) (users : List User) :
    fetch User.id id (users.map User.masked) = (fetch User.id id users).map User.masked := by
  rw [fetch, fetch, List.find?_map]
  rfl

/-- The same for the rows of devices. -/
theorem fetch_masked_device (id : ObjectId) (devices : List Device) :
    fetch Device.id id (devices.map Device.masked) =
      (fetch Device.id id devices).map Device.masked := by
  rw [fetch, fetch, List.find?_map]
  rfl

/-- Masking keeps the emails, so the index sees the same ones taken. -/
theorem emailTaken_masked (users : List User) (id : ObjectId) (email : Option String) :
    emailTaken (users.map User.masked) id email = emailTaken users id email := by
  rw [emailTaken, emailTaken, List.any_map]
  rfl

/-- Masking commutes with storing: what a write does to a masked store is what it does to
the store, masked. -/
theorem stored_masked (store : Backend) (at_ : Millis) (write : Write) :
    (store.stored at_ write).masked = store.masked.stored at_ write.masked := by
  cases write with
  | insertUser user => simp only [Backend.stored, Backend.masked, Write.masked, List.map_append,
      List.map_cons, List.map_nil]
  | insertDevice device => simp only [Backend.stored, Backend.masked, Write.masked,
      List.map_append, List.map_cons, List.map_nil]
  | updateUser id changes =>
      simp only [Backend.stored, Backend.masked, Write.masked, Backend.mk.injEq, and_true,
        modifyAt, List.map_map]
      apply List.map_congr_left
      intro user _
      change User.masked (if user.id = id then _ else user) =
        if user.id = id then user.masked.apply _ at_ else user.masked
      split <;> rfl
  | updateDevice id changes =>
      simp only [Backend.stored, Backend.masked, Write.masked, Backend.mk.injEq, and_true,
        true_and, modifyAt, List.map_map]
      apply List.map_congr_left
      intro device _
      change Device.masked (if device.id = id then _ else device) =
        if device.id = id then device.masked.apply _ at_ else device.masked
      split <;> rfl
  | insertOutbox row => rfl
  | updateOutbox id changes => rfl

/-- Writes that are alike keep two stores alike: what they differ in is masked in both. -/
theorem Alike.stored (alike : Alike first second) {write other : Write}
    (same : write.masked = other.masked) (at_ : Millis) :
    Alike (first.stored at_ write) (second.stored at_ other) := by
  rw [Alike, stored_masked, stored_masked, alike, same]

/-- The fingerprint a write inserts is not stored yet. -/
def Write.Unseen (store : Backend) : Write → Prop
  | .insertDevice device => fetch Device.fingerprint device.fingerprint store.devices = none
  | _ => True

/-- What the other indexes say to a write. -/
def Backend.clash (store : Backend) : Write → Option MongoError
  | .insertDevice device =>
      if (fetch Device.id device.id store.devices).isSome then
        some (duplicateKeyError "_id_" "_id")
      else none
  | write => store.violation write

/-- Whether a write with a new fingerprint is refused does not depend on credentials. -/
theorem violation_of_unseen {write : Write} (unseen : write.Unseen store) :
    store.violation write = store.masked.clash write.masked := by
  cases write with
  | insertUser user =>
      simp only [Backend.violation, Backend.clash, Backend.masked, Write.masked, fetch_masked,
        emailTaken_masked, Option.isSome_map, User.masked]
  | insertDevice device =>
      have unseen : fetch Device.fingerprint device.fingerprint store.devices = none := unseen
      simp only [Backend.violation, Backend.clash, Backend.masked, Write.masked, Device.masked,
        fetch_masked_device, Option.isSome_map, unseen, Option.isSome_none, Bool.false_eq_true,
        ↓reduceIte]
  | updateUser id changes =>
      simp only [Backend.violation, Backend.clash, Backend.masked, Write.masked, fetch_masked,
        emailTaken_masked, Option.isSome_map]
  | insertOutbox row => rfl
  | updateDevice id changes => rfl
  | updateOutbox id changes => rfl

/-- The indexes judge two writes that are alike in the same way, provided that neither
device is seen yet: the masked fingerprint is all that an index could tell apart. -/
theorem Alike.violation (alike : Alike first second) {write other : Write}
    (same : write.masked = other.masked) (unseen : write.Unseen first)
    (unseen' : other.Unseen second) : first.violation write = second.violation other := by
  rw [violation_of_unseen unseen, violation_of_unseen unseen', alike, same]

/-- A write with a new fingerprint is not refused for a fingerprint, so no error of it
quotes one. -/
theorem not_quotes_of_unseen {write : Write} {error : MongoError} (unseen : write.Unseen store)
    (violated : store.violation write = some error) : ¬error.quotes "fingerprint" := by
  have other : ∀ {index field : String}, field ≠ "fingerprint" →
      ¬(duplicateKeyError index field).quotes "fingerprint" := by
    intro index field differ quotes
    apply differ
    simpa [MongoError.quotes, duplicateKeyError, eq_comm] using quotes
  cases write with
  | insertDevice device =>
      have unseen : fetch Device.fingerprint device.fingerprint store.devices = none := unseen
      simp only [Backend.violation, unseen, Option.isSome_none, Bool.false_eq_true,
        ↓reduceIte] at violated
      split at violated
      · cases violated
        exact other (by decide)
      · cases violated
  | insertUser user =>
      simp only [Backend.violation] at violated
      split at violated
      · cases violated
        exact other (by decide)
      · split at violated
        · cases violated
          exact other (by decide)
        · cases violated
  | insertOutbox row =>
      simp only [Backend.violation] at violated
      split at violated
      · cases violated
        exact other (by decide)
      · split at violated
        · cases violated
          exact other (by decide)
        · cases violated
  | updateUser id changes =>
      simp only [Backend.violation] at violated
      split at violated
      · cases violated
        exact other (by decide)
      · cases violated
  | updateDevice id changes => cases violated
  | updateOutbox id changes => cases violated

end Masked

/-! ## Running side by side -/

section Agreement

variable [Libraries] {α β : Type} {first second : Backend}

/-- The runs end alike, and not with an error that holds a credential. -/
structure Agrees (first second : Backend) (program other : Handler α) : Prop where
  same : (program.runIn first).2 = (other.runIn second).2
  discreet : ∀ error, (program.runIn first).2 = .error error → error.Discreet

/-- Two runs that return the same value agree. -/
theorem agrees_ret (value : α) : Agrees first second (.ret value) (.ret value) :=
  ⟨rfl, fun _ => nofun⟩

/-- Two runs that fail with the same error agree if the error says nothing of what is masked. -/
theorem agrees_fail {error : ServiceError} (discreet : error.Discreet) :
    Agrees first second (.fail error : Handler α) (.fail error) := by
  refine ⟨rfl, fun thrown failed => ?_⟩
  cases failed
  exact discreet

/-- Most exceptions have no details. -/
theorem agrees_throw {exception : MicroserviceException} (bare : exception.details = none) :
    Agrees first second (throwException exception : Handler α) (throwException exception) := by
  apply agrees_fail
  intro details present
  rw [bare] at present
  cases present

/-- An error of fixed text says nothing of it. -/
theorem agrees_other (message : String) :
    Agrees first second (.fail (.other message) : Handler α) (.fail (.other message)) :=
  agrees_fail trivial

/-- What comes after a part that agrees. -/
theorem Agrees.map {program other : Handler α} (agrees : Agrees first second program other)
    (next : α → β) :
    Agrees first second (program >>= fun value => pure (next value))
      (other >>= fun value => pure (next value)) := by
  obtain ⟨same, discreet⟩ := agrees
  cases ran : (program.runIn first).2 with
  | ok value =>
      have left : program.runIn first = ((program.runIn first).1, .ok value) := by rw [← ran]
      have right : other.runIn second = ((other.runIn second).1, .ok value) := by rw [← ran, same]
      refine ⟨?_, fun error failed => ?_⟩
      · rw [runIn_bind_of_ok left, runIn_bind_of_ok right]
        rfl
      · rw [runIn_bind_of_ok left] at failed
        cases failed
  | error error =>
      have left : program.runIn first = ((program.runIn first).1, .error error) := by rw [← ran]
      have right : other.runIn second = ((other.runIn second).1, .error error) := by
        rw [← ran, same]
      refine ⟨?_, fun thrown failed => ?_⟩
      · rw [runIn_bind_of_error left, runIn_bind_of_error right]
      · rw [runIn_bind_of_error left] at failed
        cases failed
        exact discreet error ran

omit [Libraries] in
/-- Nor does the error of a database that does not answer. -/
theorem not_quotes_unavailable : ¬unavailableError.quotes "fingerprint" := nofun

/-- Two runs without a database fail alike. -/
theorem Agrees.of_unavailable {program other : Handler α}
    (left : program.runIn first = (first, .error (.mongo unavailableError)))
    (right : other.runIn second = (second, .error (.mongo unavailableError))) :
    Agrees first second program other := by
  refine ⟨by rw [left, right], fun error failed => ?_⟩
  rw [left] at failed
  cases failed
  exact not_quotes_unavailable

/-- Runs that come down to runs that agree. -/
theorem Agrees.of_runs {after after' : Backend} {program other next next' : Handler α}
    (left : program.runIn first = next.runIn after)
    (right : other.runIn second = next'.runIn after') (agrees : Agrees after after' next next') :
    Agrees first second program other := by
  refine ⟨by rw [left, right, agrees.same], fun error failed => ?_⟩
  rw [left] at failed
  exact agrees.discreet error failed

/-- Runs that end with the same value. -/
theorem Agrees.of_ok {program other : Handler α} {after after' : Backend} {value : α}
    (left : program.runIn first = (after, .ok value))
    (right : other.runIn second = (after', .ok value)) : Agrees first second program other := by
  refine ⟨by rw [left, right], fun error failed => ?_⟩
  rw [left] at failed
  cases failed

omit [Libraries] in
/-- Stores that are alike answer or fail together. -/
theorem Alike.databaseUp (alike : Alike first second) : first.databaseUp = second.databaseUp :=
  (congrArg Backend.databaseUp alike :)

omit [Libraries] in
/-- Stores that are alike have one clock. -/
theorem Alike.clock (alike : Alike first second) : first.clock = second.clock :=
  (congrArg Backend.clock alike :)

/-- Reading the clock keeps two runs in step. -/
theorem agrees_now (alike : Alike first second) {next other : Millis → Handler β}
    (rest : Agrees first second (next first.clock) (other first.clock)) :
    Agrees first second (now >>= next) (now >>= other) := by
  apply rest.of_runs (runIn_now next)
  rw [runIn_now, alike.clock]

/-- So does drawing an id: the counters are equal. -/
theorem agrees_newObjectId (alike : Alike first second) {next other : ObjectId → Handler β}
    (rest : Alike { first with nextObjectId := first.nextObjectId + 1 }
        { second with nextObjectId := second.nextObjectId + 1 } →
      Agrees { first with nextObjectId := first.nextObjectId + 1 }
        { second with nextObjectId := second.nextObjectId + 1 } (next first.nextObjectId)
        (other first.nextObjectId)) :
    Agrees first second (newObjectId >>= next) (newObjectId >>= other) := by
  have ids : first.nextObjectId = second.nextObjectId := (congrArg Backend.nextObjectId alike :)
  have later : Alike { first with nextObjectId := first.nextObjectId + 1 }
      { second with nextObjectId := second.nextObjectId + 1 } :=
    (congrArg (fun store : Backend => { store with nextObjectId := store.nextObjectId + 1 })
      alike :)
  apply (rest later).of_runs (runIn_newObjectId next)
  rw [runIn_newObjectId, ids]

/-- A lookup of a user keeps two runs in step if what follows agrees on the users that they
find. -/
theorem agrees_findUser (alike : Alike first second) (filter : UserFilter)
    {next other : Option User → Handler β}
    (rest : first.databaseUp = true → Agrees first second
      (next (first.users.find? filter.accepts)) (other (second.users.find? filter.accepts))) :
    Agrees first second (findUser filter >>= next) (findUser filter >>= other) := by
  cases up : first.databaseUp with
  | false =>
      exact .of_unavailable (runIn_findUser_down up _ _)
        (runIn_findUser_down (alike.databaseUp ▸ up) _ _)
  | true =>
      exact (rest up).of_runs (runIn_findUser up _ _)
        (runIn_findUser (alike.databaseUp ▸ up) _ _)

/-- The same for a lookup of a device; the rows found may differ in their fingerprints. -/
theorem agrees_findDevice (alike : Alike first second) (fingerprint : String)
    {next other : Option Device → Handler β}
    (rest : first.databaseUp = true → Agrees first second
      (next (fetch Device.fingerprint fingerprint first.devices))
      (other (fetch Device.fingerprint fingerprint second.devices))) :
    Agrees first second (findDevice fingerprint >>= next) (findDevice fingerprint >>= other) := by
  cases up : first.databaseUp with
  | false =>
      exact .of_unavailable (runIn_findDevice_down up _ _)
        (runIn_findDevice_down (alike.databaseUp ▸ up) _ _)
  | true =>
      exact (rest up).of_runs (runIn_findDevice up _ _)
        (runIn_findDevice (alike.databaseUp ▸ up) _ _)

/-- Without the database the lookup of an outbox row fails. -/
theorem runIn_findOutboxEvent_down {store : Backend} (down : store.databaseUp = false)
    (idempotencyKey : String) (next : Option OutboxEvent → Handler β) :
    (findOutboxEvent idempotencyKey >>= next).runIn store =
      (store, .error (.mongo unavailableError)) := by
  simp only [runIn, findOutboxEvent, await, Program.perform_bind, Program.call_bind,
    Program.run_call, Backend.exec, Backend.answer, down, Bool.false_eq_true, ↓reduceIte,
    ofReply_error, Program.fail_bind, Program.run_fail]

/-- The rows of the outbox are not masked, so both runs find the same. -/
theorem agrees_findOutboxEvent (alike : Alike first second) (idempotencyKey : String)
    {next other : Option OutboxEvent → Handler β}
    (rest : ∀ found, first.databaseUp = true → Agrees first second (next found) (other found)) :
    Agrees first second (findOutboxEvent idempotencyKey >>= next)
      (findOutboxEvent idempotencyKey >>= other) := by
  have rows : first.outbox = second.outbox := (congrArg Backend.outbox alike :)
  cases up : first.databaseUp with
  | false =>
      exact .of_unavailable (runIn_findOutboxEvent_down up _ _)
        (runIn_findOutboxEvent_down (alike.databaseUp ▸ up) _ _)
  | true =>
      apply (rest _ up).of_runs (runIn_findOutboxEvent up _ _)
      rw [runIn_findOutboxEvent (alike.databaseUp ▸ up), rows]

omit [Libraries] in
/-- Removing the devices that a filter accepts keeps two stores alike: filters do not look
at what is masked. -/
theorem Alike.deleted (alike : Alike first second) (filter : DeviceFilter) :
    Alike { first with devices := first.devices.filter fun device => !filter.accepts device }
      { second with devices := second.devices.filter fun device => !filter.accepts device } := by
  have masked : ∀ devices : List Device,
      (devices.filter fun device => !filter.accepts device).map Device.masked =
        (devices.map Device.masked).filter fun device => !filter.accepts device := by
    intro devices
    rw [List.filter_map]
    cases filter <;> rfl
  have same := congrArg (fun store : Backend =>
    { store with devices := store.devices.filter fun device => !filter.accepts device }) alike
  simp only [Backend.masked, ← masked] at same
  exact same

/-- A native delete keeps two runs in step. -/
theorem agrees_nativeDeleteDevices (alike : Alike first second) (filter : DeviceFilter)
    {next other : Unit → Handler β} (up : first.databaseUp = true)
    (rest : Alike
        { first with devices := first.devices.filter fun device => !filter.accepts device }
        { second with devices := second.devices.filter fun device => !filter.accepts device } →
      Agrees { first with devices := first.devices.filter fun device => !filter.accepts device }
        { second with devices := second.devices.filter fun device => !filter.accepts device }
        (next ()) (other ())) :
    Agrees first second (nativeDeleteDevices filter >>= next)
      (nativeDeleteDevices filter >>= other) :=
  (rest (alike.deleted filter)).of_runs (runIn_nativeDeleteDevices _ _ up)
    (runIn_nativeDeleteDevices _ _ (alike.databaseUp ▸ up))

/-- So does hashing: both draw the same salt. -/
theorem agrees_hashPassword (alike : Alike first second) (password : String)
    {next other : String → Handler β}
    (rest : ∀ passwordHash, Alike { first with randomDraws := first.randomDraws + 1 }
        { second with randomDraws := second.randomDraws + 1 } →
      Agrees { first with randomDraws := first.randomDraws + 1 }
        { second with randomDraws := second.randomDraws + 1 } (next passwordHash)
        (other passwordHash)) :
    Agrees first second (hashPassword password >>= next) (hashPassword password >>= other) := by
  have draws : first.randomDraws = second.randomDraws := (congrArg Backend.randomDraws alike :)
  have hashing : first.hashingUp = second.hashingUp := (congrArg Backend.hashingUp alike :)
  cases up : first.hashingUp with
  | false =>
      have down : second.hashingUp = false := hashing ▸ up
      exact (agrees_other "argon2 failed").of_runs (runIn_hashPassword_down up _ _)
        (runIn_hashPassword_down down _ _)
  | true =>
      have later : Alike { first with randomDraws := first.randomDraws + 1 }
          { second with randomDraws := second.randomDraws + 1 } :=
        (congrArg (fun store : Backend => { store with randomDraws := store.randomDraws + 1 })
          alike :)
      apply (rest _ later).of_runs (runIn_hashPassword_up up _ _)
      rw [runIn_hashPassword_up (hashing ▸ up), draws]

/-- Two flushes stay in step over their first writes if these are alike: the indexes accept
both or refuse both with the same error. -/
theorem agrees_writeAll_cons (alike : Alike first second) {write write' : Write}
    {writes writes' : List Write} {at_ : Millis} {next other : Unit → Handler β}
    (same : write.masked = write'.masked) (unseen : write.Unseen first)
    (unseen' : write'.Unseen second) (up : first.databaseUp = true)
    (rest : Alike (first.stored at_ write) (second.stored at_ write') →
      Agrees (first.stored at_ write) (second.stored at_ write') (writeAll at_ writes >>= next)
        (writeAll at_ writes' >>= other)) :
    Agrees first second (writeAll at_ (write :: writes) >>= next)
      (writeAll at_ (write' :: writes') >>= other) := by
  have left := runIn_writeAll_cons at_ write writes next up
  have right := runIn_writeAll_cons at_ write' writes' other (alike.databaseUp ▸ up)
  rw [← alike.violation same unseen unseen'] at right
  cases violated : first.violation write with
  | none =>
      rw [violated] at left right
      exact (rest (alike.stored same at_)).of_runs left right
  | some error =>
      rw [violated] at left right
      refine ⟨by rw [left, right], fun refused failed => ?_⟩
      rw [left] at failed
      cases failed
      exact not_quotes_of_unseen unseen violated

/-- A flush is in step if its writes are, from the common time of its start on. -/
theorem agrees_flush_of_writeAll (alike : Alike first second) {writes writes' : List Write}
    {next other : Millis → Handler β}
    (written : Agrees first second (writeAll first.clock writes >>= fun _ => next first.clock)
      (writeAll first.clock writes' >>= fun _ => other first.clock)) :
    Agrees first second (flush writes >>= next) (flush writes' >>= other) := by
  apply written.of_runs (runIn_flush writes next)
  rw [runIn_flush, alike.clock]

/-- The writes are the same, credentials apart, and insert no fingerprint. -/
def SameWrite (write other : Write) : Prop :=
  write.masked = other.masked ∧ ∀ store, write.Unseen store ∧ other.Unseen store

/-- Flushes of writes that are alike, one by one, keep two runs in step. -/
theorem agrees_flush (alike : Alike first second) (up : first.databaseUp = true)
    {writes writes' : List Write} (same : List.Forall₂ SameWrite writes writes')
    {next other : Millis → Handler β}
    (rest : ∀ store store', Agrees store store' (next first.clock) (other first.clock)) :
    Agrees first second (flush writes >>= next) (flush writes' >>= other) := by
  have written : ∀ {first second : Backend} {at_ : Millis} {next other : Unit → Handler β},
      Alike first second → first.databaseUp = true →
        (∀ store store', Agrees store store' (next ()) (other ())) →
          Agrees first second (writeAll at_ writes >>= next) (writeAll at_ writes' >>= other) := by
    induction same with
    | nil => exact fun _ _ rest => rest _ _
    | @cons write write' _ _ head _ ih =>
        intro first second at_ next other alike up rest
        apply agrees_writeAll_cons alike head.1 (head.2 first).1 (head.2 second).2 up
        intro later
        exact ih later (by cases write <;> exact up) rest
  exact agrees_flush_of_writeAll alike (written alike up rest)

/-- A flush of one write that an index refuses: the error of the email is translated, any
other is passed on. -/
theorem runIn_flushEmail_of_violation {store : Backend} {write : Write} {error : MongoError}
    (next : Millis → Handler β) (up : store.databaseUp = true)
    (violated : store.violation write = some error) :
    (flushEmail [write] >>= next).runIn store = (store, .error
      (if isDuplicateKeyError error "email" then .microservice emailTakenException
        else .mongo error)) := by
  simp only [flushEmail, flush, now, await, writeAll, Program.perform_bind, Program.call_bind,
    Program.bind_assoc, Program.pure_eq, Program.ret_bind, Program.attempt_call, runIn,
    Program.run_call, Backend.exec, up, ↓reduceIte, Backend.write_of_violation violated,
    ofReply_error, Program.fail_bind, Program.attempt_fail]
  split <;> rfl

/-- A flush with translation keeps two runs in step, whether the write is accepted or not:
in both stores it is accepted or refused alike. -/
theorem agrees_flushEmail (alike : Alike first second) (up : first.databaseUp = true)
    {write write' : Write} (same : SameWrite write write') {next other : Millis → Handler β}
    (rest : Alike (first.stored first.clock write) (second.stored first.clock write') →
      Agrees (first.stored first.clock write) (second.stored first.clock write')
        (next first.clock) (other first.clock)) :
    Agrees first second (flushEmail [write] >>= next) (flushEmail [write'] >>= other) := by
  have up' : second.databaseUp = true := alike.databaseUp ▸ up
  have unseen := (same.2 first).1
  have refused := alike.violation same.1 unseen (same.2 second).2
  cases violated : first.violation write with
  | none =>
      apply (rest (alike.stored same.1 _)).of_runs (runIn_flushEmail_of_clean next up violated)
      rw [runIn_flushEmail_of_clean other up' (refused.symm.trans violated), alike.clock]
  | some error =>
      have left := runIn_flushEmail_of_violation next up violated
      have right := runIn_flushEmail_of_violation other up' (refused.symm.trans violated)
      refine ⟨by rw [left, right], fun thrown failed => ?_⟩
      rw [left] at failed
      cases failed
      split
      · exact fun _ => nofun
      · exact not_quotes_of_unseen unseen violated

end Agreement

end NestMonorepo
