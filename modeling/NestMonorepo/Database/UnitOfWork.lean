import NestMonorepo.Database.Backend

/-! # Handlers and their unit of work

A user-service handler is a program over the backend's commands. Its entity
manager tracks the loaded documents; `flush` writes what changed, one document
after another.
-/

namespace NestMonorepo

open Collections Concurrency

variable {α : Type}

/-- A handler of the user service. -/
abbrev Handler (α : Type) : Type := Program Command Reply ServiceError α

namespace Handler

/-- Perform one command of the backend. -/
abbrev await (command : Command) : Handler (Reply command) := Program.perform command

/-- Continue with a database reply; its error is thrown. -/
def ofReply (reply : Except MongoError α) : Handler α :=
  Program.ofExcept (reply.mapError .mongo)

/-- A reply with a value is passed on as it is. -/
@[simp] theorem ofReply_ok (value : α) : ofReply (.ok value) = Program.ret value := rfl

/-- An error of the driver becomes an error of the service. -/
@[simp] theorem ofReply_error (error : MongoError) :
    (ofReply (.error error) : Handler α) = Program.fail (.mongo error) := rfl

/-! ## Entity manager -/

def findUser (filter : UserFilter) : Handler (Option User) :=
  await (.findUser filter) >>= ofReply

def findDevice (fingerprint : String) : Handler (Option Device) :=
  await (.findDevice fingerprint) >>= ofReply

def findOutboxEvent (idempotencyKey : String) : Handler (Option OutboxEvent) :=
  await (.findOutboxEvent idempotencyKey) >>= ofReply

def nativeDeleteDevices (filter : DeviceFilter) : Handler Unit :=
  await (.deleteDevices filter) >>= ofReply

/-- `new Date()`; one reading stands for those of one synchronous block. -/
def now : Handler Millis := await .now

def newObjectId : Handler ObjectId := await .newObjectId

/-- `argon2.hash(password)`. -/
def hashPassword (password : String) : Handler String := do
  match ← await (.argon2Hash password) with
  | .ok passwordHash => pure passwordHash
  | .error message => .fail (.other message)

/-- The writes of a flush, in order; the first refused one ends it. -/
def writeAll (at_ : Millis) : List Write → Handler Unit
  | [] => pure ()
  | write :: rest => do
      await (.write write at_) >>= ofReply
      writeAll at_ rest

/-- `em.flush()`: it answers with the time stamped by the `onUpdate` hooks. -/
def flush (writes : List Write) : Handler Millis := do
  let at_ ← now
  writeAll at_ writes
  pure at_

/-- The writes of a flush are commands of their own: the first one, and the others if the
database has accepted it. -/
theorem writeAll_cons_bind (at_ : Millis) (write : Write) (rest : List Write)
    (next : Unit → Handler α) :
    writeAll at_ (write :: rest) >>= next =
      .call (.write write at_) fun reply =>
        ofReply reply >>= fun _ => writeAll at_ rest >>= next := by
  simp only [writeAll, await, Program.perform_bind, Program.call_bind, Program.bind_assoc]

/-- So a flush can be cut between any two of its writes. -/
theorem writeAll_append_bind (at_ : Millis) (first second : List Write)
    (next : Unit → Handler α) :
    writeAll at_ (first ++ second) >>= next =
      writeAll at_ first >>= fun _ => writeAll at_ second >>= next := by
  induction first with
  | nil => rfl
  | cons write rest ih => rw [List.cons_append, writeAll_cons_bind, writeAll_cons_bind, ih]

/-- A flush reads the clock once and stamps all its writes with that time. -/
theorem flush_bind (writes : List Write) (next : Millis → Handler α) :
    flush writes >>= next =
      .call .now fun at_ => writeAll at_ writes >>= fun _ => next at_ := by
  simp only [flush, now, await, Program.perform_bind, Program.call_bind, Program.bind_assoc,
    Program.pure_eq, Program.ret_bind]

/-! ### The commands they perform -/

section Only

variable {allowed : Command → Prop}

/-- A lookup of a user performs one command, the query itself; the lemmas that follow say
the same of the other building blocks of handlers. -/
theorem findUser_only {filter : UserFilter} (permitted : allowed (.findUser filter)) :
    (findUser filter).Only allowed :=
  .bind (Program.only_perform permitted) fun _ => Program.only_ofExcept _

/-- A lookup of a device performs the query only. -/
theorem findDevice_only {fingerprint : String} (permitted : allowed (.findDevice fingerprint)) :
    (findDevice fingerprint).Only allowed :=
  .bind (Program.only_perform permitted) fun _ => Program.only_ofExcept _

/-- A lookup of an outbox row performs the query only. -/
theorem findOutboxEvent_only {idempotencyKey : String}
    (permitted : allowed (.findOutboxEvent idempotencyKey)) :
    (findOutboxEvent idempotencyKey).Only allowed :=
  .bind (Program.only_perform permitted) fun _ => Program.only_ofExcept _

/-- A native delete of devices performs the delete only. -/
theorem nativeDeleteDevices_only {filter : DeviceFilter}
    (permitted : allowed (.deleteDevices filter)) : (nativeDeleteDevices filter).Only allowed :=
  .bind (Program.only_perform permitted) fun _ => Program.only_ofExcept _

/-- Hashing a password performs one call of the hash function. -/
theorem hashPassword_only {password : String} (permitted : allowed (.argon2Hash password)) :
    (hashPassword password).Only allowed := by
  refine .bind (Program.only_perform permitted) fun reply => ?_
  cases reply <;> trivial

/-- A flush reads the clock and performs its own writes, whatever is refused. -/
theorem flush_only {writes : List Write} (timed : allowed .now)
    (permitted : ∀ write ∈ writes, ∀ at_, allowed (.write write at_)) :
    (flush writes).Only allowed := by
  refine .bind (Program.only_perform timed) fun at_ => .bind ?_ fun _ => trivial
  induction writes with
  | nil => trivial
  | cons write rest ih =>
      refine .bind (.bind (Program.only_perform (permitted write List.mem_cons_self at_))
        fun _ => Program.only_ofExcept _) fun _ => ?_
      exact ih fun other member => permitted other (List.mem_cons_of_mem _ member)

end Only

/-! ### The errors they throw -/

section Throws

variable {thrown : ServiceError → Prop}

/-- What a failing query throws is the error of the driver. -/
theorem ofReply_throws (refused : ∀ error, thrown (.mongo error)) (reply : Except MongoError α) :
    (ofReply reply).Throws thrown := by
  cases reply with
  | ok value => exact trivial
  | error error => exact refused error

/-- The same for a native delete. -/
theorem nativeDeleteDevices_throws (refused : ∀ error, thrown (.mongo error))
    (filter : DeviceFilter) : (nativeDeleteDevices filter).Throws thrown :=
  .bind (Program.throws_perform _) (ofReply_throws refused)

/-- A flush throws the error of the first write that is refused, and nothing of its own. -/
theorem flush_throws (refused : ∀ error, thrown (.mongo error)) (writes : List Write) :
    (flush writes).Throws thrown := by
  apply Program.Throws.bind (Program.throws_perform _)
  intro at_
  apply Program.Throws.bind _ fun _ => Program.throws_ret _
  induction writes with
  | nil => trivial
  | cons write rest ih =>
      apply Program.Throws.bind _ fun _ => ih
      exact .bind (Program.throws_perform _) (ofReply_throws refused)

end Throws

end Handler

/-! ## What a managed document contributes to a flush -/

/-- The write of a managed user: none when no field changed. -/
def User.update (loaded current : User) : List Write :=
  if loaded.changes current = {} then [] else [.updateUser loaded.id (loaded.changes current)]

def Device.update (loaded current : Device) : List Write :=
  if loaded.changes current = {} then []
  else [.updateDevice loaded.id (loaded.changes current)]

def OutboxEvent.update (loaded current : OutboxEvent) : List Write :=
  if loaded.changes current = {} then []
  else [.updateOutbox loaded.id (loaded.changes current)]

/-- A modified user is flushed as one `$set` of the fields that differ. -/
theorem User.update_of_changes {loaded current : User}
    (differ : loaded.changes current ≠ {}) :
    loaded.update current = [.updateUser loaded.id (loaded.changes current)] := by
  simp only [User.update, differ, ↓reduceIte]

/-- A new token version is such a difference, so an operation that bumps it always writes. -/
theorem User.update_of_tokenVersion {loaded current : User}
    (bumped : current.tokenVersion ≠ loaded.tokenVersion) :
    loaded.update current = [.updateUser loaded.id (loaded.changes current)] := by
  refine User.update_of_changes fun unchanged => ?_
  have same : changed loaded.tokenVersion current.tokenVersion = none :=
    congrArg UserChanges.tokenVersion unchanged
  rw [changed_of_ne bumped.symm] at same
  cases same

/-- Whatever a flush writes for a user is that one `$set`; an unmodified user is not written. -/
theorem User.mem_update {loaded current : User} {write : Write}
    (member : write ∈ loaded.update current) :
    write = .updateUser loaded.id (loaded.changes current) := by
  unfold User.update at member
  split at member
  · cases member
  · exact List.mem_singleton.mp member

/-- The same for a device. -/
theorem Device.mem_update {loaded current : Device} {write : Write}
    (member : write ∈ loaded.update current) :
    write = .updateDevice loaded.id (loaded.changes current) := by
  unfold Device.update at member
  split at member
  · cases member
  · exact List.mem_singleton.mp member

/-- The same for an outbox row. -/
theorem OutboxEvent.mem_update {loaded current : OutboxEvent} {write : Write}
    (member : write ∈ loaded.update current) :
    write = .updateOutbox loaded.id (loaded.changes current) := by
  unfold OutboxEvent.update at member
  split at member
  · cases member
  · exact List.mem_singleton.mp member

end NestMonorepo
