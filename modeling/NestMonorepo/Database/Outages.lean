import NestMonorepo.Concurrency.Faults
import NestMonorepo.Database.UnitOfWork

/-! # Commands that may fail

A command of a handler that runs alone, when the database and the hashing library may be
out at any moment: it is carried out, or it fails and leaves the store as it is.
-/

namespace NestMonorepo

open Collections Concurrency

/-- What answers while a command is carried out. -/
structure Outage where
  database : Bool := true
  hashing : Bool := true
  deriving DecidableEq, Repr

namespace Backend

variable [Libraries]

/-- The command in an outage. -/
def during (outage : Outage) (command : Command) (store : Backend) : Backend × Reply command :=
  let after := exec command
    { store with databaseUp := outage.database, hashingUp := outage.hashing }
  ({ after.1 with databaseUp := store.databaseUp, hashingUp := store.hashingUp }, after.2)

/-- Every command may meet with an outage of its own. -/
def attempts : Attempts Command Reply Backend := fun command store after =>
  ∃ outage, after = during outage command store

/-- The program after one command in each of the outages. -/
def through {α : Type} : List Outage → Handler α → Backend → Handler α × Backend
  | outage :: rest, .call command next, store =>
      through rest (next (during outage command store).2) (during outage command store).1
  | _, program, store => (program, store)

/-- What a program does under a list of outages is one of its possible courses, so a law of
all courses is a law of every list of outages. -/
theorem comes_through {α : Type} (outages : List Outage) (program : Handler α) (store : Backend) :
    program.Comes attempts store (through outages program store).1
      (through outages program store).2 := by
  induction outages generalizing program store with
  | nil => exact .here
  | cons outage rest ih =>
      cases program with
      | call command next => exact .first ⟨outage, rfl⟩ (ih _ _)
      | _ => exact .here

variable {store : Backend}

/-- The query of the purge answers the users deleted before the cutoff, or fails and changes
nothing. -/
theorem attempts_findUsersDeletedBefore {cutoff : Millis}
    {after : Backend × Reply (.findUsersDeletedBefore cutoff)}
    (answered : attempts (.findUsersDeletedBefore cutoff) store after) :
    after = (store, .ok (store.users.filter fun user =>
        user.deletedAt.any fun deletedAt => decide (deletedAt < cutoff))) ∨
      after = (store, .error unavailableError) := by
  obtain ⟨⟨database, hashing⟩, rfl⟩ := answered
  cases database with
  | true => exact .inl rfl
  | false => exact .inr rfl

/-- A delete of devices removes what its filter accepts, or fails and removes nothing. -/
theorem attempts_deleteDevices {filter : DeviceFilter}
    {after : Backend × Reply (.deleteDevices filter)}
    (answered : attempts (.deleteDevices filter) store after) :
    after = ({ store with devices := store.devices.filter fun device => !filter.accepts device },
        .ok ()) ∨
      after = (store, .error unavailableError) := by
  obtain ⟨⟨database, hashing⟩, rfl⟩ := answered
  cases database with
  | true => exact .inl rfl
  | false => exact .inr rfl

/-- A delete of a user removes the user, or fails and removes nothing. -/
theorem attempts_deleteUser {id : ObjectId} {after : Backend × Reply (.deleteUser id)}
    (answered : attempts (.deleteUser id) store after) :
    after = ({ store with users := removeAt User.id id store.users }, .ok ()) ∨
      after = (store, .error unavailableError) := by
  obtain ⟨⟨database, hashing⟩, rfl⟩ := answered
  cases database with
  | true => exact .inl rfl
  | false => exact .inr rfl

/-- A lookup answers what is stored, or fails. -/
theorem attempts_findUser {filter : UserFilter} {after : Backend × Reply (.findUser filter)}
    (answered : attempts (.findUser filter) store after) :
    after = (store, .ok (store.users.find? filter.accepts)) ∨
      after = (store, .error unavailableError) := by
  obtain ⟨⟨database, hashing⟩, rfl⟩ := answered
  cases database with
  | true => exact .inl rfl
  | false => exact .inr rfl

/-- A write is accepted, if no index refuses it, or fails and changes nothing. -/
theorem attempts_write {write : Write} {now : Millis} {after : Backend × Reply (.write write now)}
    (answered : attempts (.write write now) store after) :
    (store.violation write = none ∧ after = (store.stored now write, .ok ())) ∨
      ∃ error, after = (store, .error error) := by
  obtain ⟨⟨database, hashing⟩, rfl⟩ := answered
  cases database with
  | false => exact .inr ⟨_, rfl⟩
  | true =>
      have same : ({ store with databaseUp := true, hashingUp := hashing } : Backend).violation
          write = store.violation write := by cases write <;> rfl
      cases violated : store.violation write with
      | some error =>
          refine .inr ⟨error, ?_⟩
          simp only [during, exec, ↓reduceIte, Backend.write, same, violated]
      | none =>
          refine .inl ⟨rfl, ?_⟩
          simp only [during, exec, ↓reduceIte, Backend.write, same, violated]
          cases write <;> rfl

/-- Hashing draws a salt, or fails without one. -/
theorem attempts_argon2Hash {password : String} {after : Backend × Reply (.argon2Hash password)}
    (answered : attempts (.argon2Hash password) store after) :
    (∃ hash, after = ({ store with randomDraws := store.randomDraws + 1 }, .ok hash)) ∨
      ∃ message, after = (store, .error message) := by
  obtain ⟨⟨database, hashing⟩, rfl⟩ := answered
  cases hashing with
  | true => exact .inl ⟨_, rfl⟩
  | false => exact .inr ⟨_, rfl⟩

/-- The clock always answers. -/
theorem attempts_now {after : Backend × Reply .now} (answered : attempts .now store after) :
    after = (store, store.clock) := by
  obtain ⟨outage, rfl⟩ := answered
  rfl

end Backend

end NestMonorepo
