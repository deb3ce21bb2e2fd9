import NestMonorepo.Users.Runs

/-! # The purge task

The second half of a soft delete: a daily task removes the users whose grace
window is over, each after its device rows. Messages and purge runs follow one
another in any order.
-/

namespace NestMonorepo

open Collections Concurrency Handler UsersService

/-- `nativeDelete(User, { _id })`. -/
def Handler.nativeDeleteUser (id : ObjectId) : Handler Unit :=
  await (.deleteUser id) >>= ofReply

namespace UserPurgeTask

def graceDays : Nat := 30

/-- `subDays(now, GRACE_DAYS)`. -/
def cutoff [Libraries] (now : Millis) : Millis := Libraries.subDays now graceDays

/-- Children first, then the user. -/
def purgeUser (userId : ObjectId) : Handler Unit := do
  nativeDeleteDevices (.byUserId userId)
  nativeDeleteUser userId

/-- The loop over the victims; one that fails is only logged. -/
def purgeAll : List ObjectId → Nat → Handler Nat
  | [], purged => pure purged
  | victim :: rest, purged => do
      match ← (purgeUser victim).attempt with
      | .ok () => purgeAll rest (purged + 1)
      | .error _ => purgeAll rest purged

/-- `run`: it answers how many users were purged. -/
def run [Libraries] : Handler Nat := do
  let startedAt ← now
  let victims ← await (.findUsersDeletedBefore (cutoff startedAt)) >>= ofReply
  if victims.isEmpty then pure 0
  else purgeAll (victims.map User.id) 0

end UserPurgeTask

/-! ## What a run removes -/

/-- The users a purge run at this moment removes. -/
def Backend.victims [Libraries] (store : Backend) : List ObjectId :=
  (store.users.filter fun user =>
    user.deletedAt.any fun deletedAt =>
      decide (deletedAt < UserPurgeTask.cutoff store.clock)).map User.id

/-- The store without some users and without the devices that lead to them. -/
def Backend.without (store : Backend) (ids : List ObjectId) : Backend :=
  { store with
    users := store.users.filter fun user => decide (user.id ∉ ids)
    devices := store.devices.filter fun device => decide (device.userId ∉ ids) }

/-- Without nobody the store is as it was. -/
@[simp] theorem Backend.without_nil (store : Backend) : store.without [] = store := by
  simp only [Backend.without, List.not_mem_nil, not_false_eq_true, decide_true,
    List.filter_true]

/-- Removing a list of users is removing the first with the devices, and then the rest. -/
theorem Backend.without_cons (store : Backend) (id : ObjectId) (ids : List ObjectId) :
    store.without (id :: ids) =
      Backend.without
        { store with
          users := removeAt User.id id store.users
          devices := store.devices.filter fun device => !(DeviceFilter.byUserId id).accepts device }
        ids := by
  simp only [Backend.without, removeAt, List.filter_filter, DeviceFilter.accepts, List.mem_cons,
    not_or, Bool.decide_and, Backend.mk.injEq, and_true]
  constructor
  · apply List.filter_congr
    intro user _
    exact Bool.and_comm _ _
  · apply List.filter_congr
    intro device _
    rw [Bool.and_comm, ← decide_not]

section Law

variable [Libraries]

/-- With the database up a purge removes every user of its list with the devices, and counts
them. -/
theorem purgeAll_run (ids : List ObjectId) (purged : Nat) (store : Backend)
    (up : store.databaseUp = true) :
    (UserPurgeTask.purgeAll ids purged).runIn store =
      (store.without ids, .ok (purged + ids.length)) := by
  induction ids generalizing store purged with
  | nil => rw [Backend.without_nil]; rfl
  | cons id ids ih =>
      rw [Backend.without_cons, List.length_cons, ← Nat.add_assoc, Nat.add_right_comm]
      rw [← ih (purged + 1) { store with
          users := removeAt User.id id store.users
          devices := store.devices.filter fun device =>
            !(DeviceFilter.byUserId id).accepts device } up]
      simp only [UserPurgeTask.purgeAll, UserPurgeTask.purgeUser, nativeDeleteDevices,
        nativeDeleteUser, await, runIn, Program.perform_bind, Program.call_bind,
        Program.attempt_call, Program.run_call, Backend.exec, up, ↓reduceIte, ofReply_ok,
        Program.ret_bind, Program.attempt_ret]

/-- A run removes its victims with their devices, or fails on a silent database. -/
theorem purge_run (store : Backend) :
    (UserPurgeTask.run.runIn store).1 =
      if store.databaseUp then store.without store.victims else store := by
  cases up : store.databaseUp with
  | false =>
      simp only [UserPurgeTask.run, now, await, runIn, Program.perform_bind,
        Program.call_bind, Program.run_call, Backend.exec, Backend.answer, up, ofReply_error,
        Program.fail_bind, Program.run_fail, Bool.false_eq_true, ↓reduceIte]
  | true =>
      have loop := purgeAll_run store.victims 0 store up
      simp only [runIn] at loop
      simp only [UserPurgeTask.run, now, await, runIn, Program.perform_bind,
        Program.call_bind, Program.run_call, Backend.exec, Backend.answer, up, ofReply_ok,
        Program.ret_bind, ↓reduceIte]
      split
      · rename_i none
        have nobody : store.victims = [] := by
          rw [Backend.victims, List.isEmpty_iff.mp none, List.map_nil]
        rw [nobody, Backend.without_nil]
        rfl
      · exact congrArg Prod.fst loop

/-! ## Messages and purge runs, one after another -/

/-- What happens to the store between two moments of rest. -/
inductive Activity where
  | message (operation : UserOperation)
  | purge
  | environment (event : Backend.Event)

/-- The store after an activity. -/
def Activity.apply : Activity → Backend → Backend
  | .message operation, store => (serve operation store).1
  | .purge, store => (UserPurgeTask.run.runIn store).1
  | .environment event, store => Backend.environment event store

/-- The stores reached by activities that are `allowed` where they take place. -/
inductive Maintained (allowed : Activity → Backend → Prop) (start : Backend) : Backend → Prop
  | start : Maintained allowed start start
  | step {store} (activity : Activity) : Maintained allowed start store →
      allowed activity store → Maintained allowed start (activity.apply store)

/-- An invariant kept by every allowed activity holds wherever they lead. -/
theorem Maintained.invariant {allowed : Activity → Backend → Prop} {start store : Backend}
    (holds : Backend → Prop) (initial : holds start)
    (preserved : ∀ activity store, holds store → allowed activity store →
      holds (activity.apply store))
    (maintained : Maintained allowed start store) : holds store := by
  induction maintained with
  | start => exact initial
  | step activity _ permitted ih => exact preserved activity _ ih permitted

/-- Any activity at all. -/
def AnyActivity (_ : Activity) (_ : Backend) : Prop := True

/-- Activities one after another. -/
def performAll (activities : List Activity) (store : Backend) : Backend :=
  activities.foldl (fun current activity => activity.apply current) store

/-- Activities one after another lead to a store that activities lead to. -/
theorem Maintained.of_performAll {start middle : Backend}
    (maintained : Maintained AnyActivity start middle) (activities : List Activity) :
    Maintained AnyActivity start (performAll activities middle) := by
  induction activities generalizing middle with
  | nil => exact maintained
  | cons activity rest ih => exact ih (maintained.step activity trivial)

end Law

end NestMonorepo
