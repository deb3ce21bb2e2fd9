import NestMonorepo.Database.ObjectIds
import NestMonorepo.Database.Outages
import NestMonorepo.Users.Purge

/-! # Purge runs that fail

Any delete of a purge run may fail, and the run may crash after any command. Whatever it
has come to, some victims are gone, and the devices of these and of some more.
-/

namespace NestMonorepo

open Collections Concurrency Handler

/-! ## A run with a given cutoff -/

/-- `run` from its query on. -/
def UserPurgeTask.runUntil (cutoff : Millis) : Handler Nat := do
  let victims ← await (.findUsersDeletedBefore cutoff) >>= ofReply
  if victims.isEmpty then pure 0
  else purgeAll (victims.map User.id) 0

/-- The user was deleted before the cutoff. -/
def User.deletedBefore (cutoff : Millis) (user : User) : Bool :=
  user.deletedAt.any fun deletedAt => decide (deletedAt < cutoff)

/-- The victims of a run. -/
def Backend.victimsBefore (cutoff : Millis) (store : Backend) : List ObjectId :=
  (store.users.filter (User.deletedBefore cutoff)).map User.id

/-- What a run has come to: the users that are gone, and those whose devices are. -/
structure Swept (cutoff : Millis) (store : Backend) (gone cleared : List ObjectId)
    (later : Backend) : Prop where
  later : later =
    { store with
      users := store.users.filter fun user => decide (user.id ∉ gone)
      devices := store.devices.filter fun device => decide (device.userId ∉ cleared) }
  childrenFirst : gone ⊆ cleared
  victims : cleared ⊆ store.victimsBefore cutoff
  once : gone.Nodup

namespace Swept

variable {cutoff : Millis} {store later : Backend} {gone cleared : List ObjectId}

/-- Before its first deletion a run has come to nothing. -/
theorem start (cutoff : Millis) (store : Backend) : Swept cutoff store [] [] store where
  later := by
    simp only [List.not_mem_nil, not_false_eq_true, decide_true, List.filter_true]
  childrenFirst := List.Subset.refl _
  victims := List.nil_subset _
  once := List.nodup_nil

/-- The devices of one more victim are gone. -/
theorem clear (swept : Swept cutoff store gone cleared later) {victim : ObjectId}
    (member : victim ∈ store.victimsBefore cutoff) :
    Swept cutoff store gone (victim :: cleared)
      { later with devices := later.devices.filter fun device =>
          !(DeviceFilter.byUserId victim).accepts device } := by
  refine ⟨?_, fun id there => List.mem_cons_of_mem _ (swept.childrenFirst there), ?_, swept.once⟩
  · rw [swept.later]
    simp only [List.filter_filter, DeviceFilter.accepts, List.mem_cons, not_or, Bool.decide_and,
      decide_not]
  · exact List.cons_subset.mpr ⟨member, swept.victims⟩

/-- A victim without devices is gone too. -/
theorem remove (swept : Swept cutoff store gone cleared later) {victim : ObjectId}
    (there : victim ∈ cleared) (new : victim ∉ gone) :
    Swept cutoff store (victim :: gone) cleared
      { later with users := removeAt User.id victim later.users } := by
  refine ⟨?_, List.cons_subset.mpr ⟨there, swept.childrenFirst⟩, swept.victims,
    List.nodup_cons.mpr ⟨new, swept.once⟩⟩
  rw [swept.later]
  simp only [removeAt, List.filter_filter, List.mem_cons, not_or, Bool.decide_and, ne_eq]

/-- One run after another. -/
theorem trans {middle : Backend} {gone' cleared' : List ObjectId}
    (first : Swept cutoff store gone cleared middle)
    (second : Swept cutoff middle gone' cleared' later) :
    Swept cutoff store (gone' ++ gone) (cleared' ++ cleared) later where
  later := by
    rw [second.later, first.later]
    simp only [List.filter_filter, List.mem_append, not_or, Bool.decide_and]
  childrenFirst id there := by
    rcases List.mem_append.mp there with new | old
    · exact List.mem_append_left _ (second.childrenFirst new)
    · exact List.mem_append_right _ (first.childrenFirst old)
  victims id there := by
    rcases List.mem_append.mp there with new | old
    · obtain ⟨user, member, same⟩ := List.mem_map.mp (second.victims new)
      rw [first.later] at member
      obtain ⟨member, victim⟩ := List.mem_filter.mp member
      exact List.mem_map.mpr
        ⟨user, List.mem_filter.mpr ⟨(List.mem_filter.mp member).1, victim⟩, same⟩
    · exact first.victims old
  once := by
    refine List.nodup_append.mpr ⟨second.once, first.once, ?_⟩
    rintro id new _ old rfl
    obtain ⟨user, member, same⟩ := List.mem_map.mp (second.victims (second.childrenFirst new))
    rw [first.later] at member
    have present := of_decide_eq_true (List.mem_filter.mp (List.mem_filter.mp member).1).2
    rw [same] at present
    exact present old

/-- Whoever is gone was a victim. -/
theorem deletedBefore (swept : Swept cutoff store gone cleared later) (distinct : DistinctIds store)
    {user : User} (member : user ∈ store.users) (cleared : user.id ∈ cleared) :
    user.deletedBefore cutoff = true := by
  obtain ⟨victim, victims, same⟩ := List.mem_map.mp (swept.victims cleared)
  obtain ⟨there, deleted⟩ := List.mem_filter.mp victims
  rwa [distinct.unique member there same.symm]

/-- The users left are the old ones that are not gone. -/
theorem mem_users (swept : Swept cutoff store gone cleared later) (user : User) :
    user ∈ later.users ↔ user ∈ store.users ∧ user.id ∉ gone := by
  rw [swept.later, List.mem_filter, decide_eq_true_iff]

/-- The devices left are the old ones whose user's devices have not been cleared. -/
theorem mem_devices (swept : Swept cutoff store gone cleared later) (device : Device) :
    device ∈ later.devices ↔ device ∈ store.devices ∧ device.userId ∉ cleared := by
  rw [swept.later, List.mem_filter, decide_eq_true_iff]

/-- A run keeps the ids distinct. -/
theorem distinct (swept : Swept cutoff store gone cleared later) (distinct : DistinctIds store) :
    DistinctIds later := by
  rw [swept.later]
  exact List.Nodup.sublist (List.filter_sublist.map _) distinct

/-- When all victims that are left go, all victims are gone. -/
theorem finish (swept : Swept cutoff store gone cleared later) :
    later.without (later.victimsBefore cutoff) = store.without (store.victimsBefore cutoff) := by
  have left : ∀ id, id ∈ later.victimsBefore cutoff ↔
      id ∈ store.victimsBefore cutoff ∧ id ∉ gone := by
    intro id
    simp only [Backend.victimsBefore, List.mem_map, List.mem_filter, swept.mem_users]
    constructor
    · rintro ⟨user, ⟨⟨member, present⟩, victim⟩, rfl⟩
      exact ⟨⟨user, ⟨member, victim⟩, rfl⟩, present⟩
    · rintro ⟨⟨user, ⟨member, victim⟩, rfl⟩, present⟩
      exact ⟨user, ⟨⟨member, present⟩, victim⟩, rfl⟩
  rw [swept.later] at left ⊢
  simp only [Backend.without, List.filter_filter, Backend.mk.injEq, and_true, left, not_and,
    not_not]
  constructor
  · apply List.filter_congr
    intro user _
    rw [← Bool.decide_and, decide_eq_decide]
    constructor
    · rintro ⟨still, present⟩ victim
      exact present (still victim)
    · intro kept
      exact ⟨fun victim => absurd victim kept,
        fun victim => kept (swept.victims (swept.childrenFirst victim))⟩
  · apply List.filter_congr
    intro device _
    rw [← Bool.decide_and, decide_eq_decide]
    constructor
    · rintro ⟨still, present⟩ victim
      exact present (swept.childrenFirst (still victim))
    · intro kept
      exact ⟨fun victim => absurd victim kept, fun victim => kept (swept.victims victim)⟩

end Swept

/-! ## What a run comes to -/

section Law

variable [Libraries] {cutoff : Millis} {store later : Backend} {gone cleared : List ObjectId}

/-- Somewhere within a run. -/
def Sweeping (cutoff : Millis) (store later : Backend) : Prop :=
  ∃ gone cleared, Swept cutoff store gone cleared later

/-- A victim is purged, or it stays. -/
theorem purgeUser_throughout (swept : Swept cutoff store gone cleared later) {victim : ObjectId}
    (member : victim ∈ store.victimsBefore cutoff) (new : victim ∉ gone) :
    (UserPurgeTask.purgeUser victim).Throughout Backend.attempts (Sweeping cutoff store)
      (fun outcome last => ∃ cleared, Swept cutoff store
        (match outcome with
          | .ok () => victim :: gone
          | .error _ => gone) cleared last) later := by
  refine ⟨⟨gone, cleared, swept⟩, fun after answered => ?_⟩
  rcases Backend.attempts_deleteDevices answered with rfl | rfl
  · have cleared := swept.clear member
    refine ⟨⟨_, _, cleared⟩, fun after answered => ?_⟩
    rcases Backend.attempts_deleteUser answered with rfl | rfl
    · have removed := cleared.remove List.mem_cons_self new
      exact ⟨⟨_, _, removed⟩, _, removed⟩
    · exact ⟨⟨_, _, cleared⟩, _, cleared⟩
  · exact ⟨⟨_, _, swept⟩, _, swept⟩

/-- Throughout the loop of a purge it is somewhere within its sweep. The induction is on the
victims that are left. -/
theorem purgeAll_throughout {rest : List ObjectId} (swept : Swept cutoff store gone cleared later)
    (members : rest ⊆ store.victimsBefore cutoff) (apart : (gone ++ rest).Nodup) :
    (UserPurgeTask.purgeAll rest gone.length).Throughout Backend.attempts (Sweeping cutoff store)
      (fun outcome last => ∃ gone cleared, Swept cutoff store gone cleared last ∧
        outcome = .ok gone.length) later := by
  induction rest generalizing gone cleared later with
  | nil => exact ⟨⟨_, _, swept⟩, _, _, swept, rfl⟩
  | cons victim rest ih =>
      obtain ⟨member, members⟩ := List.cons_subset.mp members
      have new : victim ∉ gone := fun there =>
        (List.disjoint_of_nodup_append apart) there List.mem_cons_self
      have counted : (victim :: gone ++ rest).Nodup := (List.perm_middle.nodup_iff).mp apart
      have others : (gone ++ rest).Nodup := (List.nodup_cons.mp counted).2
      -- the outcome of the `try` is a value in either case
      let mid : Except ServiceError (Except ServiceError Unit) → Backend → Prop
        | .ok outcome, last => ∃ cleared, Swept cutoff store
            (match outcome with
              | .ok () => victim :: gone
              | .error _ => gone) cleared last
        | .error _, _ => False
      have purged : (UserPurgeTask.purgeUser victim).attempt.Throughout Backend.attempts
          (Sweeping cutoff store) mid later := (purgeUser_throughout swept member new).attempt
      refine purged.bind (fun _ _ _ => False.elim) fun outcome last _ swept => ?_
      obtain ⟨cleared, swept⟩ := swept
      cases outcome with
      | ok => exact ih swept members counted
      | error => exact ih swept members others

/-- A run returns how many victims are gone, or fails on its query. -/
theorem runUntil_throughout (distinct : DistinctIds store) :
    (UserPurgeTask.runUntil cutoff).Throughout Backend.attempts (Sweeping cutoff store)
      (fun outcome later => ∀ purged, outcome = .ok purged → ∃ gone cleared,
        Swept cutoff store gone cleared later ∧ purged = gone.length) store := by
  have nothing := Swept.start cutoff store
  refine ⟨⟨_, _, nothing⟩, fun after answered => ?_⟩
  rcases Backend.attempts_findUsersDeletedBefore answered with rfl | rfl
  · change Program.Throughout Backend.attempts _ _
      (if (store.users.filter (User.deletedBefore cutoff)).isEmpty then
        .ret 0 else UserPurgeTask.purgeAll (store.victimsBefore cutoff) 0) store
    split
    · refine ⟨⟨_, _, nothing⟩, fun purged same => ⟨_, _, nothing, ?_⟩⟩
      cases same
      rfl
    · refine (purgeAll_throughout nothing (List.Subset.refl _) ?_).mono (fun _ => id) ?_
      · exact distinct.sublist (List.filter_sublist.map _)
      · rintro outcome last _ ⟨gone, cleared, swept, rfl⟩ purged same
        cases same
        exact ⟨gone, cleared, swept, rfl⟩
  · exact ⟨⟨_, _, nothing⟩, fun _ => nofun⟩

/-- A run that meets with no failure. -/
def flawless (cutoff : Millis) (store : Backend) : Backend × Except ServiceError Nat :=
  (UserPurgeTask.runUntil cutoff).run (Backend.during {}) store

/-- Without a failure the purge removes every user of its list with the devices, and counts
them all. -/
theorem purgeAll_flawless (ids : List ObjectId) (purged : Nat) (store : Backend) :
    (UserPurgeTask.purgeAll ids purged).run (Backend.during {}) store =
      (store.without ids, .ok (purged + ids.length)) := by
  induction ids generalizing store purged with
  | nil => rw [Backend.without_nil]; rfl
  | cons id ids ih =>
      rw [Backend.without_cons, List.length_cons, ← Nat.add_assoc, Nat.add_right_comm, ← ih]
      rfl

/-- A run without a failure removes exactly the users whose grace period ended before the
cutoff, with their devices, and answers how many they are. -/
theorem flawless_eq (cutoff : Millis) (store : Backend) :
    flawless cutoff store = (store.without (store.victimsBefore cutoff),
      .ok (store.victimsBefore cutoff).length) := by
  have loop := purgeAll_flawless (store.victimsBefore cutoff) 0 store
  rw [Nat.zero_add] at loop
  change (if (store.users.filter (User.deletedBefore cutoff)).isEmpty then .ret 0 else
    UserPurgeTask.purgeAll (store.victimsBefore cutoff) 0 : Handler Nat).run _ store = _
  split
  · rename_i none
    have nobody : store.victimsBefore cutoff = [] := by
      rw [Backend.victimsBefore, List.isEmpty_iff.mp none, List.map_nil]
    rw [nobody, Backend.without_nil]
    rfl
  · exact loop

/-! ## Exact and resumable -/

/-- The stores that runs with one cutoff lead to, each run up to some point. -/
inductive Resumed (cutoff : Millis) (store : Backend) : Backend → Prop
  | start : Resumed cutoff store store
  | run {before point later} : Resumed cutoff store before →
      (UserPurgeTask.runUntil cutoff).Comes Backend.attempts before point later →
        Resumed cutoff store later

/-- Whatever fails and wherever a run ends, it removes victims only, each after its
devices, and it counts those that are gone. A run without failures removes all of them, and
after runs that failed it ends where it would have ended without them. -/
structure PurgesExactly (cutoff : Millis) (store : Backend) : Prop where
  frame : ∀ {point later},
    (UserPurgeTask.runUntil cutoff).Comes Backend.attempts store point later →
      later = { store with users := later.users, devices := later.devices } ∧
        later.users.Sublist store.users ∧ later.devices.Sublist store.devices
  usersOnly : ∀ {point later},
    (UserPurgeTask.runUntil cutoff).Comes Backend.attempts store point later →
      ∀ user ∈ store.users, user ∉ later.users → user.deletedBefore cutoff = true
  devicesOnly : ∀ {point later},
    (UserPurgeTask.runUntil cutoff).Comes Backend.attempts store point later →
      ∀ device ∈ store.devices, device ∉ later.devices →
        ∃ user ∈ store.users, user.deletedBefore cutoff = true ∧ device.userId = user.id
  childrenFirst : ∀ {point later},
    (UserPurgeTask.runUntil cutoff).Comes Backend.attempts store point later →
      ∀ user ∈ store.users, user ∉ later.users →
        ∀ device ∈ later.devices, device.userId ≠ user.id
  counts : ∀ {purged later},
    (UserPurgeTask.runUntil cutoff).Comes Backend.attempts store (.ret purged) later →
      purged = store.users.countP fun user =>
        user.deletedBefore cutoff && decide (user ∉ later.users)
  complete : flawless cutoff store = (store.without (store.victimsBefore cutoff),
    .ok (store.victimsBefore cutoff).length)
  resumable : ∀ {later}, Resumed cutoff store later →
    ∃ purged, flawless cutoff later = ((flawless cutoff store).1, .ok purged)

/-- Wherever a run comes to, even with calls that fail, it is somewhere within the purge of
its victims. -/
theorem Sweeping.of_comes (distinct : DistinctIds store) {point : Handler Nat}
    (comes : (UserPurgeTask.runUntil cutoff).Comes Backend.attempts store point later) :
    Sweeping cutoff store later :=
  ((runUntil_throughout distinct).comes comes).now

/-- So are any number of runs that were broken off, one after the other. -/
theorem Resumed.sweeping (distinct : DistinctIds store) (resumed : Resumed cutoff store later) :
    Sweeping cutoff store later := by
  induction resumed with
  | start => exact ⟨_, _, .start cutoff store⟩
  | run _ comes ih =>
      obtain ⟨gone, cleared, swept⟩ := ih
      obtain ⟨gone', cleared', further⟩ := Sweeping.of_comes (swept.distinct distinct) comes
      exact ⟨_, _, swept.trans further⟩

omit [Libraries] in
/-- As many records are gone as the run has purged. -/
theorem Swept.length_gone (swept : Swept cutoff store gone cleared later)
    (distinct : DistinctIds store) : gone.length = store.users.countP fun user =>
      user.deletedBefore cutoff && decide (user ∉ later.users) := by
  have members : gone ⊆ store.users.map User.id := by
    intro id there
    obtain ⟨user, member, same⟩ := List.mem_map.mp (swept.victims (swept.childrenFirst there))
    exact List.mem_map.mpr ⟨user, (List.mem_filter.mp member).1, same⟩
  have alike : gone.Perm ((store.users.map User.id).filter fun id => decide (id ∈ gone)) := by
    apply (List.perm_ext_iff_of_nodup swept.once (distinct.filter _)).mpr
    intro id
    rw [List.mem_filter, decide_eq_true_iff]
    exact ⟨fun there => ⟨members there, there⟩, And.right⟩
  calc gone.length
      = ((store.users.map User.id).filter fun id => decide (id ∈ gone)).length := alike.length_eq
    _ = store.users.countP fun user => decide (user.id ∈ gone) := by
        rw [← List.countP_eq_length_filter, List.countP_map]
        rfl
    _ = _ := by
        apply List.countP_congr
        intro user member
        simp only [swept.mem_users, member, true_and, not_not, Bool.and_eq_true,
          decide_eq_true_eq]
        exact ⟨fun there => ⟨swept.deletedBefore distinct member (swept.childrenFirst there),
          there⟩, And.right⟩

/-- The purge is exact and resumable, in every store with distinct ids and for every cutoff:
whatever fails in a run and wherever it is broken off, it has removed victims only, each
after its devices. -/
theorem purgesExactly (distinct : DistinctIds store) (cutoff : Millis) :
    PurgesExactly cutoff store where
  frame comes := by
    obtain ⟨gone, cleared, swept⟩ := Sweeping.of_comes distinct comes
    rw [swept.later]
    exact ⟨rfl, List.filter_sublist, List.filter_sublist⟩
  usersOnly comes user member absent := by
    obtain ⟨gone, cleared, swept⟩ := Sweeping.of_comes distinct comes
    rw [swept.mem_users, not_and, not_not] at absent
    exact swept.deletedBefore distinct member (swept.childrenFirst (absent member))
  devicesOnly comes device member absent := by
    obtain ⟨gone, cleared, swept⟩ := Sweeping.of_comes distinct comes
    rw [swept.mem_devices, not_and, not_not] at absent
    obtain ⟨user, victim, same⟩ := List.mem_map.mp (swept.victims (absent member))
    obtain ⟨there, deleted⟩ := List.mem_filter.mp victim
    exact ⟨user, there, deleted, same.symm⟩
  childrenFirst comes user member absent device present same := by
    obtain ⟨gone, cleared, swept⟩ := Sweeping.of_comes distinct comes
    rw [swept.mem_users, not_and, not_not] at absent
    have kept := ((swept.mem_devices device).mp present).2
    rw [same] at kept
    exact kept (swept.childrenFirst (absent member))
  counts comes := by
    obtain ⟨gone, cleared, swept, same⟩ :=
      ((runUntil_throughout distinct).comes comes).2 _ rfl
    rw [same]
    exact swept.length_gone distinct
  complete := flawless_eq cutoff store
  resumable {later} resumed := by
    obtain ⟨gone, cleared, swept⟩ := resumed.sweeping distinct
    refine ⟨(later.victimsBefore cutoff).length, ?_⟩
    rw [flawless_eq, flawless_eq, swept.finish]

end Law

section Runs

open scoped Plain

/-- Two accounts whose grace windows are over, one with a device, and a live one. -/
def graceOver : Backend :=
  { users := [
      { id := 0, createdAt := 0, updatedAt := 5, deletedAt := some 5 },
      { id := 1, createdAt := 0, updatedAt := 7, deletedAt := some 7 },
      { id := 2, createdAt := 0, updatedAt := 0 }]
    devices := [
      { id := 3, createdAt := 0, updatedAt := 0, fingerprint := "f", userId := 0, lastSeenAt := 0 }]
    nextObjectId := 4 }

/-- The premises are met by a store with two accounts whose grace period is over and a live
one. -/
theorem purgesExactly_graceOver : PurgesExactly 10 graceOver :=
  purgesExactly (by unfold DistinctIds; decide) 10

end Runs

end NestMonorepo
