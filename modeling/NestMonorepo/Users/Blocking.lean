import NestMonorepo.Database.ObjectIds
import NestMonorepo.Users.Devices

/-! # Blocked fingerprints

A block is a flag on the device row of a fingerprint. Registration reads it
before anything else and never removes a blocked row, but the row belongs to a
user: it goes when the user is upgraded, and when the user is purged.
-/

namespace NestMonorepo

open Collections Concurrency Handler UsersService

section Law

variable [Libraries] {store : Backend} {fingerprint : String} {owner : ObjectId}

/-- A registration is refused because the device is blocked, and changes nothing. -/
def RefusesBlocked (payload : AutoregPayload) (store : Backend) : Prop :=
  ∃ exception : MicroserviceException, exception.status = 403 ∧
    exception.code = "device_blocked" ∧
    (UsersService.createAutoregUser payload).runIn store =
      (store, .error (.microservice exception))

/-- From every state in which the device row of a fingerprint is blocked, through
any activities that are `allowed` for the row's user, registrations of the
fingerprint are refused. -/
def StaysBlocked (allowed : ObjectId → Activity → Backend → Prop) : Prop :=
  ∀ start fingerprint device, Indexed start →
    fetch Device.fingerprint fingerprint start.devices = some device →
    device.isBlocked = true →
    ∀ store, Maintained (allowed device.userId) start store → store.databaseUp = true →
    ∀ payload : AutoregPayload, payload.fingerprint = fingerprint → RefusesBlocked payload store

/-- The activity does not take the devices of a user away: it is no upgrade of the
user that succeeds, and no purge run that finds the user past the grace window. -/
def SparesDevicesOf (owner : ObjectId) : Activity → Backend → Prop
  | .message (.upgradeAccount userId payload), store => Libraries.ofHexString userId = some owner →
      ∀ answer, (serve (.upgradeAccount userId payload) store).2 ≠ .ok answer
  | .purge, store => store.databaseUp = true → owner ∉ store.victims
  | _, _ => True

omit [Libraries] in
/-- A blocked row of the fingerprint that belongs to the user. -/
def BlockedRow (fingerprint : String) (owner : ObjectId) (devices : List Device) : Prop :=
  ∃ device ∈ devices, device.fingerprint = fingerprint ∧ device.isBlocked = true ∧
    device.userId = owner

omit [Libraries] in
/-- A blocked row stays as long as the rows removed are not it. -/
theorem BlockedRow.filter {devices : List Device} {keep : Device → Bool}
    (row : BlockedRow fingerprint owner devices)
    (kept : ∀ device ∈ devices, device.isBlocked = true → device.userId = owner →
      keep device = true) : BlockedRow fingerprint owner (devices.filter keep) := by
  obtain ⟨device, member, named, blocked, owned⟩ := row
  exact ⟨device, List.mem_filter.mpr ⟨member, kept device member blocked owned⟩, named, blocked,
    owned⟩

omit [Libraries] in
/-- A registration only clears rows that are not blocked. -/
theorem Cleared.blockedRow {other : String} {devices : List Device}
    (cleared : Cleared store other devices) (indexed : Indexed store)
    (row : BlockedRow fingerprint owner store.devices) : BlockedRow fingerprint owner devices := by
  cases cleared with
  | unseen => exact row
  | stale seen unblocked =>
      apply row.filter
      intro device member blocked _
      rw [Bool.not_eq_true', DeviceFilter.accepts, decide_eq_false_iff_not]
      intro same
      obtain rfl := indexed.unique member (fetch_some_mem seen) same
      exact Bool.false_ne_true (unblocked.symm.trans blocked)

/-- A registration keeps blocked rows. The cases are the ways in which it ends; the ones
that remove a row remove one that is not blocked. -/
theorem AutoregEnds.blockedRow {payload : AutoregPayload} {after : Backend}
    {outcome : Except ServiceError AutoregResult} (ends : AutoregEnds payload store after outcome)
    (indexed : Indexed store) (row : BlockedRow fingerprint owner store.devices) :
    BlockedRow fingerprint owner after.devices := by
  cases ends with
  | failed error => exact row
  | blocked => exact row
  | @seenAgain seen _ _ leads =>
      change BlockedRow fingerprint owner (touched store seen payload)
      unfold touched
      split
      · exact row
      · obtain ⟨device, member, named, blocked, owned⟩ := row
        refine ⟨device, mem_modifyAt_of_ne member fun same => ?_, named, blocked, owned⟩
        obtain rfl := indexed.unique member (fetch_some_mem leads.1) same
        exact Bool.false_ne_true (leads.2.1.symm.trans blocked)
  | refused _ cleared => exact cleared.blockedRow indexed row
  | orphaned _ _ cleared => exact cleared.blockedRow indexed row
  | unowned _ _ cleared =>
      obtain ⟨device, member, rest⟩ := cleared.blockedRow indexed row
      exact ⟨device, List.mem_append_left _ member, rest⟩
  | created _ cleared =>
      obtain ⟨device, member, rest⟩ := cleared.blockedRow indexed row
      exact ⟨device, List.mem_append_left _ member, rest⟩

/-- An activity that spares the devices of the row's user keeps the row. The cases are the
activities, and among the messages those that write devices. -/
theorem BlockedRow.apply {activity : Activity}
    (row : BlockedRow fingerprint owner store.devices) (indexed : Indexed store)
    (spares : SparesDevicesOf owner activity store) :
    BlockedRow fingerprint owner (activity.apply store).devices := by
  cases activity with
  | environment event => cases event <;> exact row
  | purge =>
      rw [Activity.apply, purge_run]
      split
      · rename_i up
        apply row.filter
        rintro device _ _ rfl
        exact decide_eq_true (spares up)
      · exact row
  | message operation =>
      by_cases untouched : operation.SparesDevices
      · rw [Activity.apply, serve_devices untouched]
        exact row
      cases operation with
      | createAutoregUser payload =>
          rw [Activity.apply]
          rcases createAutoregUser_message payload store with same | ⟨_, outcome, ends⟩
          · rw [same]
            exact row
          · exact ends.blockedRow indexed row
      | upgradeAccount userId payload =>
          obtain ⟨outcome, ends, answered⟩ := upgradeAccount_message userId payload store
          rw [Activity.apply]
          generalize (serve (.upgradeAccount userId payload) store).1 = after at ends
          cases ends with
          | failed error => exact row
          | upgraded _ parsed =>
              apply row.filter
              rintro device _ _ rfl
              rw [Bool.not_eq_true', DeviceFilter.accepts, decide_eq_false_iff_not]
              intro same
              exact spares (parsed.trans (congrArg some same.symm)) _ answered
      | _ => exact (untouched trivial).elim

/-- A blocked row refuses the registrations of its fingerprint. -/
theorem BlockedRow.refuses {payload : AutoregPayload}
    (row : BlockedRow payload.fingerprint owner store.devices) (indexed : Indexed store)
    (up : store.databaseUp = true) : RefusesBlocked payload store := by
  obtain ⟨device, member, named, blocked, _⟩ := row
  have seen : fetch Device.fingerprint payload.fingerprint store.devices = some device := by
    rw [← named]
    exact fetch_of_mem indexed.fingerprints member
  refine ⟨deviceBlocked device, rfl, rfl, ?_⟩
  rw [UsersService.createAutoregUser, runIn_findDevice up]
  simp only [seen, blocked, ↓reduceIte, runIn_throw]

/-- A fingerprint without a row is registered, or at least ids are drawn for it. -/
theorem not_refusesBlocked_of_unseen {payload : AutoregPayload} (up : store.databaseUp = true)
    (unseen : fetch Device.fingerprint payload.fingerprint store.devices = none) :
    ¬RefusesBlocked payload store := by
  rintro ⟨exception, _, _, refused⟩
  rw [UsersService.createAutoregUser, runIn_findDevice up] at refused
  simp only [unseen] at refused
  rw [createFreshAutoreg, runIn_newObjectId] at refused
  have drawn : (Handler.runIn _ _).1.nextObjectId = store.nextObjectId :=
    congrArg (fun ended => ended.1.nextObjectId) refused
  have later := (runIn_nextObjectId _ _).trans (le_of_eq drawn)
  exact absurd later (Nat.not_succ_le_self _)

omit [Libraries] in
/-- Without the rows of its owner a fingerprint is unseen. -/
theorem fetch_eq_none_of_removed {device : Device} (indexed : Indexed store)
    (member : device ∈ store.devices) {keep : Device → Bool} (removed : keep device = false) :
    fetch Device.fingerprint device.fingerprint (store.devices.filter keep) = none := by
  rw [fetch_eq_none]
  intro other present same
  obtain ⟨inside, kept⟩ := List.mem_filter.mp present
  obtain rfl := List.inj_on_of_nodup_map indexed.fingerprints inside member same
  exact Bool.false_ne_true (removed.symm.trans kept)

/-- After an activity a blocked fingerprint is still refused exactly when the
activity spared the devices of the row's user. -/
theorem refusesBlocked_apply_iff {device : Device} (indexed : Indexed store)
    (seen : fetch Device.fingerprint fingerprint store.devices = some device)
    (blocked : device.isBlocked = true) (activity : Activity)
    (up : (activity.apply store).databaseUp = true) :
    (∀ payload : AutoregPayload, payload.fingerprint = fingerprint →
      RefusesBlocked payload (activity.apply store)) ↔
    SparesDevicesOf device.userId activity store := by
  have named := fetch_some_key seen
  have member := fetch_some_mem seen
  constructor
  · intro refuses
    have present : fetch Device.fingerprint fingerprint (activity.apply store).devices ≠ none :=
      fun unseen => not_refusesBlocked_of_unseen up unseen (refuses { fingerprint } rfl)
    cases activity with
    | environment event => trivial
    | purge =>
        intro answering victim
        refine present ?_
        rw [Activity.apply, purge_run, if_pos answering, ← named]
        exact fetch_eq_none_of_removed indexed member (by simpa using victim)
    | message operation =>
        cases operation with
        | upgradeAccount userId payload =>
            intro parsed answer answered
            obtain ⟨outcome, ends, same⟩ := upgradeAccount_message userId payload store
            rw [Activity.apply] at present
            generalize (serve (.upgradeAccount userId payload) store).1 = after at ends present
            cases ends with
            | failed error =>
                rw [same] at answered
                cases answered
            | upgraded _ parsed' =>
                refine present ?_
                rw [← named]
                refine fetch_eq_none_of_removed indexed member ?_
                have owned := Option.some.inj (parsed.symm.trans parsed')
                simp only [DeviceFilter.accepts, owned, decide_true, Bool.not_true]
        | _ => trivial
  · rintro spares payload rfl
    have row : BlockedRow payload.fingerprint device.userId store.devices :=
      ⟨device, member, named, blocked, rfl⟩
    exact (row.apply indexed spares).refuses (indexed.apply activity) up

/-- A blocked fingerprint stays blocked while nothing takes the devices of the
row's user away. -/
theorem staysBlocked_of_spared : StaysBlocked SparesDevicesOf := by
  rintro start _ device indexed seen blocked store maintained up payload rfl
  have kept : Indexed store ∧ BlockedRow payload.fingerprint device.userId store.devices := by
    refine maintained.invariant
      (fun store => Indexed store ∧ BlockedRow payload.fingerprint device.userId store.devices)
      ⟨indexed, device, fetch_some_mem seen, fetch_some_key seen, blocked, rfl⟩ ?_
    intro activity middle ⟨intact, row⟩ spares
    exact ⟨intact.apply activity, row.apply intact spares⟩
  exact kept.2.refuses kept.1 up

end Law

/-! ## An upgrade lifts the block -/

section Upgraded

open scoped Plain

/-- An anonymous account whose device has been blocked. -/
def blockedDevice : Backend where
  users := [autoregUser 0 0]
  devices := [{ autoregDevice { fingerprint := "f" } 1 0 0 with isBlocked := true }]
  nextObjectId := 2

/-- The account is upgraded. -/
def upgradedBlocked : Activity :=
  .message (.upgradeAccount (ObjectIds.toHexString 0)
    { method := .oauth .google, providerUserId := some "g" })

/-- A blocked device is free again once its account is upgraded: the upgrade deletes the row
with the block on it, and the device registers afresh. -/
theorem not_staysBlocked_of_upgrade : ¬StaysBlocked fun _ => AnyActivity := by
  intro stays
  obtain ⟨exception, _, _, refused⟩ := stays blockedDevice "f" _
    ⟨List.nodup_singleton _, List.nodup_singleton _,
      List.nodup_singleton _⟩
    rfl rfl (upgradedBlocked.apply blockedDevice) (.step _ .start trivial) rfl
    { fingerprint := "f" } rfl
  have registered : ((UsersService.createAutoregUser { fingerprint := "f" }).runIn
      (upgradedBlocked.apply blockedDevice)).2 =
        .ok ⟨ObjectIds.toHexString 2, ObjectIds.toHexString 3, 0⟩ := by rfl
  rw [refused] at registered
  cases registered

end Upgraded

end NestMonorepo
