import NestMonorepo.Concurrency.History
import NestMonorepo.Database.ObjectIds
import NestMonorepo.Users.Devices

/-! # Registering one fingerprint many times

A registration looks for the account its fingerprint leads to and, when there is
none, stores a user and then the device row that leads to it. Only the row's
fingerprint is unique. Whether registrations of one fingerprint agree is decided by
what the others are doing when one looks.
-/

namespace NestMonorepo

open Collections Concurrency Handler UsersService

section Law

variable [Libraries] {fingerprint : String}

/-! ## The law -/

omit [Libraries] in
/-- A store in which the fingerprint may be registered and leads to no account yet: the
unique indexes hold, drawn ids are new, and its row, if there is one, is not blocked. -/
structure Unregistered (start : Backend) (fingerprint : String) : Prop where
  up : start.databaseUp = true
  present : fingerprint ≠ ""
  indexed : Indexed start
  users : ∀ user ∈ start.users, user.id < start.nextObjectId
  devices : ∀ device ∈ start.devices, device.id < start.nextObjectId
  unblocked : ∀ device, fetch Device.fingerprint fingerprint start.devices = some device →
    device.isBlocked = false
  unled : ∀ device linked, ¬LeadsTo start fingerprint device linked

omit [Libraries] in
/-- Registrations of one fingerprint, any number at a time, while the database answers. -/
def Registrations (fingerprint : String) : ServiceLabel → Bool
  | .spawn (.createAutoregUser payload) => payload.fingerprint == fingerprint
  | .spawn _ => false
  | .step _ => true
  | .crash _ => false
  | .environment (.database _) => false
  | .environment _ => true

/-- Over the runs of registrations whose steps are `allowed`: none fails, and once one
has returned there is one user more than at the start, an anonymous one that the
fingerprint leads to, whose id every registration returns. -/
def SameAccount (allowed : ServiceLabel → ServicePool → Prop) (start : Backend)
    (fingerprint : String) : Prop :=
  ∀ pool, userService.Reaches
      (fun label pool => Registrations fingerprint label ∧ allowed label pool) ⟨start, []⟩ pool →
    ∀ thread ∈ pool.threads, (∀ error, thread.status ≠ .thrown error) ∧
      ∀ answer, thread.status = .returned answer → ∃ result user device,
        answer = .autoreg result ∧ result.id = user.hexId ∧
        pool.shared.users = start.users ++ [user] ∧
        LeadsTo pool.shared fingerprint device user

omit [Libraries] in
/-- A registration looks its fingerprint up only when this leads to an account, or while
no other registration is past its own lookup. -/
def OneAtATime (fingerprint : String) (label : ServiceLabel) (pool : ServicePool) : Prop :=
  ∀ index thread, label = .step index → pool.threads[index]? = some thread →
    thread.pending = some (.findDevice fingerprint) →
    (∃ device user, LeadsTo pool.shared fingerprint device user) ∨
    ∀ other ∈ pool.threads, ∀ program, other.status = .running program →
      program.pending = some (.findDevice fingerprint)

/-! ## Once there is an account -/

omit [Libraries] in
/-- The account `id` is the one user added to the start, and the fingerprint leads to
it. -/
structure Registered (start : Backend) (fingerprint : String) (id : ObjectId)
    (store : Backend) : Prop where
  up : store.databaseUp = true
  account : ∃ user device, user.id = id ∧ store.users = start.users ++ [user] ∧
    LeadsTo store fingerprint device user

omit [Libraries] in
/-- Where a fingerprint leads depends on the stored users and devices only. -/
theorem LeadsTo.of_eq {store later : Backend} {device : Device} {user : User}
    (leads : LeadsTo store fingerprint device user) (users : later.users = store.users)
    (devices : later.devices = store.devices) : LeadsTo later fingerprint device user := by
  rw [LeadsTo, users, devices]
  exact leads

omit [Libraries] in
/-- That a fingerprint is registered depends on the users, the devices and the database
being up only. -/
theorem Registered.of_eq {start store later : Backend} {id : ObjectId}
    (registered : Registered start fingerprint id store) (users : later.users = store.users)
    (devices : later.devices = store.devices) (up : later.databaseUp = store.databaseUp) :
    Registered start fingerprint id later := by
  obtain ⟨user, device, named, added, leads⟩ := registered.account
  exact ⟨up.trans registered.up, user, device, named, users.trans added, leads.of_eq users devices⟩

omit [Libraries] in
/-- A row seen again leads where it led. -/
theorem Registered.seenAgain {start store : Backend} {id : ObjectId}
    (registered : Registered start fingerprint id store) (row : ObjectId)
    (changes : DeviceChanges) (at_ : Millis) :
    Registered start fingerprint id (store.stored at_ (.updateDevice row changes)) := by
  obtain ⟨user, device, named, added, seen, unblocked, stored, anonymous⟩ := registered.account
  have kept : ∀ device : Device, (device.apply changes at_).fingerprint = device.fingerprint :=
    fun _ => rfl
  refine ⟨registered.up, user, if device.id = row then device.apply changes at_ else device, named,
    added, ?_, ?_, ?_, anonymous⟩
  · exact (fetch_modifyAt_of_key kept).trans (congrArg (Option.map _) seen)
  · split <;> exact unblocked
  · split <;> exact stored

omit [Libraries] in
/-- A registered fingerprint has an unblocked device row, which names the registered user. -/
theorem Registered.row {start store : Backend} {id : ObjectId}
    (registered : Registered start fingerprint id store) :
    ∃ device, fetch Device.fingerprint fingerprint store.devices = some device ∧
      device.isBlocked = false ∧ device.userId = id := by
  obtain ⟨user, device, rfl, _, seen, unblocked, stored, _⟩ := registered.account
  exact ⟨device, seen, unblocked, (fetch_some_key stored).symm⟩

omit [Libraries] in
/-- The registered user is stored and is still an autoreg account. -/
theorem Registered.owner {start store : Backend} {id : ObjectId}
    (registered : Registered start fingerprint id store) :
    ∃ user, fetch User.id id store.users = some user ∧ user.accountType = .autoreg := by
  obtain ⟨user, device, rfl, _, _, _, stored, anonymous⟩ := registered.account
  exact ⟨user, by rwa [fetch_some_key stored], anonymous⟩

/-- Registrations leave the account where it is. -/
def registry (start : Backend) (fingerprint : String) (id : ObjectId) : ServiceContract where
  rely _ _ := True
  refl _ := trivial
  trans _ _ := trivial
  keeps := Registered start fingerprint id
  permitted _ _ := True

/-- The registration is answered with the account. -/
def AnswersWith (id : ObjectId) (outcome : Except ServiceError Answer) (_ : Backend) : Prop :=
  ∃ result, outcome = .ok (.autoreg result) ∧ result.id = Libraries.toHexString id

/-- Once there is an account, a registration finds it, whatever the others do. -/
theorem createAutoregUser_registered {start : Backend} {id : ObjectId} {payload : AutoregPayload}
    (present : payload.fingerprint ≠ "") (store : Backend) :
    (UsersController.handle (.createAutoregUser payload)).Always Backend.exec
      (registry start payload.fingerprint id) (fun _ _ _ => True) (AnswersWith id) store := by
  have calm : ∀ {command : Command} {next : Reply command → Handler Answer} {state : Backend},
      (∀ later, Registered start payload.fingerprint id later →
        Registered start payload.fingerprint id (Backend.exec command later).1 ∧
          (next (Backend.exec command later).2).Always Backend.exec
            (registry start payload.fingerprint id) (fun _ _ _ => True) (AnswersWith id)
            (Backend.exec command later).1) →
      (Program.call command next).Always Backend.exec (registry start payload.fingerprint id)
        (fun _ _ _ => True) (AnswersWith id) state :=
    fun rest later _ kept => ⟨trivial, fun _ => ⟨(rest later kept).1, trivial, (rest later kept).2⟩⟩
  simp only [UsersController.handle, UsersController.createAutoregUser, if_neg present,
    UsersService.createAutoregUser, findDevice, findUser, now, await, flush_bind,
    Program.bind_assoc, Program.perform_bind, Program.call_bind]
  refine calm fun found kept => ⟨kept, ?_⟩
  obtain ⟨device, seen, unblocked, rfl⟩ := kept.row
  rw [Backend.exec, Backend.answer, kept.up, seen]
  simp only [↓reduceIte, ofReply_ok, Program.ret_bind, unblocked, Bool.false_eq_true,
    Program.bind_assoc, Program.call_bind]
  refine calm fun read kept => ⟨kept, ?_⟩
  obtain ⟨user, stored, anonymous⟩ := kept.owner
  have answered : read.users.find? (UserFilter.byId device.userId).accepts = some user := stored
  rw [Backend.exec, Backend.answer, kept.up, answered]
  simp only [↓reduceIte, ofReply_ok, Program.ret_bind, anonymous, ne_eq, not_true_eq_false,
    Program.bind_assoc, Program.call_bind, Program.pure_eq]
  refine calm fun timed kept => ⟨kept, ?_⟩
  refine calm fun flushing kept => ⟨kept, ?_⟩
  simp only [Backend.exec]
  have answers : ∀ {later}, (Program.ret (Answer.autoreg ⟨Libraries.toHexString device.userId,
      Libraries.toHexString device.id, user.tokenVersion⟩)).Always Backend.exec
      (registry start payload.fingerprint device.userId) (fun _ _ _ => True)
      (AnswersWith device.userId) later := fun _ _ _ => ⟨_, rfl, rfl⟩
  rw [Device.update]
  split
  · exact answers
  · rw [writeAll_cons_bind]
    refine calm fun storing kept => ?_
    have accepted : Backend.exec (.write (.updateDevice device.id (device.changes
        (seenAgain device payload timed.clock))) flushing.clock) storing =
        (storing.stored flushing.clock (.updateDevice device.id (device.changes
          (seenAgain device payload timed.clock))), .ok ()) := by
      simp only [Backend.exec, kept.up, ↓reduceIte]
      rfl
    rw [accepted]
    exact ⟨kept.seenAgain _ _ _, answers⟩

/-! ## Before there is one -/

omit [Libraries] in
/-- The store after a while in which no handler wrote. -/
structure Undisturbed (store later : Backend) : Prop where
  users : later.users = store.users
  devices : later.devices = store.devices
  up : later.databaseUp = store.databaseUp
  ids : later.nextObjectId = store.nextObjectId

omit [Libraries] in
/-- A store has not been disturbed by nothing happening to it. -/
theorem Undisturbed.refl (store : Backend) : Undisturbed store store := ⟨rfl, rfl, rfl, rfl⟩

omit [Libraries] in
/-- Undisturbed twice over is undisturbed. -/
theorem Undisturbed.trans {first second third : Backend} (left : Undisturbed first second)
    (right : Undisturbed second third) : Undisturbed first third :=
  ⟨right.users.trans left.users, right.devices.trans left.devices, right.up.trans left.up,
    right.ids.trans left.ids⟩

omit [Libraries] in
/-- The users are those of the start, no row has the fingerprint, and drawn ids are new. -/
structure Vacant (start : Backend) (fingerprint : String) (store : Backend) : Prop where
  up : store.databaseUp = true
  users : store.users = start.users
  free : ∀ device ∈ store.devices, device.fingerprint ≠ fingerprint
  userIds : ∀ user ∈ start.users, user.id < store.nextObjectId
  deviceIds : ∀ device ∈ store.devices, device.id < store.nextObjectId

omit [Libraries] in
/-- A fingerprint without a device row leads nowhere. -/
theorem unled_of_free {store : Backend}
    (free : ∀ device ∈ store.devices, device.fingerprint ≠ fingerprint) (device : Device)
    (user : User) : ¬LeadsTo store fingerprint device user :=
  fun leads => free device (fetch_some_mem leads.1) (fetch_some_key leads.1)

omit [Libraries] in
/-- A vacant fingerprint stays vacant while users, devices and the database stay as they are. -/
theorem Vacant.of_undisturbed {start store later : Backend}
    (vacant : Vacant start fingerprint store)
    (moved : Undisturbed store later) : Vacant start fingerprint later := by
  refine ⟨moved.up.trans vacant.up, moved.users.trans vacant.users, ?_, ?_, ?_⟩
  · rw [moved.devices]
    exact vacant.free
  · rw [moved.ids]
    exact vacant.userIds
  · rw [moved.devices, moved.ids]
    exact vacant.deviceIds

omit [Libraries] in
/-- Drawing an object id does not occupy the fingerprint. -/
theorem Vacant.draw {start store : Backend} (vacant : Vacant start fingerprint store) :
    Vacant start fingerprint { store with nextObjectId := store.nextObjectId + 1 } :=
  ⟨vacant.up, vacant.users, vacant.free,
    fun user member => Nat.lt_succ_of_lt (vacant.userIds user member),
    fun device member => Nat.lt_succ_of_lt (vacant.deviceIds device member)⟩

omit [Libraries] in
/-- Past its lookup, and the fingerprint still leads nowhere. -/
def Registering (fingerprint : String) (program : Handler Answer) (store : Backend) : Prop :=
  program.pending ≠ some (.findDevice fingerprint) ∧
    ∀ device user, ¬LeadsTo store fingerprint device user

/-- About to return the account it has added. -/
def HasRegistered (start : Backend) (fingerprint : String) (program : Handler Answer)
    (store : Backend) : Prop :=
  ∃ result id, program = .ret (.autoreg result) ∧ result.id = Libraries.toHexString id ∧
    Registered start fingerprint id store

/-- Left alone, the program adds an account that the fingerprint leads to. -/
abbrev Registers (start : Backend) (fingerprint : String) (program : Handler Answer)
    (store : Backend) : Prop :=
  program.Until Backend.exec Undisturbed (Registering fingerprint)
    (HasRegistered start fingerprint) store

/-- A call other than the lookup, which registers whatever state it is carried out in. -/
theorem Registers.of_call {start store : Backend} {command : Command}
    {next : Reply command → Handler Answer} (other : command ≠ .findDevice fingerprint)
    (unled : ∀ device user, ¬LeadsTo store fingerprint device user)
    (goes : ∀ later, Undisturbed store later → Registers start fingerprint
      (next (Backend.exec command later).2) (Backend.exec command later).1) :
    Registers start fingerprint (.call command next) store :=
  .inr ⟨⟨fun waits => other (Option.some.inj waits), unled⟩, goes⟩

omit [Libraries] in
/-- A new user, and a row that leads to it. -/
theorem registered_of_added {start store : Backend} {payload : AutoregPayload}
    {userId deviceId : ObjectId} {createdAt : Millis} {rows : List Device}
    (up : store.databaseUp = true)
    (users : store.users = start.users ++ [autoregUser userId createdAt])
    (devices : store.devices = rows ++ [autoregDevice payload deviceId userId createdAt])
    (newUser : fetch User.id userId start.users = none)
    (unseen : fetch Device.fingerprint payload.fingerprint rows = none) :
    Registered start payload.fingerprint userId store := by
  refine ⟨up, autoregUser userId createdAt, autoregDevice payload deviceId userId createdAt, rfl,
    users, ?_, rfl, ?_, rfl⟩
  · rw [devices, fetch_append_of_none unseen]
    exact fetch_singleton
  · change fetch User.id userId store.users = _
    rw [users, fetch_append_of_none newUser]
    exact fetch_singleton

/-- The two writes of a registration, in either order: the user, and the row that leads to
it once the user is there. -/
theorem writeAutoreg_registers {start store : Backend} {payload : AutoregPayload}
    {userId deviceId : ObjectId} {createdAt at_ : Millis} {result : AutoregResult}
    (vacant : Vacant start payload.fingerprint store)
    (newUser : fetch User.id userId start.users = none)
    (newDevice : fetch Device.id deviceId store.devices = none)
    (named : result.id = Libraries.toHexString userId) :
    Registers start payload.fingerprint
      (writeAll at_ (autoregWrites (autoregUser userId createdAt)
        (autoregDevice payload deviceId userId createdAt)) >>= fun _ =>
          .ret (.autoreg result)) store := by
  have unseen : fetch Device.fingerprint payload.fingerprint store.devices = none :=
    fetch_eq_none.mpr vacant.free
  have insertsUser : ∀ later : Backend, later.databaseUp = true → later.users = start.users →
      later.Applies (.insertUser (autoregUser userId createdAt)) :=
    fun later up users => ⟨up, violation_insertAutoreg.mpr (users ▸ newUser)⟩
  have insertsDevice : ∀ later : Backend, later.databaseUp = true →
      later.devices = store.devices →
      later.Applies (.insertDevice (autoregDevice payload deviceId userId createdAt)) :=
    fun later up devices => ⟨up, violation_insertDevice.mpr (devices ▸ ⟨newDevice, unseen⟩)⟩
  unfold autoregWrites
  split
  · rw [writeAll_cons_bind]
    refine .of_call (fun same => by cases same) (unled_of_free vacant.free) fun storing moved => ?_
    have up := moved.up.trans vacant.up
    have users := moved.users.trans vacant.users
    rw [Backend.exec_write_of_applies (insertsDevice storing up moved.devices)]
    simp only [ofReply_ok, Program.ret_bind]
    rw [writeAll_cons_bind]
    -- the row is there, but not the user it points to
    refine .of_call (fun same => by cases same) (fun device user leads => ?_)
      fun last further => ?_
    · obtain ⟨seen, _, linked, _⟩ := leads
      change fetch _ _ (storing.devices ++ [_]) = _ at seen
      rw [moved.devices, fetch_append_of_none unseen] at seen
      have row : fetch Device.fingerprint payload.fingerprint
          [autoregDevice payload deviceId userId createdAt] = some _ := fetch_singleton
      cases row.symm.trans seen
      change fetch User.id userId storing.users = _ at linked
      rw [users, newUser] at linked
      cases linked
    · have before := further.users.trans users
      rw [Backend.exec_write_of_applies (insertsUser last (further.up.trans up) before)]
      have rows : last.devices =
          store.devices ++ [autoregDevice payload deviceId userId createdAt] :=
        further.devices.trans (congrArg (· ++ [_]) moved.devices)
      exact ⟨result, userId, rfl, named, registered_of_added (further.up.trans up)
        (congrArg (· ++ [_]) before) rows newUser unseen⟩
  · rw [writeAll_cons_bind]
    refine .of_call (fun same => by cases same) (unled_of_free vacant.free) fun storing moved => ?_
    have up := moved.up.trans vacant.up
    have users := moved.users.trans vacant.users
    rw [Backend.exec_write_of_applies (insertsUser storing up users)]
    simp only [ofReply_ok, Program.ret_bind]
    rw [writeAll_cons_bind]
    refine .of_call (fun same => by cases same)
      (unled_of_free (vacant.of_undisturbed moved).free) fun last further => ?_
    have before := further.devices.trans moved.devices
    rw [Backend.exec_write_of_applies (insertsDevice last (further.up.trans up) before)]
    have added : last.users = start.users ++ [autoregUser userId createdAt] :=
      further.users.trans (congrArg (· ++ [_]) users)
    exact ⟨result, userId, rfl, named, registered_of_added (further.up.trans up) added
      (congrArg (· ++ [_]) before) newUser unseen⟩

/-- With the fingerprint vacant, the creating half of a registration adds the account and
its device, in either order of the two inserts. -/
theorem createFreshAutoreg_registers {start store : Backend} {payload : AutoregPayload}
    (vacant : Vacant start payload.fingerprint store) :
    Registers start payload.fingerprint
      (createFreshAutoreg payload >>= fun result => .ret (.autoreg result)) store := by
  simp only [createFreshAutoreg, newObjectId, now, await, Program.perform_bind,
    Program.call_bind, Program.bind_assoc, Program.pure_eq, Program.ret_bind, flush_bind]
  refine .of_call (fun same => by cases same) (unled_of_free vacant.free) fun first moved => ?_
  replace vacant := vacant.of_undisturbed moved
  have newUser : fetch User.id first.nextObjectId start.users = none :=
    fetch_eq_none.mpr fun user member => Nat.ne_of_lt (vacant.userIds user member)
  replace vacant := vacant.draw
  refine .of_call (fun same => by cases same) (unled_of_free vacant.free) fun second moved => ?_
  replace vacant := vacant.of_undisturbed moved
  have newDevice : fetch Device.id second.nextObjectId second.devices = none :=
    fetch_eq_none.mpr fun device member => Nat.ne_of_lt (vacant.deviceIds device member)
  replace vacant := vacant.draw
  refine .of_call (fun same => by cases same) (unled_of_free vacant.free) fun created moved => ?_
  have same := moved.devices
  replace vacant := vacant.of_undisturbed moved
  refine .of_call (fun same => by cases same) (unled_of_free vacant.free) fun flushing moved => ?_
  replace same := moved.devices.trans same
  exact writeAutoreg_registers (vacant.of_undisturbed moved) newUser (same ▸ newDevice) rfl

/-- With the one row of the fingerprint removed first, since its user is gone, the rest
registers as if it had been vacant. -/
theorem replaceDevice_registers {start store : Backend} {payload : AutoregPayload}
    {existing : Device} (up : store.databaseUp = true) (users : store.users = start.users)
    (fingerprints : (store.devices.map Device.fingerprint).Nodup)
    (userIds : ∀ user ∈ start.users, user.id < store.nextObjectId)
    (deviceIds : ∀ device ∈ store.devices, device.id < store.nextObjectId)
    (seen : fetch Device.fingerprint payload.fingerprint store.devices = some existing)
    (unled : ∀ later, Undisturbed store later → ∀ device user,
      ¬LeadsTo later payload.fingerprint device user) :
    Registers start payload.fingerprint
      ((nativeDeleteDevices (.byId existing.id) >>= fun _ => createFreshAutoreg payload) >>=
        fun result => .ret (.autoreg result)) store := by
  simp only [nativeDeleteDevices, await, Program.bind_assoc, Program.perform_bind]
  refine .of_call (fun same => by cases same) (unled store (.refl store)) fun later moved => ?_
  have deletes : Backend.exec (.deleteDevices (.byId existing.id)) later = ({ later with
      devices := later.devices.filter fun device =>
        !(DeviceFilter.byId existing.id).accepts device }, .ok ()) := by
    simp only [Backend.exec, moved.up.trans up, ↓reduceIte]
  rw [deletes]
  have kept : ∀ device ∈ later.devices.filter fun device =>
      !(DeviceFilter.byId existing.id).accepts device,
      device ∈ store.devices ∧ device.id ≠ existing.id := by
    intro device member
    obtain ⟨inside, differ⟩ := List.mem_filter.mp member
    simp only [DeviceFilter.accepts, Bool.not_eq_true', decide_eq_false_iff_not] at differ
    exact ⟨moved.devices ▸ inside, differ⟩
  apply createFreshAutoreg_registers
  refine ⟨moved.up.trans up, moved.users.trans users, ?_, ?_, ?_⟩
  · intro device member named
    have same : device = existing := List.inj_on_of_nodup_map fingerprints (kept device member).1
      (fetch_some_mem seen) (named.trans (fetch_some_key seen).symm)
    exact (kept device member).2 (congrArg Device.id same)
  · rw [moved.ids]
    exact userIds
  · intro device member
    rw [moved.ids]
    exact deviceIds device (kept device member).1

/-- A registration begins with its lookup and, answered that there is no account, adds
one. -/
theorem createAutoregUser_registers {start : Backend} {payload : AutoregPayload}
    (unregistered : Unregistered start payload.fingerprint) :
    ∃ next, UsersController.handle (.createAutoregUser payload) =
        .call (.findDevice payload.fingerprint) next ∧
      ∀ store, Undisturbed start store → Registers start payload.fingerprint
        (next (Backend.exec (.findDevice payload.fingerprint) store).2) store := by
  simp only [UsersController.handle, UsersController.createAutoregUser,
    if_neg unregistered.present, UsersService.createAutoregUser, findDevice, await,
    Program.bind_assoc, Program.perform_bind, Program.call_bind]
  refine ⟨_, rfl, fun store moved => ?_⟩
  have up := moved.up.trans unregistered.up
  have unled : ∀ {later}, Undisturbed store later → ∀ device user,
      ¬LeadsTo later payload.fingerprint device user := by
    intro later onward device user leads
    exact unregistered.unled device user (leads.of_eq (moved.users.symm.trans onward.users.symm)
      (moved.devices.symm.trans onward.devices.symm))
  have userIds : ∀ user ∈ start.users, user.id < store.nextObjectId := by
    rw [moved.ids]
    exact unregistered.users
  have deviceIds : ∀ device ∈ store.devices, device.id < store.nextObjectId := by
    rw [moved.devices, moved.ids]
    exact unregistered.devices
  rw [Backend.exec, Backend.answer, up]
  simp only [↓reduceIte, ofReply_ok, Program.ret_bind]
  cases seen : fetch Device.fingerprint payload.fingerprint store.devices with
  | none =>
      exact createFreshAutoreg_registers
        ⟨up, moved.users, fetch_eq_none.mp seen, userIds, deviceIds⟩
  | some existing =>
      have unblocked := unregistered.unblocked existing (moved.devices ▸ seen)
      simp only [unblocked, Bool.false_eq_true, ↓reduceIte, findUser, await, Program.bind_assoc,
        Program.perform_bind, Program.call_bind]
      refine .of_call (fun same => by cases same) (unled (.refl _)) fun read further => ?_
      rw [Backend.exec, Backend.answer, further.up.trans up]
      simp only [↓reduceIte, ofReply_ok, Program.ret_bind]
      have replaces : Registers start payload.fingerprint
          ((nativeDeleteDevices (.byId existing.id) >>= fun _ => createFreshAutoreg payload) >>=
            fun result => .ret (.autoreg result)) read := by
        refine replaceDevice_registers (further.up.trans up) (further.users.trans moved.users)
          ?_ ?_ ?_ (further.devices.symm ▸ seen) fun last onward => unled (further.trans onward)
        · rw [further.devices, moved.devices]
          exact unregistered.indexed.fingerprints
        · rw [further.ids]
          exact userIds
        · rw [further.devices, further.ids]
          exact deviceIds
      cases found : read.users.find? (UserFilter.byId existing.userId).accepts with
      | none => exact replaces
      | some linked =>
          have upgraded : linked.accountType ≠ .autoreg := fun anonymous =>
            unled further existing linked ⟨further.devices.symm ▸ seen, unblocked, found, anonymous⟩
          simp only [upgraded, ne_eq, not_false_eq_true, ↓reduceIte]
          exact replaces

/-! ## Any number of registrations -/

/-- The thread is a registration that has not looked yet. -/
def Waits (fingerprint : String)
    (thread : Thread UserOperation Command Reply ServiceError Answer) : Prop :=
  ∃ payload : AutoregPayload, payload.fingerprint = fingerprint ∧
    thread = ⟨.createAutoregUser payload,
      .running (UsersController.handle (.createAutoregUser payload))⟩

/-- Where a run of registrations stands: nobody has looked; one of them is past its
lookup and, left alone, adds the account; or there is an account. -/
inductive Phase (start : Backend) (fingerprint : String) (pool : ServicePool) : Prop
  | waiting : Undisturbed start pool.shared → (∀ thread ∈ pool.threads, Waits fingerprint thread) →
      Phase start fingerprint pool
  | inside {index : Nat} {thread : Thread UserOperation Command Reply ServiceError Answer}
      {command : Command} {next : Reply command → Handler Answer} :
      pool.threads[index]? = some thread → thread.status = .running (.call command next) →
      Registering fingerprint (.call command next) pool.shared →
      (∀ later, Undisturbed pool.shared later → Registers start fingerprint
        (next (Backend.exec command later).2) (Backend.exec command later).1) →
      (∀ place other, place ≠ index → pool.threads[place]? = some other →
        Waits fingerprint other) → Phase start fingerprint pool
  | registered {id : ObjectId} : userService.Sound (registry start fingerprint id)
      (fun _ _ _ _ => True) (fun _ => AnswersWith id) pool → Phase start fingerprint pool

section Phase

variable {start : Backend} {pool : ServicePool}

/-- A registration that still waits for its lookup answers with the registered user, from
any store in which the fingerprint is registered by then. -/
theorem Waits.always {thread : Thread UserOperation Command Reply ServiceError Answer}
    (waits : Waits fingerprint thread) (present : fingerprint ≠ "") (id : ObjectId)
    (store : Backend) : thread.status.Always Backend.exec (registry start fingerprint id)
      (fun _ _ _ => True) (AnswersWith id) store := by
  obtain ⟨payload, rfl, rfl⟩ := waits
  exact createAutoregUser_registered present store

/-- A waiting registration of an unregistered fingerprint is at its device lookup. -/
theorem Waits.pending {thread : Thread UserOperation Command Reply ServiceError Answer}
    (waits : Waits fingerprint thread) (unregistered : Unregistered start fingerprint) :
    thread.pending = some (.findDevice fingerprint) := by
  obtain ⟨payload, rfl, rfl⟩ := waits
  obtain ⟨next, begins, _⟩ := createAutoregUser_registers unregistered
  rw [Thread.pending, begins]
  rfl

/-- When one registration is under way and every other one waits, the pool is either inside
that one's writes or past them. -/
theorem Phase.of_registers {index : Nat}
    {thread : Thread UserOperation Command Reply ServiceError Answer} {program : Handler Answer}
    (named : fingerprint ≠ "") (present : pool.threads[index]? = some thread)
    (running : thread.status = .running program)
    (registers : Registers start fingerprint program pool.shared)
    (others : ∀ place other, place ≠ index → pool.threads[place]? = some other →
      Waits fingerprint other) : Phase start fingerprint pool := by
  rcases registers.cases with ⟨result, id, rfl, answers, registered⟩ |
    ⟨command, next, rfl, registering, rest⟩
  · refine .registered ⟨registered, fun other member => ?_⟩
    obtain ⟨place, found⟩ := List.mem_iff_getElem?.mp member
    by_cases same : place = index
    · subst same
      cases present.symm.trans found
      rw [running]
      exact fun _ _ _ => ⟨result, rfl, answers⟩
    · exact (others place other same found).always named id pool.shared
  · exact .inside present running registering rest others

omit [Libraries] in
/-- Every operation of such a run is a registration with the fingerprint. -/
theorem spawned_of_registrations {operation : UserOperation}
    (registrations : Registrations fingerprint (.spawn operation)) :
    ∃ payload, operation = .createAutoregUser payload ∧ payload.fingerprint = fingerprint := by
  cases operation with
  | createAutoregUser payload => exact ⟨payload, rfl, eq_of_beq registrations⟩
  | _ => cases registrations

omit [Libraries] in
/-- What the environment does in such a run leaves the users, the devices and the database
alone. -/
theorem undisturbed_of_registrations {event : Backend.Event}
    (registrations : Registrations fingerprint (.environment event)) (store : Backend) :
    Undisturbed store (Backend.environment event store) := by
  cases event with
  | database up => cases registrations
  | _ => exact ⟨rfl, rfl, rfl, rfl⟩

/-- Runs of registrations respect the registry of their fingerprint: what the environment
does in them touches neither users nor devices. -/
theorem registrations_respects {id : ObjectId} :
    userService.Respects (registry start fingerprint id)
      (fun label _ => Registrations fingerprint label) where
  permits _ _ _ := trivial
  environment {event pool} registrations kept := by
    have same := undisturbed_of_registrations registrations pool.shared
    exact ⟨kept.of_eq same.users same.devices same.up, trivial⟩

/-- While nobody has looked, a step is the first lookup, a new registration or one of the
environment. -/
theorem Phase.next_of_waiting (unregistered : Unregistered start fingerprint)
    {label : ServiceLabel} (rests : Undisturbed start pool.shared)
    (waits : ∀ thread ∈ pool.threads, Waits fingerprint thread)
    (registrations : Registrations fingerprint label) :
    Phase start fingerprint (userService.next label pool) := by
  cases label with
  | spawn operation =>
      obtain ⟨payload, rfl, named⟩ := spawned_of_registrations registrations
      refine .waiting rests (List.forall_mem_append.mpr ⟨waits, fun thread added => ?_⟩)
      rw [List.mem_singleton.mp added]
      exact ⟨payload, named, rfl⟩
  | step index =>
      cases found : pool.threads[index]? with
      | none =>
          rw [System.next_step_of_none found]
          exact .waiting rests waits
      | some thread =>
          obtain ⟨payload, rfl, rfl⟩ := waits thread (List.mem_of_getElem? found)
          obtain ⟨next, begins, registers⟩ := createAutoregUser_registers unregistered
          obtain ⟨shared, present⟩ := next_call found (congrArg Status.running begins)
          have same : (userService.next (.step index) pool).shared = pool.shared := shared
          refine .of_registers unregistered.present present rfl ?_
            fun place other differ found' => ?_
          · rw [same]
            exact registers pool.shared rests
          · rw [System.next_step_of_get found, List.getElem?_set_ne differ.symm] at found'
            exact waits other (List.mem_of_getElem? found')
  | crash index => cases registrations
  | environment event =>
      exact .waiting (rests.trans (undisturbed_of_registrations registrations pool.shared)) waits

/-- While one registration is past its lookup, no other one may look, so its writes meet the
store that it has read. -/
theorem Phase.next_of_inside (unregistered : Unregistered start fingerprint)
    {label : ServiceLabel} {index : Nat}
    {thread : Thread UserOperation Command Reply ServiceError Answer} {command : Command}
    {next : Reply command → Handler Answer} (present : pool.threads[index]? = some thread)
    (running : thread.status = .running (.call command next))
    (registering : Registering fingerprint (.call command next) pool.shared)
    (rest : ∀ later, Undisturbed pool.shared later → Registers start fingerprint
      (next (Backend.exec command later).2) (Backend.exec command later).1)
    (others : ∀ place other, place ≠ index → pool.threads[place]? = some other →
      Waits fingerprint other)
    (registrations : Registrations fingerprint label)
    (alone : OneAtATime fingerprint label pool) :
    Phase start fingerprint (userService.next label pool) := by
  cases label with
  | spawn operation =>
      obtain ⟨payload, rfl, named⟩ := spawned_of_registrations registrations
      have still : (pool.threads ++ [⟨.createAutoregUser payload,
          .running (UsersController.handle (.createAutoregUser payload))⟩])[index]? =
          some thread := by
        rw [List.getElem?_append_left (List.getElem?_eq_some_iff.mp present).1]
        exact present
      refine .inside still running registering rest fun place other differ found => ?_
      rcases System.get_next found with ⟨old, _⟩ | ⟨_, spawned, _, rfl⟩ |
        ⟨_, _, ⟨stepped, _⟩ | ⟨crashed, _⟩⟩
      · exact others place other differ old
      · cases spawned
        exact ⟨payload, named, rfl⟩
      · exact nomatch stepped
      · exact nomatch crashed
  | step place =>
      by_cases same : place = index
      · subst same
        obtain ⟨shared, stepped⟩ := next_call present running
        refine .of_registers unregistered.present stepped rfl ?_ fun place' other differ found => ?_
        · rw [shared]
          exact rest pool.shared (.refl _)
        · rw [System.next_step_of_get present, List.getElem?_set_ne differ.symm] at found
          exact others place' other differ found
      · cases found : pool.threads[place]? with
        | none =>
            rw [System.next_step_of_none found]
            exact .inside present running registering rest others
        | some other =>
            have looks := (others place other same found).pending unregistered
            rcases alone place other rfl found looks with ⟨device, user, leads⟩ | waiting
            · exact (registering.2 device user leads).elim
            · exact (registering.1
                (waiting thread (List.mem_of_getElem? present) _ running)).elim
  | crash place => cases registrations
  | environment event =>
      have moved := undisturbed_of_registrations registrations pool.shared
      refine .inside present running ⟨registering.1, fun device user leads => ?_⟩
        (fun later onward => rest later (moved.trans onward)) others
      exact registering.2 device user (leads.of_eq moved.users.symm moved.devices.symm)

/-- The scheduler keeps a run of registrations in one of these phases, as long as they
look one at a time. -/
theorem Phase.next (unregistered : Unregistered start fingerprint) {label : ServiceLabel}
    (phase : Phase start fingerprint pool) (registrations : Registrations fingerprint label)
    (alone : OneAtATime fingerprint label pool) :
    Phase start fingerprint (userService.next label pool) := by
  cases phase with
  | waiting rests waits => exact .next_of_waiting unregistered rests waits registrations
  | inside present running registering rest others =>
      exact .next_of_inside unregistered present running registering rest others registrations alone
  | registered sound =>
      refine .registered (sound.next registrations_respects (fun operation pool spawned _ => ?_)
        registrations).1
      obtain ⟨payload, rfl, rfl⟩ := spawned_of_registrations spawned
      exact createAutoregUser_registered unregistered.present pool.shared

end Phase

/-- Registrations that look one at a time agree on one account, over every
interleaving. -/
theorem sameAccount_of_oneAtATime {start : Backend}
    (unregistered : Unregistered start fingerprint) :
    SameAccount (OneAtATime fingerprint) start fingerprint := by
  intro pool reached
  have initial : Phase start fingerprint ⟨start, []⟩ :=
    .waiting (.refl start) fun _ none => nomatch none
  have phase : Phase start fingerprint pool := by
    refine reached.invariant (Phase start fingerprint) initial fun label pool phase allowed => ?_
    exact phase.next unregistered allowed.1 allowed.2
  intro thread member
  -- before there is an account, every registration is still running
  have runs : ∀ {program : Handler Answer}, thread.status = .running program →
      (∀ error, thread.status ≠ .thrown error) ∧ ∀ answer, thread.status = .returned answer →
        ∃ result user device, answer = .autoreg result ∧ result.id = user.hexId ∧
          pool.shared.users = start.users ++ [user] ∧
          LeadsTo pool.shared fingerprint device user := by
    intro program running
    rw [running]
    exact ⟨fun _ => nofun, fun _ => nofun⟩
  cases phase with
  | waiting rests waits =>
      obtain ⟨payload, _, rfl⟩ := waits thread member
      exact runs rfl
  | @inside index inner _ _ present running _ _ others =>
      obtain ⟨place, found⟩ := List.mem_iff_getElem?.mp member
      by_cases same : place = index
      · subst same
        cases present.symm.trans found
        exact runs running
      · obtain ⟨payload, _, rfl⟩ := others place thread same found
        exact runs rfl
  | registered sound =>
      have settled := sound.threads thread member
      constructor
      · intro error thrown
        rw [thrown] at settled
        obtain ⟨_, failed, _⟩ := settled pool.shared trivial sound.keeps
        cases failed
      · intro answer returned
        rw [returned] at settled
        obtain ⟨result, answered, named⟩ := settled pool.shared trivial sound.keeps
        cases answered
        obtain ⟨user, device, rfl, added, leads⟩ := sound.keeps.account
        exact ⟨result, user, device, rfl, named, added, leads⟩

end Law

/-! ## Two registrations at once -/

section Overlap

/-- Two registrations of one device, both of which look it up before either stores
anything. -/
def overlappingRegistrations : List ServiceLabel :=
  [.spawn (.createAutoregUser { fingerprint := "f" }),
    .spawn (.createAutoregUser { fingerprint := "f" }), .step 0, .step 1] ++
    List.replicate 7 (.step 0) ++ List.replicate 7 (.step 1)

/-- In the empty store the fingerprint is unregistered. -/
theorem unregistered_empty : Unregistered {} "f" where
  up := rfl
  present := by decide
  indexed := .empty
  users _ none := nomatch none
  devices _ none := nomatch none
  unblocked _ none := nomatch none
  unled _ _ leads := nomatch leads.1

section Successive

open scoped Plain

/-- The second registration looks the device up after the first has run to its end. -/
def successiveRegistrations : List ServiceLabel :=
  [.spawn (.createAutoregUser { fingerprint := "f" }),
    .spawn (.createAutoregUser { fingerprint := "f" })] ++
    List.replicate 8 (.step 0) ++ List.replicate 5 (.step 1)

/-- At the first lookup the other registration has not looked, and at the second the
fingerprint leads to the account. -/
theorem successiveRegistrations_oneAtATime :
    userService.Admits (fun label pool => Registrations "f" label ∧ OneAtATime "f" label pool)
      successiveRegistrations ⟨{}, []⟩ := by
  have registrations : userService.Admits (fun label _ => Registrations "f" label = true)
    successiveRegistrations ⟨{}, []⟩ := by decide
  have twice : ∀ position < 15, (userService.performed ⟨{}, []⟩ successiveRegistrations
      position).all fun done => match done.2.2 with
        | .findDevice _ => decide (position = 2 ∨ position = 10)
        | _ => true := by decide
  refine System.admits_of_forall fun position label here => ⟨registrations.allowed here, ?_⟩
  rintro index thread rfl present pending
  have performs : userService.PerformsAt ⟨{}, []⟩ successiveRegistrations position index thread
    (.findDevice "f") := ⟨here, present, pending⟩
  have looked := twice position performs.lt_length
  rw [performs.performed] at looked
  rcases of_decide_eq_true looked with rfl | rfl
  · refine .inr fun other member program running => ?_
    obtain rfl : other = ⟨.createAutoregUser { fingerprint := "f" },
        .running (UsersController.handle (.createAutoregUser { fingerprint := "f" }))⟩ := by
      rcases List.mem_pair.mp member with rfl | rfl <;> rfl
    cases running
    rfl
  · exact .inl ⟨_, _, rfl, rfl, rfl, rfl⟩

/-- The premises are met by two registrations with one fingerprint, one after the other:
both are answered with the one account there is. -/
theorem sameAccount_from_empty :
    ∃ first second user,
      (userService.schedule ⟨{}, []⟩ successiveRegistrations).shared.users = [user] ∧
      (userService.schedule ⟨{}, []⟩ successiveRegistrations).threads.map (·.status) =
        [.returned (.autoreg first), .returned (.autoreg second)] ∧
      first.id = user.hexId ∧ second.id = user.hexId := by
  have same := sameAccount_of_oneAtATime unregistered_empty _
    (.of_admits successiveRegistrations_oneAtATime)
  have returned : ∃ one two first second,
      (userService.schedule ⟨{}, []⟩ successiveRegistrations).threads =
        [⟨one, .returned (.autoreg first)⟩, ⟨two, .returned (.autoreg second)⟩] :=
    ⟨_, _, _, _, rfl⟩
  obtain ⟨one, two, first, second, threads⟩ := returned
  rw [threads, List.forall_mem_cons, List.forall_mem_singleton] at same
  obtain ⟨_, user, _, ⟨⟩, firstId, users, _⟩ := same.1.2 _ rfl
  obtain ⟨_, other, _, ⟨⟩, secondId, others, _⟩ := same.2.2 _ rfl
  obtain rfl : user = other := List.singleton_inj.mp (users.symm.trans others)
  exact ⟨first, second, user, users, by rw [threads]; rfl, firstId, secondId⟩

end Successive

/-- Whichever document is written first, the second registration fails: the index on the
fingerprint refuses its device row. -/
theorem not_sameAccount_of_overlap :
    ¬@SameAccount (plainLibraries true true) (fun _ _ => True) {} "f" ∧
      ¬@SameAccount (plainLibraries true false) (fun _ _ => True) {} "f" := by
  constructor
  · intro same
    have reached := (@System.Reaches.of_admits _ _ _ _ _ _ _
      (@userService (plainLibraries true true)) (fun label _ => Registrations "f" label ∧ True)
      ⟨{}, []⟩ overlappingRegistrations (by decide))
    exact (same _ reached _ (List.mem_of_getElem? (i := 1) rfl)).1 _ rfl
  · intro same
    have reached := (@System.Reaches.of_admits _ _ _ _ _ _ _
      (@userService (plainLibraries true false)) (fun label _ => Registrations "f" label ∧ True)
      ⟨{}, []⟩ overlappingRegistrations (by decide))
    exact (same _ reached _ (List.mem_of_getElem? (i := 1) rfl)).1 _ rfl

end Overlap

end NestMonorepo
