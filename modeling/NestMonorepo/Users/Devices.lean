import NestMonorepo.Users.Purge
import NestMonorepo.Users.Records

/-! # What becomes of the device rows

Only anonymous registration, upgrade and the purge task touch device rows; every
other handler performs no command that could. The unique indexes hold in every
store the service leaves, and the ids in it are older than the next one drawn.
-/

namespace NestMonorepo

open Collections Concurrency Handler UsersService

section Law

variable [Libraries] {store : Backend} {α : Type}

/-! ## Handlers that leave device rows alone -/

omit [Libraries] in
/-- The command neither writes nor deletes a device row. -/
def Command.SparesDevices : Command → Prop
  | .write (.insertDevice _) _ => False
  | .write (.updateDevice _ _) _ => False
  | .deleteDevices _ => False
  | _ => True

/-- A command that spares the devices leaves all of them as they are. -/
theorem Command.SparesDevices.frame {command : Command} (spares : command.SparesDevices)
    (store : Backend) : (Backend.exec command store).1.devices = store.devices := by
  have effect := Backend.exec_effect command store
  generalize (Backend.exec command store).1 = after at effect ⊢
  cases effect with
  | @stored write =>
      cases write with
      | insertDevice device => exact spares.elim
      | updateDevice id changes => exact spares.elim
      | _ => rfl
  | deletedDevices => exact spares.elim
  | _ => rfl

/-- A handler that leaves the device rows alone, whatever it is answered. -/
abbrev Handler.SparesDevices (program : Handler α) : Prop := program.Only Command.SparesDevices

/-! ### Handlers that insert no account either -/

omit [Libraries] in
/-- The command inserts no user and touches no device row. -/
def Command.Calm : Command → Prop
  | .write (.insertUser _) _ => False
  | .write (.insertDevice _) _ => False
  | .write (.updateDevice _ _) _ => False
  | .deleteDevices _ => False
  | _ => True

omit [Libraries] in
/-- A calm command spares the devices, as it touches no device row. -/
theorem Command.Calm.spares {command : Command} (calm : command.Calm) :
    command.SparesDevices := by
  unfold Command.SparesDevices
  split
  · exact calm
  · exact calm
  · exact calm
  · trivial

omit [Libraries] in
/-- The update of a user is calm: it inserts no user and touches no device row. -/
theorem User.update_calm (loaded current : User) :
    ∀ write ∈ loaded.update current, ∀ at_, (Command.write write at_).Calm := by
  intro write member at_
  rw [User.mem_update member]
  trivial

omit [Libraries] in
/-- So is the update of an outbox event. -/
theorem OutboxEvent.update_calm (loaded current : OutboxEvent) :
    ∀ write ∈ loaded.update current, ∀ at_, (Command.write write at_).Calm := by
  intro write member at_
  rw [OutboxEvent.mem_update member]
  trivial

/-- A request for a reset link performs calm commands only. -/
theorem forgotPassword_calm (email : String) :
    (UsersService.forgotPassword email).Only Command.Calm := by
  refine .bind (findUser_only trivial) fun found => ?_
  cases found with
  | none => trivial
  | some user =>
      refine .bind (Program.only_perform trivial) fun token => ?_
      refine .bind (Program.only_perform trivial) fun requestedAt => ?_
      refine .bind (flush_only trivial (User.update_calm _ _)) fun _ => ?_
      exact .bind (Program.only_perform trivial) fun _ => trivial

/-- A password reset performs calm commands only. -/
theorem resetPassword_calm (token newPassword : String) :
    (UsersService.resetPassword token newPassword).Only Command.Calm := by
  refine .bind (findUser_only trivial) fun found => ?_
  cases found with
  | none => trivial
  | some user =>
      refine .bind (Program.only_perform trivial) fun presentedAt => ?_
      split
      · trivial
      · refine .bind (hashPassword_only trivial) fun passwordHash => ?_
        exact .bind (flush_only trivial (User.update_calm _ _)) fun _ => trivial

omit [Libraries] in
/-- Staging an event performs a lookup, so it is calm where the rest is, with calm writes to
be flushed. -/
theorem stageOutboxEvent_calm (params : StageOutboxParams) {next : StageOutboxResult → Handler α}
    (rest : ∀ staged, (∀ write ∈ staged.writes, ∀ at_, (Command.write write at_).Calm) →
      (next staged).Only Command.Calm) : (stageOutboxEvent params >>= next).Only Command.Calm := by
  rw [stageOutboxEvent, Program.bind_assoc]
  refine .bind (findOutboxEvent_only trivial) fun found => ?_
  cases found with
  | some existing =>
      simp only
      split
      · exact rest _ (OutboxEvent.update_calm _ _)
      · exact rest _ fun _ none => (List.not_mem_nil none).elim
  | none =>
      refine ⟨trivial, fun id => ⟨trivial, fun createdAt => rest _ fun write member at_ => ?_⟩⟩
      rw [List.mem_singleton.mp member]
      trivial

/-- A deletion performs calm commands only: it rewrites the user and stages the event. -/
theorem deleteUser_calm (userId : String) : (UsersService.deleteUser userId).Only Command.Calm := by
  refine .bind (findById_only (fun _ => trivial) userId) fun user => ?_
  refine .bind (Program.only_perform trivial) fun deletedAt => ?_
  refine stageOutboxEvent_calm _ fun staged calm => .bind (flush_only trivial ?_) fun _ => trivial
  split
  · exact List.forall_mem_append.mpr ⟨calm, User.update_calm _ _⟩
  · exact List.forall_mem_append.mpr ⟨User.update_calm _ _, calm⟩

omit [Libraries] in
/-- Dispatching the rows of a sweep performs calm commands only, and so do the writes it
leaves for the flush. -/
theorem dispatch_calm (rows : List OutboxEvent) (tally : OutboxDispatcher.SweepResult)
    {next : List Write × OutboxDispatcher.SweepResult → Handler α}
    (rest : ∀ writes result, (∀ write ∈ writes, ∀ at_, (Command.write write at_).Calm) →
      (next (writes, result)).Only Command.Calm) :
    (OutboxDispatcher.dispatch rows tally >>= next).Only Command.Calm := by
  induction rows generalizing tally next with
  | nil => exact rest _ _ fun _ none => nomatch none
  | cons row rows ih =>
      refine ⟨trivial, fun outcome => ⟨trivial, fun at_ => ?_⟩⟩
      change Program.Only Command.Calm ((OutboxDispatcher.dispatch rows _ >>= _) >>= next)
      rw [Program.bind_assoc]
      refine ih _ fun writes result calm => rest _ _ ?_
      exact List.forall_mem_append.mpr ⟨OutboxEvent.update_calm _ _, calm⟩

omit [Libraries] in
/-- A sweep of the outbox performs calm commands only. -/
theorem sweep_calm : OutboxDispatcher.sweep.Only Command.Calm := by
  refine .bind (Program.only_perform trivial) fun begun => ?_
  split
  · refine .bind (.attempt ?_) fun outcome =>
      .bind (Program.only_perform trivial) fun _ => Program.only_ofExcept _
    refine .bind (.bind (Program.only_perform trivial) fun _ => Program.only_ofExcept _)
      fun pending => ?_
    split
    · trivial
    · refine dispatch_calm pending _ fun writes result calm => ?_
      refine .bind (flush_only trivial calm) fun _ => ?_
      refine .bind (.bind (Program.only_perform trivial) fun _ => Program.only_ofExcept _)
        fun _ => ?_
      exact .bind (.bind (Program.only_perform trivial) fun _ => Program.only_ofExcept _)
        fun _ => trivial
  · trivial

/-- The messages whose handlers do neither. -/
def UserOperation.Calm : UserOperation → Prop
  | .createAutoregUser _ => False
  | .upgradeAccount _ _ => False
  | .findOrCreateOAuthUser _ => False
  | _ => True

/-- The operations listed as calm perform calm commands only. -/
theorem handle_calm {operation : UserOperation} (calm : operation.Calm) :
    (UsersController.handle operation).Only Command.Calm := by
  cases operation with
  | createAutoregUser payload => exact calm.elim
  | upgradeAccount userId payload => exact calm.elim
  | findOrCreateOAuthUser payload => exact calm.elim
  | login email password =>
      refine .bind (.bind (findUser_only trivial) fun found => ?_) fun _ => trivial
      cases found with
      | none => trivial
      | some user =>
          simp only
          split <;> trivial
  | forgotPassword email => exact .bind (forgotPassword_calm email) fun _ => trivial
  | resetPassword token newPassword =>
      exact .bind (resetPassword_calm token newPassword) fun _ => trivial
  | getUserById userId => exact .bind (findById_only (fun _ => trivial) userId) fun _ => trivial
  | getUserTokenVersion userId =>
      exact .bind (.bind (findById_only (fun _ => trivial) userId) fun _ => trivial)
        fun _ => trivial
  | updateUser userId data =>
      refine .bind (.bind (findById_only (fun _ => trivial) userId) fun user => ?_) fun _ => trivial
      exact .bind (flush_only trivial (User.update_calm _ _)) fun _ => trivial
  | deleteUser userId => exact .bind (deleteUser_calm userId) fun _ => trivial
  | sweep => exact .bind sweep_calm fun _ => trivial

/-! ### The sign-in -/

/-- The creation of a provider user inserts a user and no device. -/
theorem createOAuthUser_spares (payload : OAuthPayload) :
    (createOAuthUser payload).SparesDevices := by
  refine .bind (Program.only_perform trivial) fun createdAt => ?_
  refine .bind (Program.only_perform trivial) fun id => ?_
  refine .bind (flushEmail_only trivial fun write member at_ => ?_) fun _ => trivial
  rw [List.mem_singleton.mp member]
  trivial

/-- A provider login spares the devices on every one of its branches. -/
theorem findOrCreateOAuthUser_spares (payload : OAuthPayload) :
    (UsersService.findOrCreateOAuthUser payload).SparesDevices := by
  refine .bind (findUser_only trivial) fun found => ?_
  cases found with
  | some byProvider => trivial
  | none =>
      simp only
      split
      · exact createOAuthUser_spares payload
      · refine .bind (findUser_only trivial) fun owner => ?_
        cases owner with
        | none => exact createOAuthUser_spares payload
        | some byEmail =>
            refine .bind (Program.only_perform trivial) fun linkedAt => ?_
            exact .bind (flush_only trivial fun write member at_ =>
              (User.update_calm _ _ write member at_).spares) fun _ => trivial

/-- The messages whose handlers leave device rows alone. -/
def UserOperation.SparesDevices : UserOperation → Prop
  | .createAutoregUser _ => False
  | .upgradeAccount _ _ => False
  | _ => True

/-- The operations listed as sparing the devices do spare them: only registrations and
upgrades write or delete a device. -/
theorem handle_spares {operation : UserOperation} (spares : operation.SparesDevices) :
    (UsersController.handle operation).SparesDevices := by
  have of_calm : operation.Calm → (UsersController.handle operation).SparesDevices :=
    fun calm => (handle_calm calm).mono fun command => Command.Calm.spares
  cases operation with
  | createAutoregUser payload => exact spares.elim
  | upgradeAccount userId payload => exact spares.elim
  | findOrCreateOAuthUser payload =>
      exact .bind (findOrCreateOAuthUser_spares payload) fun _ => trivial
  | _ => exact of_calm trivial

/-- Such a message leaves the device rows as they are. -/
theorem serve_devices {operation : UserOperation} (spares : operation.SparesDevices)
    (store : Backend) : (serve operation store).1.devices = store.devices :=
  (handle_spares spares).run_relation
    (fun before after : Backend => after.devices = before.devices) (fun _ => rfl)
    (fun first second => second.trans first) (fun _ before permitted => permitted.frame before)
    store

/-! ## Drawn ids -/

/-- Ids are never drawn twice: no effect of a command takes the counter of ids back. -/
theorem runIn_nextObjectId (program : Handler α) (store : Backend) :
    store.nextObjectId ≤ (program.runIn store).1.nextObjectId := by
  refine Program.run_relation Backend.exec
    (fun before after => before.nextObjectId ≤ after.nextObjectId) (fun _ => le_refl _)
    (fun first second => le_trans first second) (fun command before => ?_) program store
  have effect := Backend.exec_effect command before
  generalize (Backend.exec command before).1 = after at effect ⊢
  cases effect with
  | @stored write => cases write <;> exact le_refl _
  | drewId => exact Nat.le_succ _
  | _ => exact le_refl _

/-! ## Unique indexes -/

/-- What the unique indexes of the users and the devices guarantee. -/
structure Indexed (store : Backend) : Prop where
  users : DistinctIds store
  devices : (store.devices.map Device.id).Nodup
  fingerprints : (store.devices.map Device.fingerprint).Nodup

omit [Libraries] in
/-- Two stored devices with one id are the same device. -/
theorem Indexed.unique {first second : Device} (indexed : Indexed store)
    (left : first ∈ store.devices) (right : second ∈ store.devices)
    (same : first.id = second.id) : first = second :=
  List.inj_on_of_nodup_map indexed.devices left right same

omit [Libraries] in
/-- The empty store has distinct ids. -/
theorem Indexed.empty : Indexed {} := ⟨List.nodup_nil, List.nodup_nil, List.nodup_nil⟩

/-- How a registration message may end: turned away, or as the service ends. -/
theorem createAutoregUser_message (payload : AutoregPayload) (store : Backend) :
    (serve (.createAutoregUser payload) store).1 = store ∨
    payload.fingerprint ≠ "" ∧ ∃ outcome,
      AutoregEnds payload store (serve (.createAutoregUser payload) store).1 outcome := by
  have wrapped : (serve (.createAutoregUser payload) store).1 =
      ((UsersController.createAutoregUser payload).runIn store).1 :=
        congrArg Prod.fst (serve_eq rfl)
  rw [wrapped]
  unfold UsersController.createAutoregUser
  split
  · exact .inl rfl
  · rename_i present
    exact .inr ⟨present, _, createAutoregUser_cases store payload⟩

omit [Libraries] in
/-- Clearing a fingerprint keeps the indexes. -/
theorem Cleared.nodup {fingerprint : String} {devices : List Device}
    (cleared : Cleared store fingerprint devices) (indexed : Indexed store) :
    (devices.map Device.id).Nodup ∧ (devices.map Device.fingerprint).Nodup := by
  cases cleared with
  | unseen => exact ⟨indexed.devices, indexed.fingerprints⟩
  | stale =>
      exact ⟨nodup_keys_filter indexed.devices _, nodup_keys_filter indexed.fingerprints _⟩

omit [Libraries] in
/-- A row seen again keeps its id and its fingerprint. -/
theorem touched_keys (device : Device) (payload : AutoregPayload) :
    (touched store device payload).map Device.id = store.devices.map Device.id ∧
      (touched store device payload).map Device.fingerprint =
        store.devices.map Device.fingerprint := by
  unfold touched
  split
  · exact ⟨rfl, rfl⟩
  · refine ⟨modifyAt_keys fun row => Device.apply_id row _ _, ?_⟩
    unfold modifyAt
    rw [List.map_map]
    apply List.map_congr_left
    intro row _
    change Device.fingerprint (if row.id = device.id then _ else row) = row.fingerprint
    split <;> rfl

/-- An upgrade message ends as the service ends. -/
theorem upgradeAccount_message (userId : String) (payload : UpgradePayload) (store : Backend) :
    ∃ outcome, UpgradeEnds userId payload store (serve (.upgradeAccount userId payload) store).1
        outcome ∧
      (serve (.upgradeAccount userId payload) store).2 = outcome.map .upgraded := by
  have wrapped : serve (.upgradeAccount userId payload) store =
      (((UsersService.upgradeAccount userId payload).runIn store).1,
        ((UsersService.upgradeAccount userId payload).runIn store).2.map .upgraded) := serve_eq rfl
  rw [wrapped]
  exact ⟨_, upgradeAccount_cases store userId payload, rfl⟩

/-- Every activity leaves the indexes intact: a refused write changes nothing, and an
accepted one collides with no key. -/
theorem Indexed.apply (indexed : Indexed store) (activity : Activity) :
    Indexed (activity.apply store) := by
  cases activity with
  | purge =>
      rw [Activity.apply, purge_run]
      split
      · exact ⟨nodup_keys_filter indexed.users _, nodup_keys_filter indexed.devices _,
          nodup_keys_filter indexed.fingerprints _⟩
      · exact indexed
  | environment event => cases event <;>
      exact ⟨indexed.users, indexed.devices, indexed.fingerprints⟩
  | message operation =>
      have users : DistinctIds (serve operation store).1 :=
        (serve_ends operation store).nodup indexed.users
      suffices rows : (((serve operation store).1.devices).map Device.id).Nodup ∧
          (((serve operation store).1.devices).map Device.fingerprint).Nodup from
        ⟨users, rows.1, rows.2⟩
      by_cases spares : operation.SparesDevices
      · rw [serve_devices spares]
        exact ⟨indexed.devices, indexed.fingerprints⟩
      cases operation with
      | createAutoregUser payload =>
          rcases createAutoregUser_message payload store with same | ⟨_, outcome, ends⟩
          · rw [same]
            exact ⟨indexed.devices, indexed.fingerprints⟩
          generalize (serve (.createAutoregUser payload) store).1 = after at ends
          cases ends with
          | failed error => exact ⟨indexed.devices, indexed.fingerprints⟩
          | blocked => exact ⟨indexed.devices, indexed.fingerprints⟩
          | seenAgain =>
              change ((touched store _ payload).map Device.id).Nodup ∧
                ((touched store _ payload).map Device.fingerprint).Nodup
              rw [(touched_keys _ payload).1, (touched_keys _ payload).2]
              exact ⟨indexed.devices, indexed.fingerprints⟩
          | refused _ cleared => exact cleared.nodup indexed
          | orphaned _ _ cleared => exact cleared.nodup indexed
          | unowned _ _ cleared _ unused unseen =>
              obtain ⟨ids, fingerprints⟩ := cleared.nodup indexed
              exact ⟨nodup_keys_append ids unused, nodup_keys_append fingerprints unseen⟩
          | created _ cleared _ unused unseen =>
              obtain ⟨ids, fingerprints⟩ := cleared.nodup indexed
              exact ⟨nodup_keys_append ids unused, nodup_keys_append fingerprints unseen⟩
      | upgradeAccount userId payload =>
          obtain ⟨outcome, ends, _⟩ := upgradeAccount_message userId payload store
          generalize (serve (.upgradeAccount userId payload) store).1 = after at ends
          cases ends with
          | failed error => exact ⟨indexed.devices, indexed.fingerprints⟩
          | upgraded =>
              exact ⟨nodup_keys_filter indexed.devices _, nodup_keys_filter indexed.fingerprints _⟩
      | _ => exact (spares trivial).elim

end Law

end NestMonorepo
