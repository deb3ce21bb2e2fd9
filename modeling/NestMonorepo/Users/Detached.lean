import NestMonorepo.Users.DrawnIds
import NestMonorepo.Users.Revocation

/-! # Upgraded accounts are out of a fingerprint's reach

Once the flush of an upgrade is applied, the account is a full one for good. A
registration that looks at its linked user later turns away from it, and goes on
to an account the store has not seen yet; the rest of the upgrade only deletes
rows that point to the upgraded account.
-/

namespace NestMonorepo

open Collections Concurrency Handler UsersService

/-- The user is stored as a full account. -/
def Upgraded (store : Backend) (id : ObjectId) : Prop :=
  ∃ user ∈ store.users, user.id = id ∧ user.accountType = .user

section Law

variable [Libraries]

/-- The next step of a thread is the read of the linked user in a registration. -/
def ReadsLinkedUser (pool : ServicePool) (index : Nat) : Prop :=
  ∃ thread payload filter, pool.threads[index]? = some thread ∧
    thread.operation = .createAutoregUser payload ∧ thread.pending = some (.findUser filter)

/-- The next step of a thread stores a device row. -/
def InsertsDevice (pool : ServicePool) (index : Nat) (device : Device) : Prop :=
  ∃ thread at_, pool.threads[index]? = some thread ∧
    thread.pending = some (.write (.insertDevice device) at_)

/-- Over any interleaving, crashes included: a registration that reads its linked
user after the flush of an upgrade answers with another account, and the row it
stores outlasts the rest of the upgrade. -/
def UpgradeDetaches (start : Backend) : Prop :=
  ∀ flushing upgrade userId payload id,
    userService.Reaches (fun _ _ => True) ⟨start, []⟩ flushing →
    Completes flushing upgrade (.upgradeAccount userId payload) id →
    ∀ reading registration,
      userService.Reaches (fun _ _ => True) (userService.next (.step upgrade) flushing) reading →
      ReadsLinkedUser reading registration →
      ∀ finish, userService.Reaches (fun _ _ => True)
          (userService.next (.step registration) reading) finish →
        (∀ thread result, finish.threads[registration]? = some thread →
          thread.status = .returned (.autoreg result) → result.id ≠ Libraries.toHexString id) ∧
        ∀ device, InsertsDevice finish registration device → ∀ later,
          userService.Reaches (fun _ _ => True)
            (userService.next (.step registration) finish) later →
          ∀ row ∈ later.shared.devices, row.userId = device.userId →
            row ∈ (userService.next (.step upgrade) later).shared.devices

/-! ## Full accounts stay full -/

/-- Full accounts are never removed and never become anonymous again. -/
def accounts : ServiceContract where
  rely := Carried fun before after => before.accountType = .user → after.accountType = .user
  refl _ := .of_users_eq (fun _ full => full) rfl
  trans := Carried.trans fun first second full => second (first full)
  keeps := DistinctIds
  permitted _ _ := True

section Updates

variable {contract : ServiceContract} {operation : UserOperation} {read : Backend}
  {id : ObjectId} {changes : UserChanges} {after : Option Command}

/-- No handler makes an account anonymous. -/
theorem WriteOf.accountType_ne_autoreg
    (issues : WriteOf contract operation read (.updateUser id changes) after) :
    changes.accountType ≠ some .autoreg := by
  have kept : ∀ kind : AccountType, changed kind kind ≠ some .autoreg := by
    intro kind
    rw [changed_self]
    exact nofun
  cases issues with
  | @upgrade _ _ _ _ loaded =>
      change changed loaded.accountType .user ≠ some .autoreg
      unfold changed
      split <;> exact nofun
  | _ => exact kept _

/-- An account that is anonymous after a flush was so before it, and the flush does not touch
its type. -/
theorem WriteOf.untyped (issues : WriteOf contract operation read (.updateUser id changes) after)
    {user : User} {at_ : Millis} (anonymous : (user.apply changes at_).accountType = .autoreg) :
    changes.accountType = none ∧ user.accountType = .autoreg := by
  change changes.accountType.getD user.accountType = .autoreg at anonymous
  cases kind : changes.accountType with
  | none => exact ⟨rfl, by rwa [kind] at anonymous⟩
  | some value =>
      rw [kind] at anonymous
      exact (issues.accountType_ne_autoreg (kind.trans (congrArg some anonymous))).elim

/-- An upgrade makes its account a full one. -/
theorem WriteOf.accountType_of_upgrade {userId : String} {payload : UpgradePayload}
    (issues : WriteOf contract (.upgradeAccount userId payload) read (.updateUser id changes)
      after) : changes.accountType = some .user := by
  cases issues with
  | upgrade upgradedAt _ _ _ anonymous =>
      refine changed_of_ne ?_
      rw [anonymous]
      exact nofun

end Updates

/-- Full accounts are a tame contract: no grounded write makes a stored account anonymous
again. -/
theorem accounts_tame : Tame accounts := by
  apply Tame.of_carried (fun _ full => full) Iff.rfl Iff.rfl
  intro operation read store id changes after at_ issues _ _ user _ _ full
  change changes.accountType.getD user.accountType = .user
  cases kind : changes.accountType with
  | none => exact full
  | some value =>
      cases value with
      | user => rfl
      | autoreg => exact (issues.accountType_ne_autoreg kind).elim

/-- Every run respects the contract of full accounts, as the environment leaves the users
alone. -/
theorem accounts_respects : userService.Respects accounts fun _ _ => True :=
  respects_of_carried (fun _ full => full) Iff.rfl Iff.rfl fun _ _ _ => trivial

omit [Libraries] in
/-- A full account stays one while the others step. -/
theorem Upgraded.of_rely {store later : Backend} {id : ObjectId} (upgraded : Upgraded store id)
    (moved : accounts.rely store later) : Upgraded later id := by
  obtain ⟨user, member, same, full⟩ := upgraded
  obtain ⟨version, present, equal, still⟩ := moved user member
  exact ⟨version, present, equal.trans same, still full⟩

/-- The same contract, where moreover no stored user carries an id yet to be drawn. -/
def drawnAccounts : ServiceContract :=
  { accounts with
    keeps := fun store => DistinctIds store ∧ ∀ user ∈ store.users, user.id < store.nextObjectId }

section Origin

variable {origin : Backend} {pool : ServicePool}

/-- Wherever a run leads, every handler is grounded. -/
theorem accounts_sound (kept : drawnAccounts.keeps origin)
    (reached : userService.Reaches (fun _ _ => True) ⟨origin, []⟩ pool) :
    ServiceSound accounts pool :=
  ((ServiceSound.initial kept.1).reaches accounts_tame accounts_respects reached).1

/-- In every state of a run the ids are distinct, and no stored user has an id that is still
to be drawn. -/
theorem drawnAccounts_keeps (kept : drawnAccounts.keeps origin)
    (reached : userService.Reaches (fun _ _ => True) ⟨origin, []⟩ pool) :
    drawnAccounts.keeps pool.shared :=
  ⟨(accounts_sound kept reached).keeps, ids_drawn kept.2 reached⟩

/-- Every step of a run stays within the contract. -/
theorem drawnAccounts_stays (kept : drawnAccounts.keeps origin)
    (reached : userService.Reaches (fun _ _ => True) ⟨origin, []⟩ pool) (label : ServiceLabel) :
    drawnAccounts.keeps pool.shared ∧ drawnAccounts.keeps (userService.next label pool).shared ∧
      drawnAccounts.rely pool.shared (userService.next label pool).shared :=
  ⟨drawnAccounts_keeps kept reached, drawnAccounts_keeps kept (reached.step label trivial),
    ((accounts_sound kept reached).next accounts_respects
      (fun operation _ _ _ => handle_valid accounts_tame operation) trivial).2⟩

end Origin

/-! ## A registration after the upgrade -/

section Registration

variable {id : ObjectId} {store : Backend}

omit [Libraries] in
/-- A device row about to be stored points to another account. -/
def RowElsewhere (id : ObjectId) : CallAssertion Command Reply ServiceError Answer Backend
  | .write (.insertDevice device) _, _, _ => device.userId ≠ id
  | _, _, _ => True

/-- The account handed out is another one. -/
def AnsweredElsewhere (id : ObjectId) : Except ServiceError Answer → Backend → Prop
  | .ok (.autoreg result), _ => result.id ≠ Libraries.toHexString id
  | _, _ => True

/-- Whatever runs in between, the program stays away from the account. -/
def Avoids (id : ObjectId) (program : Handler Answer) (store : Backend) : Prop :=
  program.Always Backend.exec (drawnAccounts.kept Backend.exec) (RowElsewhere id)
    (AnsweredElsewhere id) store

/-- A failing handler stays away from every account. -/
theorem avoids_fail (error : ServiceError) : Avoids id (.fail error) store :=
  fun _ _ _ => trivial

/-- The rest of a registration after a command that stores no row. -/
theorem avoids_await {command : Command} {next : Reply command → Handler Answer}
    (upgraded : Upgraded store id)
    (rowless : ∀ later, RowElsewhere id command next later)
    (rest : ∀ reply later, Upgraded later id → Avoids id (next reply) later) :
    Avoids id (.call command next) store := by
  apply Program.Always.call_kept
  exact fun later moved _ => ⟨rowless later, fun _ stepped =>
    rest _ _ (upgraded.of_rely (accounts.trans moved stepped))⟩

/-- A document write of a registration and what follows once it is stored stay away from the
account, where the row is another's. -/
theorem avoids_write {write : Write} {at_ : Millis} {rest : List Write}
    {next : Unit → Handler Answer} (upgraded : Upgraded store id)
    (elsewhere : ∀ device, write = .insertDevice device → device.userId ≠ id)
    (accepted : ∀ later, Upgraded later id → later.violation write = none →
      Upgraded (later.stored at_ write) id →
        Avoids id (writeAll at_ rest >>= next) (later.stored at_ write)) :
    Avoids id (writeAll at_ (write :: rest) >>= next) store := by
  rw [writeAll_cons_bind]
  apply Program.Always.call_kept
  intro later moved _
  constructor
  · cases write with
    | insertDevice device => exact elsewhere device rfl
    | _ => trivial
  · intro _ stepped
    have still := upgraded.of_rely moved
    cases up : later.databaseUp with
    | false =>
        simp only [Backend.exec, up, Bool.false_eq_true, ↓reduceIte]
        exact avoids_fail _
    | true =>
        simp only [Backend.exec, up, ↓reduceIte] at stepped ⊢
        cases violated : later.violation write with
        | some error =>
            simp only [Backend.write_of_violation violated]
            exact avoids_fail _
        | none =>
            simp only [Backend.write_of_none violated] at stepped ⊢
            exact accepted later still violated (still.of_rely stepped)

/-- An id drawn now is none of a stored account. -/
theorem avoids_newObjectId {next : ObjectId → Handler Answer} (upgraded : Upgraded store id)
    (rest : ∀ drawn later, drawn ≠ id → Upgraded later id → Avoids id (next drawn) later) :
    Avoids id (.call .newObjectId next) store := by
  apply Program.Always.call_kept
  refine fun later moved kept => ⟨trivial, fun _ stepped => rest _ _ ?_
    (upgraded.of_rely (accounts.trans moved stepped))⟩
  obtain ⟨user, member, rfl, _⟩ := upgraded.of_rely moved
  exact Nat.ne_of_gt (kept.2 user member)

/-- A fresh registration stores and answers an account the store has not seen, whichever
of its two documents is written first. -/
theorem createFreshAutoreg_avoids (payload : AutoregPayload) (upgraded : Upgraded store id) :
    Avoids id (createFreshAutoreg payload >>= fun result => .ret (.autoreg result)) store := by
  simp only [createFreshAutoreg, newObjectId, now, await, Program.perform_bind,
    Program.call_bind, Program.bind_assoc, Program.pure_eq, Program.ret_bind, flush_bind]
  refine avoids_newObjectId upgraded fun userId _ other upgraded => ?_
  refine avoids_await upgraded (fun _ => trivial) fun deviceId _ upgraded => ?_
  refine avoids_await upgraded (fun _ => trivial) fun createdAt _ upgraded => ?_
  refine avoids_await upgraded (fun _ => trivial) fun at_ later upgraded => ?_
  have answered : ∀ later, Avoids id (writeAll at_ [] >>= fun _ => .ret (.autoreg
      ⟨Libraries.toHexString userId, Libraries.toHexString deviceId, 0⟩)) later := by
    intro _ _ _ _ same
    have read := congrArg Libraries.ofHexString same
    rw [Libraries.ofHexString_toHexString, Libraries.ofHexString_toHexString] at read
    exact other (Option.some.inj read)
  have elsewhere : ∀ write ∈ autoregWrites (autoregUser userId createdAt)
      (autoregDevice payload deviceId userId createdAt),
      ∀ device, write = .insertDevice device → device.userId ≠ id := by
    rintro _ member device rfl
    unfold autoregWrites at member
    split at member
    all_goals
      simp only [List.mem_cons, Write.insertDevice.injEq, reduceCtorEq, List.not_mem_nil, or_false,
        false_or] at member
      subst member
      exact other
  generalize autoregWrites (autoregUser userId createdAt)
    (autoregDevice payload deviceId userId createdAt) = writes at elsewhere
  induction writes generalizing later with
  | nil => exact answered later
  | cons write rest ih =>
      refine avoids_write upgraded (elsewhere write List.mem_cons_self) fun last _ _ still => ?_
      exact ih _ still fun other member => elsewhere other (List.mem_cons_of_mem _ member)

omit [Libraries] in
/-- A command other than the read of a user. -/
def Command.ReadsNoUser : Command → Prop
  | .findUser _ => False
  | _ => True

/-- The fresh registration reads no user: it draws its ids and inserts. -/
theorem createFreshAutoreg_only (payload : AutoregPayload) :
    (createFreshAutoreg payload).Only Command.ReadsNoUser := by
  refine .bind (Program.only_perform trivial) fun userId => ?_
  refine .bind (Program.only_perform trivial) fun deviceId => ?_
  refine .bind (Program.only_perform trivial) fun createdAt => ?_
  exact .bind (flush_only trivial fun _ _ _ => trivial) fun _ => trivial

/-- The read of the linked user: the rest stays away from every account that is
upgraded by then. -/
def LinkedRead : CallAssertion Command Reply ServiceError Answer Backend
  | .findUser filter, next, store => ∀ id, Upgraded store id →
      Avoids id (next (Backend.exec (.findUser filter) store).2) store
  | _, _, _ => True

/-- Of a command that reads no user nothing is asserted. -/
theorem linkedRead_of_readsNoUser (command : Command) (next : Reply command → Handler Answer)
    (later : Backend) (calm : command.ReadsNoUser) : LinkedRead command next later := by
  cases command with
  | findUser filter => exact calm.elim
  | _ => trivial

/-- A row that leads nowhere is wiped, and the registration starts afresh. -/
theorem wiped_avoids (payload : AutoregPayload) (existing : Device)
    (upgraded : Upgraded store id) :
    Avoids id (nativeDeleteDevices (.byId existing.id) >>= fun _ =>
      createFreshAutoreg payload >>= fun result => .ret (.autoreg result)) store := by
  simp only [nativeDeleteDevices, await, Program.perform_bind]
  refine avoids_await upgraded (fun _ => trivial) fun reply later upgraded => ?_
  cases reply with
  | ok _ => exact createFreshAutoreg_avoids payload upgraded
  | error _ => exact avoids_fail _

/-- A row of another account is touched, and that account is answered, so the upgraded one
is left alone. -/
theorem seenAgain_avoids (payload : AutoregPayload) (existing : Device) (tokenVersion : Nat)
    (other : existing.userId ≠ id) :
    Avoids id (now >>= fun lastSeenAt =>
      flush (existing.update (seenAgain existing payload lastSeenAt)) >>= fun _ =>
        .ret (.autoreg ⟨Libraries.toHexString existing.userId,
          Libraries.toHexString existing.id, tokenVersion⟩)) store := by
  have rowless : ∀ (command : Command) (next : Reply command → Handler Answer) (later : Backend),
      command.SparesDevices ∨ (∃ device changes at_, command = .write (.updateDevice device changes)
        at_) → RowElsewhere id command next later := by
    rintro command next later (spares | ⟨device, changes, at_, rfl⟩)
    · cases command with
      | write write at_ =>
          cases write with
          | insertDevice device => exact spares.elim
          | _ => trivial
      | _ => trivial
    · trivial
  refine Program.Only.always_bind (Program.only_perform (.inl trivial)) rowless
    (fun _ _ => trivial) fun lastSeenAt later _ => ?_
  refine Program.Only.always_bind (flush_only (.inl trivial) fun write member at_ => ?_) rowless
    (fun _ _ => trivial) fun _ last _ => ?_
  · rw [Device.mem_update member]
    exact .inr ⟨_, _, _, rfl⟩
  · intro _ _ _ same
    have read := congrArg Libraries.ofHexString same
    rw [Libraries.ofHexString_toHexString, Libraries.ofHexString_toHexString] at read
    exact other (Option.some.inj read)

/-- The judgement of a registration before it reads its linked user; what it does after that
read depends on whether the user was upgraded. -/
theorem createAutoregUser_judged (payload : AutoregPayload) :
    (UsersController.handle (.createAutoregUser payload)).Always Backend.exec
      (drawnAccounts.kept Backend.exec) LinkedRead (fun _ _ => True) store := by
  have calm : ∀ {program : Handler Answer} {later : Backend},
      program.Only Command.ReadsNoUser → program.Always Backend.exec
        (drawnAccounts.kept Backend.exec)
        LinkedRead (fun _ _ => True) later := fun only =>
    only.always linkedRead_of_readsNoUser fun _ _ => trivial
  have fresh : (createFreshAutoreg payload >>= fun result =>
      (.ret (.autoreg result) : Handler Answer)).Only Command.ReadsNoUser :=
    (createFreshAutoreg_only payload).bind fun _ => trivial
  change ((UsersController.createAutoregUser payload >>= fun result => .ret (.autoreg result)) :
    Handler Answer).Always _ _ _ _ _
  unfold UsersController.createAutoregUser
  split
  · exact fun _ _ _ => trivial
  simp only [UsersService.createAutoregUser, Program.bind_assoc]
  refine Program.Only.always_bind (findDevice_only trivial) linkedRead_of_readsNoUser
    (fun _ _ => trivial) fun found first _ => ?_
  cases found with
  | none => exact calm fresh
  | some existing =>
      simp only
      split
      · exact calm trivial
      simp only [findUser, await, Program.bind_assoc, Program.perform_bind]
      apply Program.Always.call_kept
      intro reading _ distinct
      refine ⟨fun id upgraded => ?_, fun _ _ => calm ?_⟩
      · change Avoids id (ofReply (reading.answer (reading.users.find?
          (UserFilter.byId existing.userId).accepts)) >>= _) reading
        unfold Backend.answer
        split
        swap
        · exact avoids_fail _
        simp only [ofReply_ok, Program.ret_bind]
        cases found : reading.users.find? (UserFilter.byId existing.userId).accepts with
        | none =>
            simp only [Program.bind_assoc]
            exact wiped_avoids payload existing upgraded
        | some linkedUser =>
            simp only
            split
            · simp only [Program.bind_assoc]
              exact wiped_avoids payload existing upgraded
            · rename_i anonymous
              simp only [ne_eq, Decidable.not_not] at anonymous
              simp only [Program.bind_assoc, Program.pure_eq, Program.ret_bind]
              apply seenAgain_avoids
              rintro rfl
              obtain ⟨user, member, same, full⟩ := upgraded
              have accepted : (UserFilter.byId existing.userId).accepts linkedUser = true :=
                List.find?_some found
              rw [DistinctIds.unique distinct.1 member (List.mem_of_find?_eq_some found)
                (same.trans (of_decide_eq_true accepted).symm), anonymous] at full
              cases full
      · have wipes : (nativeDeleteDevices (.byId existing.id) >>= fun _ =>
            createFreshAutoreg payload >>= fun result =>
              (.ret (.autoreg result) : Handler Answer)).Only Command.ReadsNoUser :=
          .bind (nativeDeleteDevices_only trivial) fun _ => fresh
        refine .bind (Program.only_ofExcept _) fun linked => ?_
        cases linked with
        | none =>
            simp only [Program.bind_assoc]
            exact wipes
        | some linkedUser =>
            simp only
            split
            · simp only [Program.bind_assoc]
              exact wipes
            · refine .bind (.bind (Program.only_perform trivial) fun lastSeenAt => ?_)
                fun _ => trivial
              refine .bind (flush_only trivial fun _ _ _ => trivial) fun _ => trivial

end Registration

/-! ## The rest of the upgrade -/

section Upgrade

variable {store : Backend}

omit [Libraries] in
/-- A flush of a user: whatever it answers, what follows only deletes the device
rows of that user. -/
def WipesAfter : CallAssertion Command Reply ServiceError Answer Backend
  | .write (.updateUser id _) _, next, _ =>
      ∀ reply, (next reply).Only fun command => command = .deleteDevices (.byUserId id)
  | _, _, _ => True

omit [Libraries] in
/-- Nor of one that writes nothing. -/
theorem wipesAfter_of_writesNothing (command : Command) (next : Reply command → Handler Answer)
    (later : Backend) (calm : command.WritesNothing) : WipesAfter command next later := by
  cases command with
  | write write at_ => exact calm.elim
  | _ => trivial

/-- The flush of an upgrade, in front of what only deletes the user's rows. -/
theorem flushEmail_wipes {id : ObjectId} {changes : UserChanges} {next : Millis → Handler Answer}
    (rest : ∀ at_, (next at_).Only fun command => command = .deleteDevices (.byUserId id)) :
    (flushEmail [.updateUser id changes] >>= next).Always Backend.exec
      (drawnAccounts.kept Backend.exec) WipesAfter (fun _ _ => True) store := by
  simp only [flushEmail, flush, now, await, writeAll, Program.perform_bind, Program.call_bind,
    Program.bind_assoc, Program.pure_eq, Program.ret_bind, Program.attempt_call]
  apply Program.Always.call_kept
  refine fun timed _ _ => ⟨trivial, fun _ _ => ?_⟩
  apply Program.Always.call_kept
  intro flushing _ _
  suffices wipes : WipesAfter (.write (.updateUser id changes) _) _ flushing from
    ⟨wipes, fun _ _ => (wipes _).always (fun command _ _ same => by cases same; trivial)
      fun _ _ => trivial⟩
  intro reply
  cases reply with
  | ok _ => exact rest _
  | error error =>
      simp only [ofReply_error, Program.fail_bind, Program.attempt_fail, Program.ret_bind]
      split <;> trivial

/-- The judgement of an upgrade: up to its flush it writes nothing, and after it only the
rows of its own user go. -/
theorem upgradeAccount_judged (userId : String) (payload : UpgradePayload) :
    (UsersController.handle (.upgradeAccount userId payload)).Always Backend.exec
      (drawnAccounts.kept Backend.exec) WipesAfter (fun _ _ => True) store := by
  have calm : ∀ {program : Handler Answer} {later : Backend},
      program.Only Command.WritesNothing → program.Always Backend.exec
        (drawnAccounts.kept Backend.exec) WipesAfter (fun _ _ => True) later := fun only =>
    only.always wipesAfter_of_writesNothing fun _ _ => trivial
  change ((UsersService.upgradeAccount userId payload >>= fun user => .ret (.upgraded user)) :
    Handler Answer).Always _ _ _ _ _
  simp only [UsersService.upgradeAccount, Program.bind_assoc]
  refine Program.Only.always_bind (findById_only (fun _ => trivial) userId)
    wipesAfter_of_writesNothing (fun _ _ => trivial) fun user first _ => ?_
  split
  · exact calm trivial
  simp only [Program.bind_assoc]
  refine Program.Only.always_bind (upgradeCredentials_only userId user payload)
    wipesAfter_of_writesNothing (fun _ _ => trivial) fun current second _ => ?_
  refine Program.Only.always_bind (Program.only_perform trivial) wipesAfter_of_writesNothing
    (fun _ _ => trivial) fun upgradedAt third _ => ?_
  have wipes : ∀ at_, (nativeDeleteDevices (.byUserId user.id) >>= fun _ =>
      (.ret (.upgraded { upgraded current payload upgradedAt with updatedAt := at_ }) :
        Handler Answer)).Only fun command => command = .deleteDevices (.byUserId user.id) :=
    fun at_ => .bind (nativeDeleteDevices_only rfl) fun _ => trivial
  rw [User.update]
  split
  · have silent : (flushEmail []).Only Command.WritesNothing :=
      flushEmail_only trivial fun _ none => (List.not_mem_nil none).elim
    apply calm
    apply silent.bind
    intro at_
    refine (wipes at_).mono fun command same => ?_
    rw [same]
    trivial
  · exact flushEmail_wipes wipes

end Upgrade

/-! ## Whole runs -/

/-- What is asserted of each handler's commands. -/
def detaching : UserOperation → CallAssertion Command Reply ServiceError Answer Backend
  | .createAutoregUser _ => LinkedRead
  | .upgradeAccount _ _ => WipesAfter
  | _ => fun _ _ _ => True

/-- In every handler the asserted commands are as asserted: a registration that has read an
upgraded user stays away from it, and an upgrade deletes the rows of its own user only. -/
theorem handle_judged (operation : UserOperation) (store : Backend) :
    (UsersController.handle operation).Always Backend.exec (drawnAccounts.kept Backend.exec)
      (detaching operation) (fun _ _ => True) store := by
  cases operation with
  | createAutoregUser payload => exact createAutoregUser_judged payload
  | upgradeAccount userId payload => exact upgradeAccount_judged userId payload
  | _ => exact (Program.only_true _).always (fun _ _ _ _ => trivial) fun _ _ => trivial

section Run

variable {start finish : ServicePool} {index : Nat}
  {thread : Thread UserOperation Command Reply ServiceError Answer}

/-- Every thread of every run is judged where it stands. -/
theorem judged_reached {origin : Backend} (kept : drawnAccounts.keeps origin)
    (reached : userService.Reaches (fun _ _ => True) ⟨origin, []⟩ finish)
    (present : finish.threads[index]? = some thread) :
    thread.status.Always Backend.exec (drawnAccounts.kept Backend.exec)
      (detaching thread.operation) (fun _ _ => True) finish.shared := by
  refine reached.judged detaching (fun _ _ _ => True) (fun _ => True)
    (fun label pool toPool _ => drawnAccounts_stays kept toPool label)
    (fun _ _ _ none => ?_) (fun operation pool _ _ => handle_judged operation pool.shared)
    index thread trivial present
  exact nomatch none

/-- A thread stays in its own judgement, whatever the others do between its steps. -/
theorem judged_at {origin : Backend} (kept : drawnAccounts.keeps origin)
    (begun : userService.Reaches (fun _ _ => True) ⟨origin, []⟩ start)
    {atCall : CallAssertion Command Reply ServiceError Answer Backend}
    {post : Except ServiceError Answer → Backend → Prop}
    (present : start.threads[index]? = some thread)
    (judged : thread.status.Always Backend.exec (drawnAccounts.kept Backend.exec) atCall post
      start.shared)
    (reached : userService.Reaches (fun _ _ => True) start finish) :
    ∀ other, finish.threads[index]? = some other →
      other.status.Always Backend.exec (drawnAccounts.kept Backend.exec) atCall post
        finish.shared := by
  intro other found
  refine reached.judged (fun _ => atCall) (fun _ => post) (· = index)
    (fun label pool toPool _ => drawnAccounts_stays kept (begun.trans toPool) label) ?_ ?_ index
    other rfl found
  · rintro _ thread' rfl present'
    cases present.symm.trans present'
    exact judged
  · intro operation pool toPool same
    have bound := (List.getElem?_eq_some_iff.mp present).1
    have longer := toPool.length_threads
    omega

/-- A step of a thread that only wipes one user's rows leaves all other rows. -/
theorem mem_devices_of_wipes {id : ObjectId} (present : start.threads[index]? = some thread)
    (wipes : ∀ command next, thread.status = .running (.call command next) →
      command = .deleteDevices (.byUserId id)) {row : Device}
    (member : row ∈ start.shared.devices) (other : row.userId ≠ id) :
    row ∈ (userService.next (.step index) start).shared.devices := by
  rcases System.next_step_cases _ present with
    ⟨_, status, same⟩ | ⟨command, next, running, same⟩
  · rw [same]
    exact member
  · obtain rfl := wipes command next running
    rw [same]
    change row ∈ (Backend.exec (.deleteDevices (.byUserId id)) start.shared).1.devices
    simp only [Backend.exec]
    split
    · apply List.mem_filter.mpr ⟨member, _⟩
      rw [DeviceFilter.accepts, Bool.not_eq_true', decide_eq_false_iff_not]
      exact other
    · exact member

/-- The flush of an upgrade leaves a full account. -/
theorem Completes.upgraded {userId : String} {payload : UpgradePayload} {id : ObjectId}
    (sound : ServiceSound accounts start)
    (completes : Completes start index (.upgradeAccount userId payload) id) :
    Upgraded (userService.next (.step index) start).shared id := by
  obtain ⟨thread, changes, at_, next, present, operated, running, applies⟩ := completes
  obtain ⟨read, relied, _, issues⟩ := sound.grounded (List.mem_of_getElem? present) running
  obtain ⟨loaded, member, same⟩ := issues.target
  obtain ⟨stored, inside, equal, _⟩ := relied loaded member
  rw [next_write present running applies]
  refine ⟨stored.apply changes at_, mem_modifyAt_of_eq inside (equal.trans same),
    equal.trans same, ?_⟩
  rw [operated] at issues
  change changes.accountType.getD stored.accountType = .user
  rw [issues.accountType_of_upgrade, Option.getD_some]

end Run

/-- No crash and no overlap brings a registration back to an account whose upgrade
has been flushed, from any store whose ids are distinct and were drawn. -/
theorem upgradeDetaches (start : Backend) (distinct : DistinctIds start)
    (ids : ∀ user ∈ start.users, user.id < start.nextObjectId) : UpgradeDetaches start := by
  intro flushing upgrade userId payload id reached completes reading registration continued reads
    finish ended
  have kept : drawnAccounts.keeps start := ⟨distinct, ids⟩
  have flushed := reached.step (.step upgrade) trivial
  have toReading := flushed.trans continued
  have toFinish := (toReading.step (.step registration) trivial).trans ended
  -- the account is a full one when the registration reads it
  have full : Upgraded reading.shared id :=
    (completes.upgraded (accounts_sound kept reached)).of_rely
      ((accounts_sound kept flushed).reaches accounts_tame accounts_respects continued).2
  obtain ⟨reader, payload', filter, present, operated, pending⟩ := reads
  obtain ⟨next, running⟩ := Thread.running_of_pending pending
  have judged := judged_reached kept toReading present
  rw [operated, running] at judged
  have avoids : Avoids id (next (Backend.exec (.findUser filter) reading.shared).2)
      reading.shared := (judged _ (accounts.refl _) (drawnAccounts_keeps kept toReading)).1 id full
  obtain ⟨after, inside⟩ := next_call present running
  have away := judged_at kept (toReading.step _ trivial) inside (by rw [after]; exact avoids) ended
  constructor
  · intro thread result found returned
    have settled := away thread found
    rw [returned] at settled
    exact settled _ (accounts.refl _) (drawnAccounts_keeps kept toFinish)
  · intro device ⟨thread, at_, found, inserting⟩ later inserted row member owned
    obtain ⟨rest, storing⟩ := Thread.running_of_pending inserting
    have elsewhere := away thread found
    rw [storing] at elsewhere
    have other : device.userId ≠ id :=
      (elsewhere _ (accounts.refl _) (drawnAccounts_keeps kept toFinish)).1
    -- from its flush on, the upgrade performs nothing but its wipe
    obtain ⟨flusher, changes, at_, follows, there, operated, flushes, _⟩ := completes
    have wiping := judged_reached kept reached there
    rw [operated, flushes] at wiping
    have wipes := (wiping _ (accounts.refl _) (drawnAccounts_keeps kept reached)).1
    obtain ⟨_, resumed⟩ := next_call there flushes
    have toLater := (continued.step (.step registration) trivial).trans
      (ended.trans ((System.Reaches.refl.step (.step registration) trivial).trans inserted))
    have resting : (follows (Backend.exec _ flushing.shared).2).Always Backend.exec
        (drawnAccounts.kept Backend.exec)
        (fun command _ _ => command = .deleteDevices (.byUserId id))
        (fun _ _ => True) (userService.next (.step upgrade) flushing).shared :=
      (wipes _).always (fun _ _ _ same => same) fun _ _ => trivial
    have only := judged_at kept flushed resumed resting toLater
    cases last : later.threads[upgrade]? with
    | none =>
        rw [System.next_step_of_none last]
        exact member
    | some thread =>
        refine mem_devices_of_wipes last (fun command next running => ?_) member
          (by rw [owned]; exact other)
        have now := only thread last
        rw [running] at now
        exact (now _ (accounts.refl _) (drawnAccounts_keeps kept (flushed.trans toLater))).1

end Law

section Start

open scoped Plain

/-- An anonymous account, and its upgrade by a provider identity up to its flush. -/
def flushingUpgrade : ServicePool :=
  userService.schedule ⟨{}, []⟩
    ([.spawn (.createAutoregUser { fingerprint := "f" })] ++ List.replicate 8 (.step 0) ++
      [.spawn (.upgradeAccount (ObjectIds.toHexString 0)
        { method := .oauth .google, providerUserId := some "g" })] ++ List.replicate 5 (.step 1))

/-- The flush is applied, and a second registration of the device looks its account up. -/
def readingUpgraded : ServicePool :=
  userService.schedule (userService.next (.step 1) flushingUpgrade)
    [.spawn (.createAutoregUser { fingerprint := "f" }), .step 2]

/-- The second registration has run to its end. -/
def registeredAnew : ServicePool :=
  userService.schedule (userService.next (.step 2) readingUpgraded) (List.replicate 9 (.step 2))

/-- Every run of the service detaches its upgraded accounts; in this one the second
registration meets the row that still points to the upgraded account, and answers
another. -/
theorem upgradeDetaches_from_empty :
    Completes flushingUpgrade 1 (.upgradeAccount (ObjectIds.toHexString 0)
      { method := .oauth .google, providerUserId := some "g" }) 0 ∧
    ReadsLinkedUser readingUpgraded 2 ∧ ∃ thread result,
      registeredAnew.threads[2]? = some thread ∧ thread.status = .returned (.autoreg result) ∧
      result.id ≠ ObjectIds.toHexString 0 := by
  have completes : Completes flushingUpgrade 1 (.upgradeAccount (ObjectIds.toHexString 0)
      { method := .oauth .google, providerUserId := some "g" }) 0 :=
    ⟨_, _, _, _, rfl, rfl, rfl, by decide⟩
  have reads : ReadsLinkedUser readingUpgraded 2 := ⟨_, _, _, rfl, rfl, rfl⟩
  refine ⟨completes, reads, _, _, rfl, rfl, ?_⟩
  exact (upgradeDetaches {} List.nodup_nil (fun _ none => nomatch none) flushingUpgrade 1 _ _ 0
    (.of_schedule _) completes readingUpgraded 2 (.of_schedule _) reads registeredAnew
    (.of_schedule _)).1 _ _ rfl rfl

end Start

end NestMonorepo
