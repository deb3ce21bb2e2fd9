import NestMonorepo.Users.Interleaving

/-! # Every handler issues grounded writes

One lemma per operation of the user service: under any tame contract its writes
are grounded, and the accounts it hands out were found as it says.
-/

namespace NestMonorepo

open Collections Concurrency Handler UsersService

variable [Libraries] {contract : ServiceContract} {store : Backend}

/-- A stored user that is as the operation expects is found. -/
theorem found_of_mem {operation : UserOperation} {user : User} (member : user ∈ store.users)
    (entered : Entered operation user) : Found operation store user.hexId user.tokenVersion :=
  ⟨user, member, Libraries.ofHexString_toHexString user.id, rfl, entered⟩

/-- A user that has just been inserted is found. -/
theorem found_stored_insertUser {operation : UserOperation} (store : Backend) (user : User)
    (at_ : Millis) (entered : Entered operation user) :
    Found operation (store.stored at_ (.insertUser user)) user.hexId user.tokenVersion :=
  found_of_mem (List.mem_append_right _ (List.mem_singleton.mpr rfl)) entered

variable (tame : Tame contract)
include tame

/-! ## createAutoregUser -/

/-- The writes of a registration are grounded, and the new account is handed out as it was
inserted. -/
theorem createFreshAutoreg_valid (payload : AutoregPayload) :
    Valid contract (.createAutoregUser payload) (Enters contract (.createAutoregUser payload))
      (createFreshAutoreg payload >>= fun result => .ret (.autoreg result)) store := by
  simp only [createFreshAutoreg, newObjectId, now, await, Program.perform_bind,
    Program.call_bind, Program.bind_assoc, Program.pure_eq, Program.ret_bind, flush_bind]
  refine valid_await tame trivial fun userId _ _ _ => ?_
  refine valid_await tame trivial fun deviceId _ _ _ => ?_
  refine valid_await tame trivial fun createdAt _ _ _ => ?_
  refine valid_await tame trivial fun at_ _ _ kept => ?_
  have found : ∀ later : Backend, Found (.createAutoregUser payload)
      (later.stored at_ (.insertUser (autoregUser userId createdAt)))
      (Libraries.toHexString userId) 0 := fun later =>
    found_stored_insertUser later (autoregUser userId createdAt) at_ rfl
  -- the identity exists from the write of the user on, whatever becomes of the device
  unfold autoregWrites
  split
  · refine valid_write tame (.here kept (.autoregDevice deviceId userId createdAt))
      fun _ _ _ _ keeps _ => ?_
    refine valid_write tame (.here keeps (.autoregUser userId createdAt))
      fun later _ _ _ keeps _ => ?_
    exact valid_ret_of_found _ _ rfl keeps (found later)
  · refine valid_write tame (.here kept (.autoregUser userId createdAt))
      fun later _ _ _ keeps _ => ?_
    refine valid_writeAll tame keeps (fun write member after => ?_) fun last moved _ =>
      (valid_ret_of_found _ _ rfl keeps (found later)).of_rely moved
    rw [List.mem_singleton.mp member]
    exact .here keeps (.autoregDevice deviceId userId createdAt)

/-- The writes of a registration are grounded, and the account handed out was found with its
token version. -/
theorem createAutoregUser_valid (payload : AutoregPayload) :
    Valid contract (.createAutoregUser payload) (Enters contract (.createAutoregUser payload))
      (UsersController.createAutoregUser payload >>= fun result => .ret (.autoreg result))
      store := by
  unfold UsersController.createAutoregUser
  split
  · exact valid_fail _
  · simp only [UsersService.createAutoregUser, Program.bind_assoc]
    refine valid_findDevice tame fun device _ _ _ => ?_
    cases device with
    | none => exact createFreshAutoreg_valid tame payload
    | some existing =>
        simp only
        split
        · exact valid_fail _
        · simp only [Program.bind_assoc]
          refine valid_findUser tame fun later _ kept => ?_
          cases found : later.users.find? (UserFilter.byId existing.userId).accepts with
          | none =>
              simp only [Program.bind_assoc]
              exact valid_nativeDeleteDevices tame fun _ _ _ =>
                createFreshAutoreg_valid tame payload
          | some linkedUser =>
              simp only
              split
              · simp only [Program.bind_assoc]
                exact valid_nativeDeleteDevices tame fun _ _ _ =>
                  createFreshAutoreg_valid tame payload
              · rename_i anonymous
                have accepted : (UserFilter.byId existing.userId).accepts linkedUser = true :=
                  List.find?_some found
                have same : linkedUser.id = existing.userId := of_decide_eq_true accepted
                have linked : Found (.createAutoregUser payload) later
                    (Libraries.toHexString existing.userId) linkedUser.tokenVersion :=
                  ⟨linkedUser, List.mem_of_find?_eq_some found,
                    same ▸ Libraries.ofHexString_toHexString _, rfl, not_not.mp anonymous⟩
                simp only [now, await, Program.perform_bind, Program.call_bind,
                  Program.bind_assoc, Program.pure_eq, Program.ret_bind]
                have handed := valid_ret_of_found (.createAutoregUser payload)
                  (.autoreg ⟨Libraries.toHexString existing.userId,
                    Libraries.toHexString existing.id, linkedUser.tokenVersion⟩) rfl kept linked
                refine valid_await tame trivial fun lastSeenAt middle moved keeps => ?_
                refine valid_flush tame (fun write member after => ?_)
                  fun _ last further _ => handed.of_rely (contract.trans moved further)
                rw [Device.mem_update member]
                exact .here keeps (.seenAgain existing lastSeenAt)

/-! ## login -/

/-- A login writes nothing, and hands out an account as it was read. -/
theorem login_valid (email password : String) :
    Valid contract (.login email password) (Enters contract (.login email password))
      (UsersService.login email password >>= fun result => .ret (.identity result)) store := by
  simp only [UsersService.login, Program.bind_assoc]
  refine valid_findUser tame fun later _ kept => ?_
  cases found : later.users.find? (UserFilter.byEmailLive email).accepts with
  | none => exact valid_fail _
  | some user =>
      simp only
      split
      · exact valid_fail _
      · have accepted := UserFilter.accepts_byEmailLive.mp (List.find?_some found)
        exact valid_ret_of_found _ _ rfl kept
          (found_of_mem (List.mem_of_find?_eq_some found) accepted.1)

/-! ## upgradeAccount -/

/-- The credentials of an upgrade are computed from the payload and the account that was
read, by password or by a provider's link. -/
theorem upgradeCredentials_valid {operation : UserOperation} {post : Answer → Backend → Prop}
    {userId : String} {user : User} {payload : UpgradePayload} {next : User → Handler Answer}
    (rest : ∀ current later, contract.rely store later → contract.keeps later →
      Credentials payload user current → Valid contract operation post (next current) later) :
    Valid contract operation post (upgradeCredentials userId user payload >>= next) store := by
  -- both OAuth branches end in `link`
  have linked : ∀ provider providerUserId before, contract.rely store before →
      payload.method = .oauth provider → truthy payload.providerUserId = some providerUserId →
      Valid contract operation post
        (upgradeCredentials.link user payload provider providerUserId >>= next) before := by
    intro provider providerUserId before reached method identity
    simp only [upgradeCredentials.link, now, await, Program.perform_bind, Program.call_bind,
      Program.pure_eq, Program.ret_bind]
    exact valid_await tame trivial fun linkedAt later moved kept =>
      rest _ later (contract.trans reached moved) kept (.link linkedAt method identity)
  unfold upgradeCredentials
  cases method : payload.method with
  | email =>
      simp only
      split
      · rename_i email password presentEmail presentPassword
        simp only [Program.bind_assoc]
        refine valid_findUser tame fun later moved _ => ?_
        split
        · exact valid_fail _
        · simp only [Program.bind_assoc]
          exact valid_hashPassword tame fun passwordHash last further kept =>
            rest _ last (contract.trans moved further) kept
              (.password passwordHash method presentEmail)
      · exact valid_fail _
  | oauth provider =>
      simp only
      cases identity : truthy payload.providerUserId with
      | none => exact valid_fail _
      | some providerUserId =>
          simp only [Program.bind_assoc]
          refine valid_findUser tame fun later moved _ => ?_
          split
          · split
            · exact valid_fail _
            · exact linked provider providerUserId later moved method identity
          · exact linked provider providerUserId later moved method identity

/-- The flush of an upgrade is grounded in the record that it read, and hands out the
account as the flush left it. -/
theorem upgradeAccount_valid (userId : String) (payload : UpgradePayload) :
    Valid contract (.upgradeAccount userId payload)
      (Enters contract (.upgradeAccount userId payload))
      (UsersService.upgradeAccount userId payload >>= fun user => .ret (.upgraded user))
      store := by
  simp only [UsersService.upgradeAccount, Program.bind_assoc]
  refine valid_findById tame fun user read _ keptRead parsed member live => ?_
  split
  · exact valid_fail _
  · rename_i autoreg
    simp only [ne_eq, Decidable.not_not] at autoreg
    simp only [Program.bind_assoc]
    refine upgradeCredentials_valid tame fun current middle moved _ credentials => ?_
    simp only [now, await, Program.perform_bind, Program.pure_eq, Program.ret_bind]
    refine valid_await tame trivial fun upgradedAt later further _ => ?_
    have bumped : (upgraded current payload upgradedAt).tokenVersion = user.tokenVersion + 1 :=
      congrArg (· + 1) credentials.tokenVersion
    rw [User.update_of_tokenVersion (by omega)]
    have reached := contract.trans moved further
    refine valid_flushEmail tame
      (fun after => ⟨read, reached, keptRead,
        .upgrade upgradedAt member live parsed autoreg credentials⟩)
      fun updatedAt last onward _ _ keeps _ => ?_
    have found : Found (.upgradeAccount userId payload) (last.stored updatedAt (.updateUser user.id
        (user.changes (upgraded current payload upgradedAt)))) userId
        (upgraded current payload upgradedAt).tokenVersion := by
      obtain ⟨old, present, same⟩ := tame.persist (contract.trans reached onward) user member
      refine ⟨old.apply (user.changes (upgraded current payload upgradedAt)) updatedAt,
        mem_modifyAt_of_eq present same, parsed.trans (congrArg some same.symm), ?_, ?_⟩
      · exact User.apply_tokenVersion_of_ne (by omega) old updatedAt
      · change (changed user.accountType .user).getD old.accountType = .user
        rw [autoreg, changed_of_ne (by decide), Option.getD_some]
    refine valid_nativeDeleteDevices tame fun final moved' _ => ?_
    exact (valid_ret_of_found _ (.upgraded _) rfl keeps found).of_rely moved'

/-! ## findOrCreateOAuthUser -/

/-- A new user of a provider login is inserted as it is handed out. -/
theorem createOAuthUser_valid (payload : OAuthPayload) :
    Valid contract (.findOrCreateOAuthUser payload)
      (Enters contract (.findOrCreateOAuthUser payload))
      (createOAuthUser payload >>= fun result => .ret (.identity result)) store := by
  simp only [createOAuthUser, newObjectId, now, await, Program.perform_bind, Program.call_bind,
    Program.bind_assoc, Program.pure_eq, Program.ret_bind]
  refine valid_await tame trivial fun createdAt _ _ _ => ?_
  refine valid_await tame trivial fun id middle _ kept => ?_
  refine valid_flushEmail tame (fun _ => .here kept (.oauthUser id createdAt))
    fun at_ later _ _ _ keeps _ => ?_
  exact valid_ret_of_found _ _ rfl keeps
    (found_stored_insertUser _ (oauthUser payload id createdAt) at_ (.inl rfl))

/-- A provider login keeps to its contract on each branch: the identity is known, an account
is merged with it by email, or one is created. -/
theorem findOrCreateOAuthUser_valid (payload : OAuthPayload) :
    Valid contract (.findOrCreateOAuthUser payload)
      (Enters contract (.findOrCreateOAuthUser payload))
      (UsersService.findOrCreateOAuthUser payload >>= fun result => .ret (.identity result))
      store := by
  simp only [UsersService.findOrCreateOAuthUser, Program.bind_assoc]
  refine valid_findUser tame fun later _ kept => ?_
  cases found : later.users.find?
      (UserFilter.byLinkLive payload.provider payload.providerUserId).accepts with
  | some byProvider =>
      have linked := (UserFilter.accepts_byLinkLive.mp (List.find?_some found)).1
      refine valid_ret_of_found _ _ rfl kept
        (found_of_mem (List.mem_of_find?_eq_some found) (.inr (.inr fun unlinked => ?_)))
      rw [User.hasLink, unlinked] at linked
      cases linked
  | none =>
      simp only
      cases merge : payload.mergeEmail with
      | none => exact createOAuthUser_valid tame payload
      | some email =>
          simp only [Program.bind_assoc]
          refine valid_findUser tame fun read _ keptRead => ?_
          cases owner : read.users.find? (UserFilter.byEmailLive email).accepts with
          | none => exact createOAuthUser_valid tame payload
          | some byEmail =>
              have accepted := UserFilter.accepts_byEmailLive.mp (List.find?_some owner)
              have member := List.mem_of_find?_eq_some owner
              simp only [now, await, Program.perform_bind, Program.call_bind,
                Program.bind_assoc, Program.pure_eq, Program.ret_bind]
              refine valid_await tame trivial fun linkedAt middle moved _ => ?_
              refine valid_flush tame (fun write included after => ?_) fun _ last further _ => ?_
              · rw [User.mem_update included]
                exact ⟨read, moved, keptRead,
                  .merge linkedAt member accepted.2 accepted.1 merge⟩
              · have addressed : byEmail.email ≠ none := by
                  rw [accepted.1]
                  exact Option.some_ne_none email
                have found : Found (.findOrCreateOAuthUser payload) read byEmail.hexId
                    byEmail.tokenVersion := found_of_mem member (.inr (.inl addressed))
                have handed := valid_ret_of_found (.findOrCreateOAuthUser payload)
                  (.identity (merged byEmail payload linkedAt).identity) rfl keptRead found
                exact handed.of_rely (contract.trans moved further)

/-! ## Password reset -/

/-- The write of a reset request is grounded in the record that it read. -/
theorem forgotPassword_valid (email : String) :
    Valid contract (.forgotPassword email) (Enters contract (.forgotPassword email))
      (UsersService.forgotPassword email >>= fun _ => .ret .acknowledged) store := by
  simp only [UsersService.forgotPassword, Program.bind_assoc]
  refine valid_findUser tame fun read _ keptRead => ?_
  cases found : read.users.find? (UserFilter.byEmailLive email).accepts with
  | none => exact valid_ret_of_none rfl
  | some user =>
      have accepted := UserFilter.accepts_byEmailLive.mp (List.find?_some found)
      simp only [now, await, Program.perform_bind, Program.call_bind, Program.bind_assoc,
        Program.pure_eq, Program.ret_bind]
      refine valid_await tame trivial fun token _ first _ => ?_
      refine valid_await tame trivial fun requestedAt _ second _ => ?_
      have moved := contract.trans first second
      refine valid_flush tame (fun write included after => ?_) fun _ _ _ _ => ?_
      · rw [User.mem_update included]
        exact ⟨read, moved, keptRead,
          .resetRequest token requestedAt (List.mem_of_find?_eq_some found) accepted.2 accepted.1⟩
      · exact valid_await tame trivial fun _ _ _ _ => valid_ret_of_none rfl

/-- A reset keeps to its contract: its flush is grounded in the account that the token was
found on. -/
theorem resetPassword_valid (token newPassword : String) :
    Valid contract (.resetPassword token newPassword)
      (Enters contract (.resetPassword token newPassword))
      (UsersService.resetPassword token newPassword >>= fun _ => .ret .acknowledged) store := by
  simp only [UsersService.resetPassword, Program.bind_assoc]
  refine valid_findUser tame fun read _ keptRead => ?_
  cases found : read.users.find? (UserFilter.byResetTokenLive (hashResetToken token)).accepts with
  | none => exact valid_fail _
  | some user =>
      have accepted := UserFilter.accepts_byResetTokenLive.mp (List.find?_some found)
      simp only [now, await, Program.perform_bind, Program.call_bind]
      refine valid_await tame trivial fun presentedAt _ first _ => ?_
      split
      · exact valid_fail _
      · simp only [Program.bind_assoc]
        refine valid_hashPassword tame fun passwordHash _ second _ => ?_
        refine valid_flush tame (fun write included after => ?_) fun _ _ _ _ =>
          valid_ret_of_none rfl
        rw [User.mem_update included]
        exact ⟨read, contract.trans first second, keptRead,
          .reset passwordHash (List.mem_of_find?_eq_some found) accepted.2 accepted.1⟩

/-! ## Profile -/

/-- Reading a profile writes nothing. -/
theorem getUserById_valid (userId : String) :
    Valid contract (.getUserById userId) (Enters contract (.getUserById userId))
      (findById userId >>= fun user => .ret (.dto (toDto user))) store :=
  valid_findById tame fun _ _ _ _ _ _ _ => valid_ret_of_none rfl

/-- Reading the token version writes nothing and hands out the version that was read. -/
theorem getUserTokenVersion_valid (userId : String) :
    Valid contract (.getUserTokenVersion userId) (Enters contract (.getUserTokenVersion userId))
      (UsersController.getUserTokenVersion userId >>= fun tokenVersion =>
        .ret (.tokenVersion tokenVersion)) store := by
  simp only [UsersController.getUserTokenVersion, Program.bind_assoc]
  refine valid_findById tame fun user later _ kept parsed member live => ?_
  exact valid_ret_of_found _ _ rfl kept ⟨user, member, parsed, rfl, live⟩

/-- The write of a profile update is grounded in the record that it read. -/
theorem updateUser_valid (userId : String) (data : UpdateUserInput) :
    Valid contract (.updateUser userId data) (Enters contract (.updateUser userId data))
      (UsersService.updateUser userId data >>= fun dto => .ret (.dto dto)) store := by
  simp only [UsersService.updateUser, Program.bind_assoc]
  refine valid_findById tame fun user later _ kept _ member live => ?_
  refine valid_flush tame (fun write included after => ?_) fun _ _ _ _ => valid_ret_of_none rfl
  rw [User.mem_update included]
  exact .here kept (.profile member live)

/-! ## deleteUser -/

/-- A deletion whose event is stored already, possibly to be queued again. -/
theorem deletion_staged_valid {userId : String} {user : User} {row : OutboxEvent}
    {deletedAt : Millis} {staged : List Write} (kept : contract.keeps store) (live : user.Live)
    (persists : ∃ stored ∈ store.users, stored.id = user.id)
    (parsed : Libraries.ofHexString userId = some user.id) (present : row ∈ store.outbox)
    (announces : row.Announces user)
    (requeues : ∀ write ∈ staged, ∀ after,
      WriteOf contract (.deleteUser userId) store write after) :
    Valid contract (.deleteUser userId) (Enters contract (.deleteUser userId))
      (flush (if Libraries.outboxFirst then
          staged ++ user.update (softDeleted user deletedAt)
        else user.update (softDeleted user deletedAt) ++ staged) >>= fun _ => .ret .acknowledged)
      store := by
  refine valid_flush tame (fun write member after => .here kept ?_) fun _ _ _ _ =>
    valid_ret_of_none rfl
  have origin : write ∈ staged ∨ write ∈ user.update (softDeleted user deletedAt) := by
    split at member
    · exact List.mem_append.mp member
    · exact (List.mem_append.mp member).symm
  cases origin with
  | inl requeued => exact requeues write requeued after
  | inr own =>
      rw [User.mem_update own]
      exact .deletionStaged deletedAt live persists parsed present announces

/-- A deletion that inserts its event, in either order of the flush. -/
theorem deletion_fresh_valid {userId : String} {user : User} {row : OutboxEvent}
    {read : Backend} {deletedAt : Millis} (reached : contract.rely read store)
    (kept : contract.keeps read) (member : user ∈ read.users) (live : user.Live)
    (parsed : Libraries.ofHexString userId = some user.id)
    (announces : row.Announces user) (pending : row.status = .pending) :
    Valid contract (.deleteUser userId) (Enters contract (.deleteUser userId))
      (flush (if Libraries.outboxFirst then
          [.insertOutbox row] ++ user.update (softDeleted user deletedAt)
        else user.update (softDeleted user deletedAt) ++ [.insertOutbox row]) >>= fun _ =>
          .ret .acknowledged) store := by
  have bumped : (softDeleted user deletedAt).tokenVersion ≠ user.tokenVersion :=
    Nat.succ_ne_self _
  rw [User.update_of_tokenVersion bumped, flush_bind]
  refine valid_await tame trivial fun at_ _ moved _ => ?_
  have moved := contract.trans reached moved
  cases order : (Libraries.outboxFirst : Bool) with
  | true =>
      refine valid_write tame ⟨read, moved, kept,
        .rowBeforeDeletion deletedAt order member live parsed announces pending⟩
        fun later further _ _ keeps relies => ?_
      refine valid_writeAll tame keeps (fun write rest after => ?_) fun _ _ _ =>
        valid_ret_of_none rfl
      rw [List.mem_singleton.mp rest]
      have persists := tame.persist (contract.trans (contract.trans moved further) relies) user
        member
      exact .here keeps (.deletionStaged deletedAt live persists parsed
        (List.mem_append_right _ (List.mem_singleton.mpr rfl)) announces)
  | false =>
      refine valid_write tame ⟨read, moved, kept,
        .deletionBeforeRow deletedAt order member live parsed announces⟩
        fun later further _ _ keeps _ => ?_
      obtain ⟨old, present, same⟩ := tame.persist (contract.trans moved further) user member
      refine valid_writeAll tame keeps (fun write rest after => ?_) fun _ _ _ =>
        valid_ret_of_none rfl
      rw [List.mem_singleton.mp rest]
      refine .here keeps (.rowAfterDeletion order (mem_modifyAt_of_eq present same) ?_
        (parsed.trans (congrArg some same.symm)) ?_ pending)
      · rw [User.Live, apply_softDeleted live]
        exact nofun
      · exact announces.trans
          (congrArg (fun id => deletionKey (Libraries.toHexString id)) same.symm)

/-- A deletion keeps to its contract, in either order of the flush's writes and whatever was
staged before. -/
theorem deleteUser_valid (userId : String) :
    Valid contract (.deleteUser userId) (Enters contract (.deleteUser userId))
      (UsersService.deleteUser userId >>= fun _ => .ret .acknowledged) store := by
  simp only [UsersService.deleteUser, Program.bind_assoc, Program.pure_eq, Program.ret_bind]
  refine valid_findById tame fun user read _ keptRead parsed member live => ?_
  simp only [now, await, Program.perform_bind]
  refine valid_await tame trivial fun deletedAt _ first _ => ?_
  simp only [stageOutboxEvent, Program.bind_assoc]
  refine valid_findOutboxEvent tame fun found second kept => ?_
  cases existing : fetch OutboxEvent.idempotencyKey (deletionEvent user).idempotencyKey
      found.outbox with
  | some row =>
      have announces : row.Announces user := fetch_some_key existing
      have persists := tame.persist (contract.trans first second) user member
      simp only
      split
      · refine deletion_staged_valid tame kept live persists parsed (fetch_some_mem existing)
          announces ?_
        intro write requeued after
        rw [OutboxEvent.mem_update requeued]
        exact .requeue row _
      · exact deletion_staged_valid tame kept live persists parsed (fetch_some_mem existing)
          announces fun write none => (List.not_mem_nil none).elim
  | none =>
      simp only [newObjectId, now, await, Program.perform_bind, Program.call_bind,
        Program.pure_eq, Program.ret_bind]
      refine valid_await tame trivial fun id _ third _ => ?_
      refine valid_await tame trivial fun createdAt _ fourth _ => ?_
      have reached := contract.trans (contract.trans first second) (contract.trans third fourth)
      exact deletion_fresh_valid tame reached keptRead member live parsed rfl rfl

/-! ## sweep -/

omit tame in
/-- What follows a write of a sweep does not matter to its ground. -/
theorem Grounded.of_sweep {write : Write} {after other : Option Command}
    (grounded : Grounded contract .sweep write after store) :
    Grounded contract .sweep write other store := by
  obtain ⟨read, moved, kept, issues⟩ := grounded
  cases issues with
  | stamp row at_ granted => exact ⟨_, moved, kept, .stamp row at_ granted⟩

/-- The dispatch of a batch keeps to the contract. The induction is on its rows, with the
stamps collected so far. -/
theorem dispatch_valid {β : Type} {post : β → Backend → Prop} {rows : List OutboxEvent}
    {tally : OutboxDispatcher.SweepResult}
    {next : List Write × OutboxDispatcher.SweepResult → Handler β}
    (kept : contract.keeps store)
    (rest : ∀ writes total later, contract.rely store later → contract.keeps later →
      (∀ write ∈ writes, ∀ after, Grounded contract .sweep write after later) →
      Valid contract .sweep post (next (writes, total)) later) :
    Valid contract .sweep post (OutboxDispatcher.dispatch rows tally >>= next) store := by
  induction rows generalizing store tally next with
  | nil => exact rest [] tally store (contract.refl store) kept fun _ none => nomatch none
  | cons row rows ih =>
      simp only [OutboxDispatcher.dispatch, now, await, Program.perform_bind, Program.call_bind,
        Program.bind_assoc]
      refine valid_call tame trivial fun before moved _ granted published relies => ?_
      refine valid_await tame trivial fun at_ later further keptLater => ?_
      refine ih keptLater fun writes total last onward keptLast grounded => ?_
      have reached := contract.trans (contract.trans moved relies) (contract.trans further onward)
      refine rest _ total last reached keptLast fun write member after => ?_
      cases List.mem_append.mp member with
      | inl own =>
          rw [OutboxEvent.mem_update own]
          exact ⟨_, contract.trans further onward, published, .stamp row at_ granted⟩
      | inr other => exact grounded write other after

/-- A sweep's writes are stamps of rows that it has read. -/
theorem sweepPending_valid :
    Valid contract .sweep (fun _ _ => True) OutboxDispatcher.sweepPending store := by
  simp only [OutboxDispatcher.sweepPending, await, Program.perform_bind, Program.call_bind]
  refine valid_call tame trivial fun later _ kept _ _ _ => ?_
  refine valid_ofReply ?_
  split
  · exact fun _ _ _ => trivial
  · refine dispatch_valid tame kept fun writes total _ _ _ grounded => ?_
    refine valid_flush tame grounded fun _ _ _ _ => ?_
    refine valid_call tame trivial fun _ _ _ _ _ _ => valid_ofReply ?_
    refine valid_call tame trivial fun _ _ _ _ _ _ => valid_ofReply ?_
    exact fun _ _ _ => trivial

variable (store) in
/-- With the flag around it, a sweep is valid and hands out nothing. -/
theorem sweep_valid :
    Valid contract .sweep (Enters contract .sweep)
      (OutboxDispatcher.sweep >>= fun result => .ret (.swept result)) store := by
  simp only [OutboxDispatcher.sweep, await, Program.perform_bind, Program.call_bind]
  refine valid_await tame trivial fun entered _ _ _ => ?_
  split
  · simp only [Program.bind_assoc]
    refine Program.Always.attempt_bind (sweepPending_valid tame)
      (fun command next later issues => ?_)
      fun outcome _ _ _ => ?_
    · cases command with
      | write write at_ => exact Grounded.of_sweep issues
      | deleteUser id => exact issues.elim
      | _ => trivial
    · refine valid_await tame trivial fun _ _ _ _ => ?_
      cases outcome with
      | ok result => exact valid_ret_of_none rfl
      | error error => exact valid_fail error
  · exact valid_ret_of_none rfl

/-! ## The service -/

/-- Every handler of the service, from any store. -/
theorem handle_enters (operation : UserOperation) :
    Valid contract operation (Enters contract operation) (UsersController.handle operation)
      store := by
  cases operation with
  | createAutoregUser payload => exact createAutoregUser_valid tame payload
  | login email password => exact login_valid tame email password
  | upgradeAccount userId payload => exact upgradeAccount_valid tame userId payload
  | findOrCreateOAuthUser payload => exact findOrCreateOAuthUser_valid tame payload
  | forgotPassword email => exact forgotPassword_valid tame email
  | resetPassword token newPassword => exact resetPassword_valid tame token newPassword
  | getUserById userId => exact getUserById_valid tame userId
  | getUserTokenVersion userId => exact getUserTokenVersion_valid tame userId
  | updateUser userId data => exact updateUser_valid tame userId data
  | deleteUser userId => exact deleteUser_valid tame userId
  | sweep => exact sweep_valid store tame

/-- Every message is valid: its writes are grounded, and what it hands out had its token
version in an earlier store. -/
theorem handle_valid (operation : UserOperation) :
    Valid contract operation (Hands contract operation) (UsersController.handle operation)
      store := by
  refine (handle_enters tame operation).weaken fun outcome later enters => ?_
  cases outcome with
  | ok answer => exact Enters.hands enters
  | error error => trivial

/-! ## Any number of handlers -/

/-- A pool of user-service handlers. -/
abbrev ServicePool : Type := Pool UserOperation Command Reply ServiceError Answer Backend

/-- Decisions of the service's scheduler. -/
abbrev ServiceLabel : Type := Label UserOperation Backend.Event

omit tame in
/-- Every handler of a pool is valid where it stands. -/
abbrev ServiceSound (contract : ServiceContract) (pool : ServicePool) : Prop :=
  userService.Sound contract (fun operation => Issues contract operation)
    (fun operation => OnReturn (Hands contract operation)) pool

omit tame in
/-- The service before its first message. -/
theorem ServiceSound.initial (kept : contract.keeps store) :
    ServiceSound contract ⟨store, []⟩ :=
  ⟨kept, fun _ none => nomatch none⟩

/-- Soundness spreads over every run, and the store moves within the contract. -/
theorem ServiceSound.reaches {allowed : ServiceLabel → ServicePool → Prop}
    (respects : userService.Respects contract allowed) {start finish : ServicePool}
    (initial : ServiceSound contract start) (reached : userService.Reaches allowed start finish) :
    ServiceSound contract finish ∧ contract.rely start.shared finish.shared :=
  System.Reaches.sound respects (fun operation _ _ _ => handle_valid tame operation) initial reached

omit tame in
/-- What a thread is about to perform is a plain command or a grounded write. -/
theorem ServiceSound.plain_or_write {pool : ServicePool} (sound : ServiceSound contract pool)
    {thread : Thread UserOperation Command Reply ServiceError Answer}
    (member : thread ∈ pool.threads) {command : Command}
    {next : Reply command → Handler Answer}
    (running : thread.status = .running (.call command next)) :
    command.Plain ∨ ∃ write at_, command = .write write at_ := by
  have valid := sound.threads thread member
  rw [running] at valid
  have issues := (valid pool.shared (contract.refl _) sound.keeps).1
  cases command with
  | write write at_ => exact .inr ⟨write, at_, rfl⟩
  | deleteUser id => exact issues.elim
  | _ => exact .inl trivial

omit tame in
/-- The write a thread is about to perform is grounded in the present store. -/
theorem ServiceSound.grounded {pool : ServicePool} (sound : ServiceSound contract pool)
    {thread : Thread UserOperation Command Reply ServiceError Answer}
    (member : thread ∈ pool.threads) {write : Write} {at_ : Millis}
    {next : Except MongoError Unit → Handler Answer}
    (running : thread.status = .running (.call (.write write at_) next)) :
    Grounded contract thread.operation write (next (.ok ())).pending pool.shared := by
  have valid := sound.threads thread member
  rw [running] at valid
  exact (valid pool.shared (contract.refl _) sound.keeps).1

omit tame in
/-- The step of a thread about to perform a command. -/
theorem next_call {pool : ServicePool} {index : Nat}
    {thread : Thread UserOperation Command Reply ServiceError Answer} {command : Command}
    {next : Reply command → Handler Answer} (present : pool.threads[index]? = some thread)
    (running : thread.status = .running (.call command next)) :
    (userService.next (.step index) pool).shared = (Backend.exec command pool.shared).1 ∧
      (userService.next (.step index) pool).threads[index]? = some { thread with
        status := .running (next (Backend.exec command pool.shared).2) } := by
  rw [System.next_step_of_get present, running]
  exact ⟨rfl, List.getElem?_set_self (List.getElem?_eq_some_iff.mp present).1⟩

omit tame in
/-- A write that applies is what the step of its thread does. -/
theorem next_write {pool : ServicePool} {index : Nat}
    {thread : Thread UserOperation Command Reply ServiceError Answer} {write : Write}
    {at_ : Millis} {next : Except MongoError Unit → Handler Answer}
    (present : pool.threads[index]? = some thread)
    (running : thread.status = .running (.call (.write write at_) next))
    (applies : pool.shared.Applies write) :
    userService.next (.step index) pool =
      ⟨pool.shared.stored at_ write,
        pool.threads.set index { thread with status := .running (next (.ok ())) }⟩ := by
  rw [System.next_step_of_get present, running]
  simp only [System.advance, userService, Backend.exec, applies.1, ↓reduceIte,
    Backend.write_of_none applies.2]

omit tame in
/-- An identity a thread has handed out was seen in an earlier store. -/
theorem ServiceSound.minted {pool : ServicePool} (sound : ServiceSound contract pool)
    {thread : Thread UserOperation Command Reply ServiceError Answer}
    (member : thread ∈ pool.threads) {answer : Answer} {subject : String} {tokenVersion : Nat}
    (returned : thread.status = .returned answer)
    (identity : issued thread.operation answer = some (subject, tokenVersion)) :
    ∃ read, contract.rely read pool.shared ∧ contract.keeps read ∧
      Minted read subject tokenVersion := by
  have valid := sound.threads thread member
  rw [returned] at valid
  exact valid pool.shared (contract.refl _) sound.keeps subject tokenVersion identity

end NestMonorepo
