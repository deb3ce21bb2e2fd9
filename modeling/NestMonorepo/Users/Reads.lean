import NestMonorepo.Concurrency.History
import NestMonorepo.Users.Store

/-! # What a write is computed from

A handler writes what it has read, modified, and a sweep publishes the rows it has read.
Which documents it has read, and when, is part of the run: each write of a user or of an
outbox row goes back to commands that the same handler performed earlier, and to what these
were answered.
-/

namespace NestMonorepo

open Collections Concurrency Handler UsersService

/-- A command and its answer: a query for a user or for an event, the batch of a sweep, or
an attempt to publish a row. -/
inductive Reading where
  | user (filter : UserFilter) (found : Option User)
  | event (idempotencyKey : String) (found : Option OutboxEvent)
  | pending (rows : List OutboxEvent)
  | published (row : ObjectId) (pattern : String) (payload : Payload)
      (outcome : Except String Unit)

/-- A write of a device. -/
def Write.OfDevice : Write → Prop
  | .insertDevice _ => True
  | .updateDevice _ _ => True
  | _ => False

section Reads

variable [Libraries]

/-! ## Where the writes of users come from -/

/-- The user of a well-formed id, as `findById` has read it. -/
def FoundById (known : Set Reading) (userId : String) (loaded : User) : Prop :=
  ∃ id, Libraries.ofHexString userId = some id ∧ .user (.byId id) (some loaded) ∈ known ∧
    loaded.Live

/-- What the clash check of an upgrade has found: by a provider identity, the account
itself or no one. An upgrade by email stores no link. -/
def ClashChecked (known : Set Reading) (userId : String) (payload : UpgradePayload) : Prop :=
  ∀ provider providerUserId, payload.method = .oauth provider →
    truthy payload.providerUserId = some providerUserId →
    ∃ clash, .user (.byLink provider providerUserId) clash ∈ known ∧
      ∀ other, clash = some other → other.hexId = userId

/-- The sweep has the row of a publication in its batch. -/
def InBatch (known : Set Reading) (id : ObjectId) (pattern : String) (payload : Payload) : Prop :=
  ∃ rows, .pending rows ∈ known ∧ ∃ row ∈ rows, row.id = id ∧ row.pattern = pattern ∧
    row.payload = payload

/-- The operation issues the write on the strength of what it has read. -/
inductive ComputedFrom (known : Set Reading) : UserOperation → Write → Prop
  | device {operation write} : write.OfDevice → ComputedFrom known operation write
  | row {userId} {loaded : User} (id : ObjectId) (createdAt : Millis) :
      FoundById known userId loaded → ComputedFrom known (.deleteUser userId)
        (.insertOutbox ((deletionEvent loaded).row id createdAt))
  | requeue {userId} {loaded : User} {existing : OutboxEvent} : FoundById known userId loaded →
      .event (deletionKey loaded.hexId) (some existing) ∈ known → existing.status = .failed →
      ComputedFrom known (.deleteUser userId) (.updateOutbox existing.id
        (existing.changes (existing.requeue (deletionEvent loaded).payload)))
  | stamp {rows : List OutboxEvent} {row : OutboxEvent} {outcome : Except String Unit}
      (at_ : Millis) : .pending rows ∈ known → row ∈ rows →
      .published row.id row.pattern row.payload outcome ∈ known → ComputedFrom known .sweep
        (.updateOutbox row.id (row.changes (OutboxDispatcher.attempted row at_ outcome)))
  | autoregUser {payload} (id : ObjectId) (createdAt : Millis) :
      ComputedFrom known (.createAutoregUser payload) (.insertUser (autoregUser id createdAt))
  | upgrade {userId payload} {loaded current : User} (upgradedAt : Millis) :
      FoundById known userId loaded → loaded.accountType = .autoreg →
      Credentials payload loaded current → ClashChecked known userId payload →
      ComputedFrom known (.upgradeAccount userId payload)
        (.updateUser loaded.id (loaded.changes (upgraded current payload upgradedAt)))
  | merge {payload email} {loaded : User} (linkedAt : Millis) :
      .user (.byLinkLive payload.provider payload.providerUserId) none ∈ known →
      payload.mergeEmail = some email → .user (.byEmailLive email) (some loaded) ∈ known →
      ComputedFrom known (.findOrCreateOAuthUser payload)
        (.updateUser loaded.id (loaded.changes (merged loaded payload linkedAt)))
  | oauthUser {payload} (id : ObjectId) (createdAt : Millis) :
      .user (.byLinkLive payload.provider payload.providerUserId) none ∈ known →
      ComputedFrom known (.findOrCreateOAuthUser payload)
        (.insertUser (oauthUser payload id createdAt))
  | resetRequest {email} {loaded : User} (token : String) (requestedAt : Millis) :
      .user (.byEmailLive email) (some loaded) ∈ known → ComputedFrom known (.forgotPassword email)
        (.updateUser loaded.id (loaded.changes (resetRequested loaded token requestedAt)))
  | reset {token newPassword} {loaded : User} (passwordHash : String) :
      .user (.byResetTokenLive (hashResetToken token)) (some loaded) ∈ known →
      ComputedFrom known (.resetPassword token newPassword)
        (.updateUser loaded.id (loaded.changes (passwordReset loaded passwordHash)))
  | profile {userId data} {loaded : User} : FoundById known userId loaded →
      ComputedFrom known (.updateUser userId data)
        (.updateUser loaded.id (loaded.changes (data.applyTo loaded)))
  | deletion {userId} {loaded : User} (deletedAt : Millis) : FoundById known userId loaded →
      ComputedFrom known (.deleteUser userId)
        (.updateUser loaded.id (loaded.changes (softDeleted loaded deletedAt)))

section Mono

variable {known more : Set Reading} {userId : String}

/-- What was found stays known as more is read. -/
theorem FoundById.mono {loaded : User} (implies : known ⊆ more)
    (found : FoundById known userId loaded) : FoundById more userId loaded := by
  obtain ⟨id, parsed, read, live⟩ := found
  exact ⟨id, parsed, implies read, live⟩

/-- A check that was made stays made as more is read. -/
theorem ClashChecked.mono {payload : UpgradePayload} (implies : known ⊆ more)
    (checked : ClashChecked known userId payload) : ClashChecked more userId payload := by
  intro provider providerUserId method identity
  obtain ⟨clash, read, own⟩ := checked provider providerUserId method identity
  exact ⟨clash, implies read, own⟩

/-- What is computed from some reads is computed from more. -/
theorem ComputedFrom.mono {operation : UserOperation} {write : Write} (implies : known ⊆ more)
    (computed : ComputedFrom known operation write) : ComputedFrom more operation write := by
  cases computed with
  | device device => exact .device device
  | row id createdAt found => exact .row id createdAt (found.mono implies)
  | requeue found read failed => exact .requeue (found.mono implies) (implies read) failed
  | stamp at_ batch inside tried => exact .stamp at_ (implies batch) inside (implies tried)
  | autoregUser id createdAt => exact .autoregUser id createdAt
  | upgrade upgradedAt found anonymous credentials checked =>
      exact .upgrade upgradedAt (found.mono implies) anonymous credentials (checked.mono implies)
  | merge linkedAt unlinked merges read =>
      exact .merge linkedAt (implies unlinked) merges (implies read)
  | oauthUser id createdAt unlinked => exact .oauthUser id createdAt (implies unlinked)
  | resetRequest token requestedAt read => exact .resetRequest token requestedAt (implies read)
  | reset passwordHash read => exact .reset passwordHash (implies read)
  | profile found => exact .profile (found.mono implies)
  | deletion deletedAt found => exact .deletion deletedAt (found.mono implies)

/-- Inserted users are live. -/
theorem ComputedFrom.inserts_live {operation : UserOperation} {user : User}
    (computed : ComputedFrom known operation (.insertUser user)) : user.Live := by
  cases computed with
  | device device => exact device.elim
  | autoregUser => rfl
  | oauthUser => rfl

/-- Only a deletion marks the record it updates, and nothing revives one. -/
theorem ComputedFrom.deletedAt {operation : UserOperation} {id : ObjectId} {changes : UserChanges}
    (computed : ComputedFrom known operation (.updateUser id changes)) :
    (∃ userId, operation = .deleteUser userId) ∨ changes.deletedAt = none := by
  cases computed with
  | deletion => exact .inl ⟨_, rfl⟩
  | device device => exact device.elim
  | @upgrade _ _ loaded current _ _ _ credentials _ =>
      refine .inr ?_
      change changed loaded.deletedAt current.deletedAt = none
      rw [credentials.deletedAt, changed_self]
  | _ => exact .inr (changed_self _)

/-- A deletion marks the record it has found. -/
theorem ComputedFrom.of_deleteUser {id : ObjectId} {changes : UserChanges}
    (computed : ComputedFrom known (.deleteUser userId) (.updateUser id changes)) :
    ∃ loaded deletedAt, FoundById known userId loaded ∧ loaded.id = id ∧
      changes = loaded.changes (softDeleted loaded deletedAt) := by
  cases computed with
  | device device => exact device.elim
  | deletion deletedAt found => exact ⟨_, deletedAt, found, rfl, rfl⟩

end Mono

/-- Queries and publications teach their answers; a write presupposes the reads it is
computed from, a publication the batch with its row. No handler removes a user. -/
def reads : Lore UserOperation Command Reply Reading where
  teaches
    | .findUser filter, .ok found => {.user filter found}
    | .findOutboxEvent idempotencyKey, .ok found => {.event idempotencyKey found}
    | .findPendingOutbox _ _, .ok rows => {.pending rows}
    | .publishEvent row pattern payload, outcome => {.published row pattern payload outcome}
    | _, _ => ∅
  presupposes
    | operation, .write write _, known => ComputedFrom known operation write
    | _, .deleteUser _, _ => False
    | _, .publishEvent row pattern payload, known => InBatch known row pattern payload
    | _, _, _ => True
  monotone {operation command known more} implies presupposed := by
    cases command with
    | write write at_ => exact ComputedFrom.mono implies presupposed
    | deleteUser id => exact presupposed
    | publishEvent row pattern payload =>
        obtain ⟨rows, batch, inside⟩ := presupposed
        exact ⟨rows, implies batch, inside⟩
    | _ => trivial

/-! ## Handlers -/

/-- The commands that presuppose nothing. -/
def Command.Free : Command → Prop
  | .write _ _ => False
  | .deleteUser _ => False
  | .publishEvent _ _ _ => False
  | _ => True

/-- The program writes users and rows only as computed from what it has read. -/
abbrev Heedful {α : Type} (operation : UserOperation) (program : Handler α)
    (known : Set Reading) : Prop :=
  program.Heeds reads operation (fun _ _ => True) known

section Rules

variable {α β : Type} {operation : UserOperation} {known more : Set Reading}

/-- A program that heeds what it knows does so when it knows more. -/
theorem Heedful.mono {program : Handler α} (heedful : Heedful operation program known)
    (implies : known ⊆ more) : Heedful operation program more :=
  heedful.weaken implies fun _ _ _ _ _ => trivial

/-- A command that writes nothing from what was read presupposes nothing. -/
theorem presupposes_of_free {command : Command} (free : command.Free) :
    reads.presupposes operation command known := by
  cases command with
  | write write at_ => exact free.elim
  | deleteUser id => exact free.elim
  | publishEvent row pattern payload => exact free.elim
  | _ => trivial

/-- A free command whose answer is not needed. -/
theorem heedful_await {command : Command} {next : Reply command → Handler α}
    (free : command.Free) (rest : ∀ reply, Heedful operation (next reply) known) :
    Heedful operation (.call command next) known :=
  ⟨presupposes_of_free free, fun reply => (rest reply).mono Set.subset_union_left⟩

/-- Free commands before the rest. -/
theorem heedful_bind {program : Handler α} {next : α → Handler β}
    (free : program.Only Command.Free) (rest : ∀ value, Heedful operation (next value) known) :
    Heedful operation (program >>= next) known := by
  have heeds : program.Heeds reads operation (fun _ later => known ⊆ later) known :=
    .of_only (free.mono fun command => presupposes_of_free)
  exact heeds.bind (fun _ _ _ => trivial) fun value later kept => (rest value).mono kept

/-- A query for a user: the rest knows its answer. -/
theorem heedful_findUser {filter : UserFilter} {next : Option User → Handler α}
    (rest : ∀ found, Heedful operation (next found) (known ∪ {.user filter found})) :
    Heedful operation (findUser filter >>= next) known := by
  refine ⟨trivial, fun reply => ?_⟩
  cases reply with
  | ok found => exact rest found
  | error error => trivial

/-- Reading a live user by its id teaches the record that was found. -/
theorem heedful_findById {userId : String} {next : User → Handler α}
    (rest : ∀ user later, known ⊆ later → FoundById later userId user →
      Heedful operation (next user) later) :
    Heedful operation (findById userId >>= next) known := by
  unfold findById
  cases parsed : Libraries.ofHexString userId with
  | none => trivial
  | some id =>
      simp only [Program.bind_assoc]
      refine heedful_findUser fun found => ?_
      cases found with
      | none => trivial
      | some user =>
          simp only
          split
          · trivial
          · rename_i live
            exact rest user _ Set.subset_union_left
              ⟨id, parsed, .inr rfl, Option.not_isSome_iff_eq_none.mp live⟩

/-- The writes of a flush, one after another, as long as they are accepted. -/
theorem writeAll_heeds {writes : List Write} (at_ : Millis)
    (computed : ∀ write ∈ writes, ComputedFrom known operation write) :
    (writeAll at_ writes).Heeds reads operation (fun _ later => known ⊆ later) known := by
  induction writes with
  | nil => exact subset_rfl
  | cons write writes ih =>
      refine ⟨computed write List.mem_cons_self, fun reply => ?_⟩
      have rest := ih fun other member => computed other (List.mem_cons_of_mem _ member)
      cases reply with
      | ok _ => exact rest.weaken Set.subset_union_left fun _ _ _ wider kept => kept.trans wider
      | error error => exact Set.subset_union_left

/-- A flush heeds the reads if each of its writes is computed from them, and forgets none. -/
theorem flush_heeds {writes : List Write}
    (computed : ∀ write ∈ writes, ComputedFrom known operation write) :
    (flush writes).Heeds reads operation (fun _ later => known ⊆ later) known := by
  refine ⟨trivial, fun at_ => ?_⟩
  have written := (writeAll_heeds at_ computed).weaken
    (Set.subset_union_left (t := reads.teaches .now at_)) fun _ _ _ wider kept => kept.trans wider
  exact written.bind (fun _ _ kept => kept) fun _ _ kept => kept

/-- So a program may flush such writes and go on with what it knew. -/
theorem heedful_flush {writes : List Write} {next : Millis → Handler α}
    (computed : ∀ write ∈ writes, ComputedFrom known operation write)
    (rest : ∀ at_, Heedful operation (next at_) known) :
    Heedful operation (flush writes >>= next) known :=
  (flush_heeds computed).bind (fun _ _ _ => trivial) fun at_ _ kept => (rest at_).mono kept

/-- A flush whose error is translated. -/
theorem heedful_flushEmail {writes : List Write} {next : Millis → Handler α}
    (computed : ∀ write ∈ writes, ComputedFrom known operation write)
    (rest : ∀ at_, Heedful operation (next at_) known) :
    Heedful operation (flushEmail writes >>= next) known := by
  unfold flushEmail
  rw [Program.bind_assoc]
  have flushed : ((flush writes).attempt : Handler _).Heeds reads operation
      (fun _ later => known ⊆ later) known := .attempt (flush_heeds computed)
  refine flushed.bind (fun _ _ _ => trivial) fun outcome later kept => ?_
  cases outcome with
  | ok at_ => exact (rest at_).mono kept
  | error error =>
      cases error with
      | mongo error =>
          simp only
          split <;> trivial
      | _ => trivial

end Rules

section Operations

variable {known : Set Reading}

/-- A registration inserts documents of its own. -/
theorem createFreshAutoreg_heedful (payload : AutoregPayload) :
    Heedful (.createAutoregUser payload)
      (createFreshAutoreg payload >>= fun result => (.ret (.autoreg result) : Handler Answer))
      known := by
  simp only [createFreshAutoreg, newObjectId, now, await, Program.perform_bind,
    Program.call_bind, Program.bind_assoc, Program.pure_eq, Program.ret_bind]
  refine heedful_await trivial fun userId => heedful_await trivial fun deviceId => ?_
  refine heedful_await trivial fun createdAt => heedful_flush (fun write member => ?_)
    fun _ => trivial
  have either : write = .insertUser (autoregUser userId createdAt) ∨
      write = .insertDevice (autoregDevice payload deviceId userId createdAt) := by
    unfold autoregWrites at member
    split at member
    all_goals
      simp only [List.mem_cons, List.not_mem_nil, or_false] at member
      grind
  rcases either with rfl | rfl
  · exact .autoregUser userId createdAt
  · exact .device trivial

/-- A registration updates at most the row of the device that it has read. -/
theorem createAutoregUser_heedful (payload : AutoregPayload) :
    Heedful (.createAutoregUser payload)
      (UsersController.createAutoregUser payload >>= fun result =>
        (.ret (.autoreg result) : Handler Answer)) known := by
  have anew : ∀ id later, Heedful (.createAutoregUser payload)
      (nativeDeleteDevices (.byId id) >>= fun _ => createFreshAutoreg payload >>= fun result =>
        (.ret (.autoreg result) : Handler Answer)) later := fun id later =>
    heedful_bind (nativeDeleteDevices_only trivial) fun _ => createFreshAutoreg_heedful payload
  unfold UsersController.createAutoregUser
  split
  · trivial
  simp only [UsersService.createAutoregUser, Program.bind_assoc]
  refine heedful_bind (findDevice_only trivial) fun device => ?_
  cases device with
  | none => exact createFreshAutoreg_heedful payload
  | some existing =>
      simp only
      split
      · trivial
      simp only [Program.bind_assoc]
      refine heedful_findUser fun linked => ?_
      cases linked with
      | none =>
          simp only [Program.bind_assoc]
          exact anew _ _
      | some linkedUser =>
          simp only
          split
          · simp only [Program.bind_assoc]
            exact anew _ _
          · simp only [now, await, Program.perform_bind, Program.call_bind, Program.bind_assoc,
              Program.pure_eq, Program.ret_bind]
            refine heedful_await trivial fun lastSeenAt => ?_
            refine heedful_flush (fun write member => ?_) fun _ => trivial
            rw [Device.mem_update member]
            exact .device trivial

/-- The credentials of an upgrade are computed from the record as it was read, and an
identity is linked only after a lookup that found it on no other account. -/
theorem upgradeCredentials_heedful {operation : UserOperation} {userId : String} {user : User}
    {payload : UpgradePayload} {next : User → Handler Answer}
    (rest : ∀ current later, known ⊆ later → Credentials payload user current →
      ClashChecked later userId payload → Heedful operation (next current) later) :
    Heedful operation (upgradeCredentials userId user payload >>= next) known := by
  -- both OAuth branches end in `link`
  have linked : ∀ provider providerUserId later, known ⊆ later →
      payload.method = .oauth provider → truthy payload.providerUserId = some providerUserId →
      ClashChecked later userId payload → Heedful operation
        (upgradeCredentials.link user payload provider providerUserId >>= next) later := by
    intro provider providerUserId later kept method identity checked
    simp only [upgradeCredentials.link, now, await, Program.perform_bind, Program.call_bind,
      Program.pure_eq, Program.ret_bind]
    exact heedful_await trivial fun linkedAt =>
      rest _ later kept (.link linkedAt method identity) checked
  unfold upgradeCredentials
  cases method : payload.method with
  | email =>
      have unlinked : ∀ later, ClashChecked later userId payload := by
        intro _ _ _ byLink
        cases method.symm.trans byLink
      simp only
      split
      · rename_i email password presentEmail _
        simp only [Program.bind_assoc]
        refine heedful_findUser fun existing => ?_
        split
        · trivial
        · simp only [Program.bind_assoc]
          refine heedful_bind (hashPassword_only trivial) fun passwordHash => ?_
          exact rest _ _ Set.subset_union_left (.password passwordHash method presentEmail)
            (unlinked _)
      · trivial
  | oauth provider =>
      simp only
      cases identity : truthy payload.providerUserId with
      | none => trivial
      | some providerUserId =>
          simp only [Program.bind_assoc]
          refine heedful_findUser fun clash => ?_
          have checked : (∀ other, clash = some other → other.hexId = userId) →
              ClashChecked (known ∪ {.user (.byLink provider providerUserId) clash})
                userId payload := by
            intro own _ _ byLink identified
            cases method.symm.trans byLink
            cases identity.symm.trans identified
            exact ⟨clash, .inr rfl, own⟩
          cases clash with
          | none =>
              refine linked provider providerUserId _ Set.subset_union_left method identity
                (checked fun _ none => ?_)
              cases none
          | some other =>
              simp only
              split
              · trivial
              · rename_i own
                refine linked provider providerUserId _ Set.subset_union_left method identity
                  (checked fun _ same => ?_)
                cases same
                exact not_not.mp own

/-- The flush of an upgrade is computed from the record that it read and from such
credentials. -/
theorem upgradeAccount_heedful (userId : String) (payload : UpgradePayload) :
    Heedful (.upgradeAccount userId payload)
      (UsersService.upgradeAccount userId payload >>= fun user =>
        (.ret (.upgraded user) : Handler Answer)) known := by
  simp only [UsersService.upgradeAccount, Program.bind_assoc]
  refine heedful_findById fun user later _ found => ?_
  split
  · trivial
  rename_i anonymous
  simp only [Program.bind_assoc]
  refine upgradeCredentials_heedful fun current last kept credentials checked => ?_
  simp only [now, await, Program.perform_bind, Program.pure_eq, Program.ret_bind]
  refine heedful_await trivial fun upgradedAt => heedful_flushEmail (fun write member => ?_)
    fun updatedAt => heedful_bind (nativeDeleteDevices_only trivial) fun _ => trivial
  rw [User.mem_update member]
  exact .upgrade upgradedAt (found.mono kept) (not_not.mp anonymous) credentials checked

/-- A provider login inserts a user with the identity only after a lookup that found no
account of it. -/
theorem createOAuthUser_heedful (payload : OAuthPayload)
    (unlinked : .user (.byLinkLive payload.provider payload.providerUserId) none ∈ known) :
    Heedful (.findOrCreateOAuthUser payload)
      (createOAuthUser payload >>= fun result => (.ret (.identity result) : Handler Answer))
      known := by
  simp only [createOAuthUser, newObjectId, now, await, Program.perform_bind, Program.call_bind,
    Program.bind_assoc, Program.pure_eq, Program.ret_bind]
  refine heedful_await trivial fun createdAt => heedful_await trivial fun id => ?_
  refine heedful_flushEmail (fun write member => ?_) fun _ => trivial
  rw [List.mem_singleton.mp member]
  exact .oauthUser id createdAt unlinked

/-- A provider login links the identity into an account that it has read, or inserts one,
after a lookup that found no account of it. -/
theorem findOrCreateOAuthUser_heedful (payload : OAuthPayload) :
    Heedful (.findOrCreateOAuthUser payload)
      (UsersService.findOrCreateOAuthUser payload >>= fun result =>
        (.ret (.identity result) : Handler Answer)) known := by
  simp only [UsersService.findOrCreateOAuthUser, Program.bind_assoc]
  refine heedful_findUser fun byProvider => ?_
  cases byProvider with
  | some byProvider => trivial
  | none =>
      simp only
      cases merges : payload.mergeEmail with
      | none => exact createOAuthUser_heedful payload (.inr rfl)
      | some email =>
          simp only [Program.bind_assoc]
          refine heedful_findUser fun byEmail => ?_
          cases byEmail with
          | none => exact createOAuthUser_heedful payload (.inl (.inr rfl))
          | some byEmail =>
              simp only [now, await, Program.perform_bind, Program.call_bind, Program.bind_assoc,
                Program.pure_eq, Program.ret_bind]
              refine heedful_await trivial fun linkedAt => ?_
              refine heedful_flush (fun write member => ?_) fun _ => trivial
              rw [User.mem_update member]
              exact .merge linkedAt (.inl (.inr rfl)) merges (.inr rfl)

/-- A reset request stores its token in the record that it read. -/
theorem forgotPassword_heedful (email : String) :
    Heedful (.forgotPassword email) (UsersService.forgotPassword email >>= fun _ =>
      (.ret .acknowledged : Handler Answer)) known := by
  simp only [UsersService.forgotPassword, Program.bind_assoc]
  refine heedful_findUser fun found => ?_
  cases found with
  | none => trivial
  | some user =>
      simp only [now, await, Program.perform_bind, Program.call_bind, Program.bind_assoc,
        Program.pure_eq, Program.ret_bind]
      refine heedful_await trivial fun token => heedful_await trivial fun requestedAt => ?_
      refine heedful_flush (fun write member => ?_) fun _ => heedful_await trivial fun _ => trivial
      rw [User.mem_update member]
      exact .resetRequest token requestedAt (.inr rfl)

/-- A reset rewrites the record that its token led to. -/
theorem resetPassword_heedful (token newPassword : String) :
    Heedful (.resetPassword token newPassword) (UsersService.resetPassword token newPassword >>=
      fun _ => (.ret .acknowledged : Handler Answer)) known := by
  simp only [UsersService.resetPassword, Program.bind_assoc]
  refine heedful_findUser fun found => ?_
  cases found with
  | none => trivial
  | some user =>
      simp only [now, await, Program.perform_bind, Program.call_bind]
      refine heedful_await trivial fun presentedAt => ?_
      split
      · trivial
      simp only [Program.bind_assoc]
      refine heedful_bind (hashPassword_only trivial) fun passwordHash => ?_
      refine heedful_flush (fun write member => ?_) fun _ => trivial
      rw [User.mem_update member]
      exact .reset passwordHash (.inr rfl)

/-- A profile update rewrites the record that it read, by the fields of its payload. -/
theorem updateUser_heedful (userId : String) (data : UpdateUserInput) :
    Heedful (.updateUser userId data) (UsersService.updateUser userId data >>= fun dto =>
      (.ret (.dto dto) : Handler Answer)) known := by
  simp only [UsersService.updateUser, Program.bind_assoc]
  refine heedful_findById fun user later _ found => ?_
  refine heedful_flush (fun write member => ?_) fun _ => trivial
  rw [User.mem_update member]
  exact .profile found

/-- A query for an event: the rest knows its answer. -/
theorem heedful_findOutboxEvent {operation : UserOperation} {idempotencyKey : String}
    {next : Option OutboxEvent → Handler Answer}
    (rest : ∀ found, Heedful operation (next found) (known ∪ {.event idempotencyKey found})) :
    Heedful operation (findOutboxEvent idempotencyKey >>= next) known := by
  refine ⟨trivial, fun reply => ?_⟩
  cases reply with
  | ok found => exact rest found
  | error error => trivial

/-- The event of a deletion is staged as a new row, or revives a row that was given up. -/
theorem stageOutboxEvent_heedful {userId : String} {user : User}
    {next : StageOutboxResult → Handler Answer} (found : FoundById known userId user)
    (rest : ∀ staged later, known ⊆ later →
      (∀ write ∈ staged.writes, ComputedFrom later (.deleteUser userId) write) →
      Heedful (.deleteUser userId) (next staged) later) :
    Heedful (.deleteUser userId) (stageOutboxEvent (deletionEvent user) >>= next) known := by
  rw [stageOutboxEvent, Program.bind_assoc]
  refine heedful_findOutboxEvent fun stored => ?_
  have kept : FoundById (known ∪ {.event (deletionKey user.hexId) stored}) userId user :=
    found.mono Set.subset_union_left
  cases stored with
  | some existing =>
      simp only
      split
      · rename_i failed
        refine rest _ _ Set.subset_union_left fun write member => ?_
        rw [OutboxEvent.mem_update member]
        exact .requeue kept (.inr rfl) failed
      · exact rest _ _ Set.subset_union_left fun _ none => (List.not_mem_nil none).elim
  | none =>
      simp only [newObjectId, now, await, Program.perform_bind, Program.call_bind,
        Program.pure_eq, Program.ret_bind]
      refine heedful_await trivial fun id => heedful_await trivial fun createdAt => ?_
      refine rest _ _ Set.subset_union_left fun write member => ?_
      rw [List.mem_singleton.mp member]
      exact .row id createdAt kept

/-- A deletion marks the record that it read and stages an event about it. -/
theorem deleteUser_heedful (userId : String) :
    Heedful (.deleteUser userId) (UsersService.deleteUser userId >>= fun _ =>
      (.ret .acknowledged : Handler Answer)) known := by
  simp only [UsersService.deleteUser, Program.bind_assoc]
  refine heedful_findById fun user later _ found => ?_
  simp only [now, await, Program.perform_bind]
  refine heedful_await trivial fun deletedAt => ?_
  refine stageOutboxEvent_heedful found fun staged last kept staging => ?_
  refine heedful_flush (fun write member => ?_) fun _ => trivial
  have origin : write ∈ staged.writes ∨ write ∈ user.update (softDeleted user deletedAt) := by
    split at member
    · exact List.mem_append.mp member
    · exact (List.mem_append.mp member).symm
  cases origin with
  | inl row => exact staging write row
  | inr own =>
      rw [User.mem_update own]
      exact .deletion deletedAt (found.mono kept)

/-- The dispatch of a batch heeds what its query has read: it stamps rows that were found,
after publishing them. The induction is on the rows. -/
theorem dispatch_heedful {α : Type} {batch rows : List OutboxEvent}
    {tally : OutboxDispatcher.SweepResult}
    {next : List Write × OutboxDispatcher.SweepResult → Handler α} (taken : .pending batch ∈ known)
    (within : rows ⊆ batch)
    (rest : ∀ writes result later, known ⊆ later →
      (∀ write ∈ writes, ComputedFrom later .sweep write) →
      Heedful .sweep (next (writes, result)) later) :
    Heedful .sweep (OutboxDispatcher.dispatch rows tally >>= next) known := by
  induction rows generalizing tally next known with
  | nil => exact rest _ _ _ subset_rfl fun _ none => (List.not_mem_nil none).elim
  | cons row rows ih =>
      obtain ⟨inside, others⟩ := List.cons_subset.mp within
      simp only [OutboxDispatcher.dispatch, now, await, Program.perform_bind, Program.call_bind,
        Program.bind_assoc]
      refine ⟨⟨batch, taken, row, inside, rfl, rfl, rfl⟩, fun outcome => ?_⟩
      refine heedful_await trivial fun at_ => ?_
      refine ih (.inl taken) others fun writes result later kept stamps =>
        rest _ _ later (Set.subset_union_left.trans kept) fun write member => ?_
      rcases List.mem_append.mp member with own | other
      · rw [OutboxEvent.mem_update own]
        exact .stamp at_ (kept (.inl taken)) inside (kept (.inr rfl))
      · exact stamps write other

/-- A sweep stamps rows that it has read. -/
theorem sweep_heedful : Heedful .sweep (OutboxDispatcher.sweep >>= fun result =>
    (.ret (.swept result) : Handler Answer)) known := by
  have answered : ∀ {α : Type} (reply : Except MongoError α),
      (ofReply reply).Only Command.Free := fun reply => Program.only_ofExcept _
  simp only [OutboxDispatcher.sweep, await, Program.perform_bind, Program.call_bind]
  refine heedful_await trivial fun begun => ?_
  split
  swap
  · trivial
  have swept : Heedful .sweep OutboxDispatcher.sweepPending known := by
    simp only [OutboxDispatcher.sweepPending, await, Program.perform_bind, Program.call_bind]
    refine ⟨trivial, fun reply => ?_⟩
    cases reply with
    | error error => trivial
    | ok pending =>
    simp only [ofReply_ok, Program.ret_bind]
    split
    · trivial
    refine dispatch_heedful (.inr rfl) (List.Subset.refl _) fun writes result _ _ stamps => ?_
    refine heedful_flush stamps fun _ => ?_
    refine heedful_await trivial fun _ => heedful_bind (answered _) fun _ => ?_
    exact heedful_await trivial fun _ => heedful_bind (answered _) fun _ => trivial
  simp only [Program.bind_assoc]
  have caught : Heedful .sweep (OutboxDispatcher.sweepPending.attempt : Handler _) known :=
    .attempt swept
  refine Program.Heeds.bind caught (fun _ _ _ => trivial) fun outcome later _ => ?_
  refine heedful_await trivial fun _ => heedful_bind (Program.only_ofExcept _) fun _ => trivial

/-- Every handler heeds what it has read: each of its writes is computed from earlier
replies. The cases are the operations. -/
theorem handle_heedful (operation : UserOperation) :
    Heedful operation (UsersController.handle operation) known := by
  cases operation with
  | createAutoregUser payload => exact createAutoregUser_heedful payload
  | login email password =>
      refine heedful_bind (.bind (findUser_only trivial) fun found => ?_) fun _ => trivial
      cases found with
      | none => trivial
      | some user =>
          simp only
          split <;> trivial
  | upgradeAccount userId payload => exact upgradeAccount_heedful userId payload
  | findOrCreateOAuthUser payload => exact findOrCreateOAuthUser_heedful payload
  | forgotPassword email => exact forgotPassword_heedful email
  | resetPassword token newPassword => exact resetPassword_heedful token newPassword
  | getUserById userId =>
      exact heedful_bind (findById_only (fun _ => trivial) userId) fun _ => trivial
  | getUserTokenVersion userId =>
      exact heedful_bind (.bind (findById_only (fun _ => trivial) userId) fun _ => trivial)
        fun _ => trivial
  | updateUser userId data => exact updateUser_heedful userId data
  | deleteUser userId => exact deleteUser_heedful userId
  | sweep => exact sweep_heedful

end Operations

/-! ## In the course of a run -/

section Run

variable (start : Backend) (labels : List ServiceLabel)

/-- The pool of a run before one of its positions, from a store without handlers. -/
abbrev standing (position : Nat) : ServicePool := userService.before ⟨start, []⟩ labels position

/-- At the position the thread queries for a user, and the database answers. -/
def ReadsAt (position index : Nat) (filter : UserFilter) (found : Option User) : Prop :=
  ∃ thread, userService.PerformsAt ⟨start, []⟩ labels position index thread (.findUser filter) ∧
    (standing start labels position).shared.databaseUp = true ∧
    (standing start labels position).shared.users.find? filter.accepts = found

/-- At the position the thread reads the document of the user. -/
def LoadsUser (position index : Nat) (id : ObjectId) : Prop :=
  ∃ filter user, ReadsAt start labels position index filter (some user) ∧ user.id = id

/-- At the position a thread's document write is applied. -/
def WritesAt (position index : Nat) (operation : UserOperation) (write : Write) : Prop :=
  ∃ thread at_, userService.PerformsAt ⟨start, []⟩ labels position index thread (.write write at_) ∧
    thread.operation = operation ∧ (standing start labels position).shared.Applies write

/-- At the position the thread gives the command of the reading, and is answered so. -/
def Reading.TakenAt (position index : Nat) : Reading → Prop
  | .user filter found => ReadsAt start labels position index filter found
  | .event idempotencyKey found => ∃ thread,
      userService.PerformsAt ⟨start, []⟩ labels position index thread
        (.findOutboxEvent idempotencyKey) ∧
      fetch OutboxEvent.idempotencyKey idempotencyKey
        (standing start labels position).shared.outbox = found
  | .pending rows => ∃ thread maxAttempts limit,
      userService.PerformsAt ⟨start, []⟩ labels position index thread
        (.findPendingOutbox maxAttempts limit) ∧
      (standing start labels position).shared.pendingOutbox maxAttempts limit = rows
  | .published row pattern payload outcome => ∃ thread,
      userService.PerformsAt ⟨start, []⟩ labels position index thread
        (.publishEvent row pattern payload) ∧
      (Backend.exec (.publishEvent row pattern payload)
        (standing start labels position).shared).2 = outcome

variable {start labels} {position index : Nat}

/-- What a thread has learnt it was told at an earlier position, in the state that stood
there. -/
theorem takenAt_of_learnt {reading : Reading}
    (known : reading ∈ userService.learnt reads ⟨start, []⟩ (labels.take position) index) :
    ∃ earlier < position, reading.TakenAt start labels earlier index := by
  obtain ⟨earlier, thread, command, before, performs, taught⟩ := System.mem_learnt_take known
  cases command with
  | findOutboxEvent idempotencyKey =>
      change reading ∈ reads.teaches (.findOutboxEvent idempotencyKey)
        (Backend.exec (.findOutboxEvent idempotencyKey) (standing start labels earlier).shared).2
          at taught
      simp only [Backend.exec, Backend.answer] at taught
      split at taught
      · cases taught
        exact ⟨earlier, before, thread, performs, rfl⟩
      · exact taught.elim
  | findPendingOutbox maxAttempts limit =>
      change reading ∈ reads.teaches (.findPendingOutbox maxAttempts limit)
        (Backend.exec (.findPendingOutbox maxAttempts limit)
          (standing start labels earlier).shared).2 at taught
      simp only [Backend.exec, Backend.answer] at taught
      split at taught
      · cases taught
        exact ⟨earlier, before, thread, maxAttempts, limit, performs, rfl⟩
      · exact taught.elim
  | publishEvent row pattern payload =>
      cases taught
      exact ⟨earlier, before, thread, performs, rfl⟩
  | findUser filter =>
      change reading ∈ reads.teaches (.findUser filter)
        (Backend.exec (.findUser filter) (standing start labels earlier).shared).2 at taught
      simp only [Backend.exec, Backend.answer] at taught
      split at taught
      · rename_i up
        cases taught
        exact ⟨earlier, before, thread, performs, up, rfl⟩
      · exact taught.elim
  | _ => exact (Set.notMem_empty _ taught).elim

/-- The user a thread has learnt of, one of its earlier queries has found. -/
theorem readsAt_of_learnt {filter : UserFilter} {found : Option User}
    (known : .user filter found ∈
      userService.learnt reads ⟨start, []⟩ (labels.take position) index) :
    ∃ earlier < position, ReadsAt start labels earlier index filter found :=
  takenAt_of_learnt known

/-- A query leaves the store as it is. -/
theorem ReadsAt.shared {filter : UserFilter} {found : Option User}
    (read : ReadsAt start labels position index filter found) :
    (standing start labels (position + 1)).shared = (standing start labels position).shared := by
  obtain ⟨thread, performs, _⟩ := read
  exact performs.shared

/-- The user a query has found is stored and satisfies the filter. -/
theorem ReadsAt.stored {filter : UserFilter} {user : User}
    (read : ReadsAt start labels position index filter (some user)) :
    user ∈ (standing start labels (position + 1)).shared.users ∧ filter.accepts user = true := by
  rw [read.shared]
  obtain ⟨_, _, _, found⟩ := read
  exact ⟨List.mem_of_find?_eq_some found, List.find?_some found⟩

/-- A write that counts as performed was accepted by the database. -/
theorem WritesAt.applies {operation : UserOperation} {write : Write}
    (writes : WritesAt start labels position index operation write) :
    (standing start labels position).shared.Applies write := by
  obtain ⟨_, _, _, _, applies⟩ := writes
  exact applies

/-- At a position one write is applied. -/
theorem WritesAt.unique {operation : UserOperation} {write : Write} {other : Nat}
    {thread : Thread UserOperation Command Reply ServiceError Answer} {command : Command}
    (writes : WritesAt start labels position index operation write)
    (performs : userService.PerformsAt ⟨start, []⟩ labels position other thread command) :
    other = index ∧ ∃ at_, command = .write write at_ := by
  obtain ⟨writer, at_, writing, _, _⟩ := writes
  obtain ⟨same, _, rfl⟩ := writing.unique performs
  exact ⟨same, at_, rfl⟩

/-- What a thread writes is computed from what it has learnt. -/
theorem WritesAt.computedFrom {operation : UserOperation} {write : Write}
    (writes : WritesAt start labels position index operation write) :
    ComputedFrom (userService.learnt reads ⟨start, []⟩ (labels.take position) index) operation
      write := by
  obtain ⟨thread, at_, performs, rfl, _⟩ := writes
  exact performs.presupposes rfl fun operation => handle_heedful operation

variable (start labels position) in
/-- Where the store at the next position comes from: users and outbox are as before, or a
write that applies was performed by a thread. -/
theorem standing_cases :
    ((standing start labels (position + 1)).shared.users =
        (standing start labels position).shared.users ∧
      (standing start labels (position + 1)).shared.outbox =
        (standing start labels position).shared.outbox) ∨
    ∃ index operation write at_, WritesAt start labels position index operation write ∧
      (standing start labels (position + 1)).shared =
        (standing start labels position).shared.stored at_ write := by
  rcases userService.before_shared_cases ⟨start, []⟩ labels position with
    same | ⟨index, thread, command, performs⟩ | ⟨event, same⟩
  · exact .inl ⟨congrArg Backend.users same, congrArg Backend.outbox same⟩
  · have shared := performs.shared
    have presupposed : reads.presupposes thread.operation command _ :=
      performs.presupposes rfl fun operation => handle_heedful operation
    cases command with
    | write write at_ =>
        by_cases applies : (standing start labels position).shared.Applies write
        · refine .inr ⟨index, thread.operation, write, at_,
            ⟨thread, at_, performs, rfl, applies⟩, ?_⟩
          exact shared.trans (congrArg Prod.fst (Backend.exec_write_of_applies applies at_))
        · have same := shared.trans (Backend.exec_write_of_not_applies applies at_)
          exact .inl ⟨congrArg Backend.users same, congrArg Backend.outbox same⟩
    | deleteUser id => exact presupposed.elim
    | _ =>
        rw [shared]
        exact .inl (Command.Plain.frame (by trivial) _)
  · rw [show (standing start labels (position + 1)).shared = _ from same]
    exact .inl (environment_frame event _)

variable (start labels position) in
/-- From one position to the next the users change by one accepted write at most. -/
theorem standing_users_cases :
    (standing start labels (position + 1)).shared.users =
      (standing start labels position).shared.users ∨
    ∃ index operation write at_, WritesAt start labels position index operation write ∧
      (standing start labels (position + 1)).shared =
        (standing start labels position).shared.stored at_ write :=
  (standing_cases start labels position).imp_left And.left

/-- The ids of the stored users stay distinct. -/
theorem standing_distinct (distinct : DistinctIds start) (position : Nat) :
    DistinctIds (standing start labels position).shared := by
  induction position with
  | zero => exact distinct
  | succ position ih =>
      rcases standing_users_cases start labels position with
        same | ⟨_, _, write, at_, ⟨_, _, _, _, applies⟩, stored⟩
      · rw [DistinctIds, same]
        exact ih
      · rw [stored]
        exact ih.stored applies at_

/-- Each write of a run is a command of a message that was sent in its course. -/
theorem WritesAt.spawned {operation : UserOperation} {write : Write}
    (writes : WritesAt start labels position index operation write) :
    .spawn operation ∈ labels := by
  obtain ⟨thread, _, performs, rfl, _⟩ := writes
  exact System.spawned_of_get rfl performs.2.1

/-- Between two positions users are carried along a relation that each update in between
respects. -/
theorem carried_between {related : User → User → Prop} (refl : ∀ user, related user user)
    (trans : ∀ {a b c}, related a b → related b c → related a c) {first last : Nat}
    (order : first ≤ last)
    (updated : ∀ position, first ≤ position → position < last → ∀ index operation id changes at_,
      WritesAt start labels position index operation (.updateUser id changes) →
      ∀ user ∈ (standing start labels position).shared.users, user.id = id →
        related user (user.apply changes at_)) :
    Carried related (standing start labels first).shared (standing start labels last).shared := by
  induction last, order using Nat.le_induction with
  | base => exact .of_users_eq refl rfl
  | succ last order ih =>
      refine .trans trans (ih fun position from_ below => updated position from_
        (Nat.lt_succ_of_lt below)) ?_
      rcases standing_users_cases start labels last with
        same | ⟨index, operation, write, at_, writes, stored⟩
      · exact .of_users_eq refl same
      · rw [stored]
        refine .stored refl write at_ ?_
        rintro id changes rfl
        exact updated last order (Nat.lt_succ_self last) index operation id changes at_ writes

end Run

end Reads

end NestMonorepo
