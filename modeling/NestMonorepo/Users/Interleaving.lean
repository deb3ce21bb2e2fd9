import NestMonorepo.Users.Service

/-! # What the handlers do when they interleave

Whatever runs between two of its commands, a handler only ever issues a few
kinds of writes, each computed from documents it read earlier (`WriteOf`), and
hands out identities whose token version it read or wrote (`Minted`). Both are
established once, for every contract that is `Tame`; what a property of the
service needs in addition is what such writes do to the store.
-/

namespace NestMonorepo

open Collections Concurrency Handler UsersService

/-! ## Identities -/

/-- The identity for which the gateway mints a token pair on an answer: the
subject and the token version. -/
def issued : UserOperation → Answer → Option (String × Nat)
  | _, .autoreg result => some (result.id, result.tokenVersion)
  | _, .identity result => some (result.id, result.tokenVersion)
  | .upgradeAccount userId _, .upgraded user => some (userId, user.tokenVersion)
  | .getUserTokenVersion userId, .tokenVersion tokenVersion => some (userId, tokenVersion)
  | _, _ => none

/-- A contract of the user service. -/
abbrev ServiceContract : Type := Contract Command Backend

variable [Libraries]

/-! ## The commands handlers perform -/

omit [Libraries] in
/-- A flush with the email guard performs the flush's own writes and its clock reading, and
nothing else. -/
theorem flushEmail_only {allowed : Command → Prop} {writes : List Write} (timed : allowed .now)
    (permitted : ∀ write ∈ writes, ∀ at_, allowed (.write write at_)) :
    (flushEmail writes).Only allowed := by
  refine .bind (.attempt (flush_only timed permitted)) fun outcome => ?_
  cases outcome with
  | ok at_ => trivial
  | error error =>
      cases error with
      | mongo error =>
          simp only
          split <;> trivial
      | _ => trivial

/-- A lookup by id performs only the lookup of a user. -/
theorem findById_only {allowed : Command → Prop} (permitted : ∀ filter, allowed (.findUser filter))
    (userId : String) : (findById userId).Only allowed := by
  unfold findById
  split
  · trivial
  · refine .bind (findUser_only (permitted _)) fun found => ?_
    cases found with
    | none => trivial
    | some user =>
        simp only
        split <;> trivial

omit [Libraries] in
/-- A command other than a document write. -/
def Command.WritesNothing : Command → Prop
  | .write _ _ => False
  | _ => True

/-- The computation of the new credentials writes nothing: it looks up an account and hashes
a password. -/
theorem upgradeCredentials_only (userId : String) (user : User) (payload : UpgradePayload) :
    (upgradeCredentials userId user payload).Only Command.WritesNothing := by
  have linked : ∀ provider providerUserId, (upgradeCredentials.link user payload provider
      providerUserId).Only Command.WritesNothing := fun provider providerUserId =>
    .bind (Program.only_perform trivial) fun _ => trivial
  unfold upgradeCredentials
  split
  · split
    · refine .bind (findUser_only trivial) fun other => ?_
      split
      · trivial
      · exact .bind (hashPassword_only trivial) fun _ => trivial
    · trivial
  · split
    · trivial
    · refine .bind (findUser_only trivial) fun clash => ?_
      cases clash with
      | none => exact linked _ _
      | some clash =>
          simp only
          split
          · trivial
          · exact linked _ _

/-! ## Grounds of a write -/

/-- The row `deleteUser` stages for a user. -/
def OutboxEvent.Announces (row : OutboxEvent) (user : User) : Prop :=
  row.idempotencyKey = deletionKey user.hexId

/-- The copies of a loaded user that `upgradeAccount` goes on with once the
method's own checks have passed. -/
inductive Credentials (payload : UpgradePayload) (user : User) : User → Prop
  | password {email : String} (passwordHash : String) : payload.method = .email →
      truthy payload.email = some email → Credentials payload user
        (withPassword user email passwordHash)
  | link {provider : OAuthProvider} {providerUserId : String} (linkedAt : Millis) :
      payload.method = .oauth provider → truthy payload.providerUserId = some providerUserId →
      Credentials payload user (withLink user provider providerUserId payload.email linkedAt)

omit [Libraries] in
/-- The new credentials leave the token version alone. -/
theorem Credentials.tokenVersion {payload : UpgradePayload} {user current : User}
    (credentials : Credentials payload user current) :
    current.tokenVersion = user.tokenVersion := by
  cases credentials <;> rfl

omit [Libraries] in
/-- The new credentials leave a pending reset token alone. -/
theorem Credentials.resetPasswordToken {payload : UpgradePayload} {user current : User}
    (credentials : Credentials payload user current) :
    current.resetPasswordToken = user.resetPasswordToken := by
  cases credentials <;> rfl

omit [Libraries] in
/-- The new credentials do not touch the deletion mark. -/
theorem Credentials.deletedAt {payload : UpgradePayload} {user current : User}
    (credentials : Credentials payload user current) : current.deletedAt = user.deletedAt := by
  cases credentials <;> rfl

/-- `WriteOf contract operation read write after`: having read the store `read`,
the operation issues `write`; if that is accepted, it goes on to perform
`after`. -/
inductive WriteOf (contract : ServiceContract) :
    UserOperation → Backend → Write → Option Command → Prop
  | seenAgain {payload read after} (existing : Device) (lastSeenAt : Millis) :
      WriteOf contract (.createAutoregUser payload) read
        (.updateDevice existing.id (existing.changes (seenAgain existing payload lastSeenAt))) after
  | autoregUser {payload read after} (id : ObjectId) (createdAt : Millis) :
      WriteOf contract (.createAutoregUser payload) read
        (.insertUser (autoregUser id createdAt)) after
  | autoregDevice {payload read after} (id userId : ObjectId) (createdAt : Millis) :
      WriteOf contract (.createAutoregUser payload) read
        (.insertDevice (autoregDevice payload id userId createdAt)) after
  | upgrade {userId payload read after} {loaded current : User} (upgradedAt : Millis) :
      loaded ∈ read.users → loaded.Live → Libraries.ofHexString userId = some loaded.id →
      loaded.accountType = .autoreg → Credentials payload loaded current →
      WriteOf contract (.upgradeAccount userId payload) read
        (.updateUser loaded.id (loaded.changes (upgraded current payload upgradedAt))) after
  | merge {payload read after} {loaded : User} {email : String} (linkedAt : Millis) :
      loaded ∈ read.users → loaded.Live → loaded.email = some email →
      payload.mergeEmail = some email →
      WriteOf contract (.findOrCreateOAuthUser payload) read
        (.updateUser loaded.id (loaded.changes (merged loaded payload linkedAt))) after
  | oauthUser {payload read after} (id : ObjectId) (createdAt : Millis) :
      WriteOf contract (.findOrCreateOAuthUser payload) read
        (.insertUser (oauthUser payload id createdAt)) after
  | resetRequest {email read after} {loaded : User} (token : String) (requestedAt : Millis) :
      loaded ∈ read.users → loaded.Live → loaded.email = some email →
      WriteOf contract (.forgotPassword email) read
        (.updateUser loaded.id (loaded.changes (resetRequested loaded token requestedAt))) after
  | reset {token newPassword read after} {loaded : User} (passwordHash : String) :
      loaded ∈ read.users → loaded.Live →
      loaded.resetPasswordToken = some (hashResetToken token) →
      WriteOf contract (.resetPassword token newPassword) read
        (.updateUser loaded.id (loaded.changes (passwordReset loaded passwordHash))) after
  | profile {userId data read after} {loaded : User} : loaded ∈ read.users → loaded.Live →
      WriteOf contract (.updateUser userId data) read
        (.updateUser loaded.id (loaded.changes (data.applyTo loaded))) after
  /-- The user write of a deletion, when the event's row is stored already. -/
  | deletionStaged {userId read after} {loaded : User} {row : OutboxEvent}
      (deletedAt : Millis) : loaded.Live → (∃ stored ∈ read.users, stored.id = loaded.id) →
      Libraries.ofHexString userId = some loaded.id → row ∈ read.outbox → row.Announces loaded →
      WriteOf contract (.deleteUser userId) read
        (.updateUser loaded.id (loaded.changes (softDeleted loaded deletedAt))) after
  /-- The user write of a deletion that inserts the event's row next. -/
  | deletionBeforeRow {userId read now} {loaded : User} {row : OutboxEvent}
      (deletedAt : Millis) : Libraries.outboxFirst = false → loaded ∈ read.users →
      loaded.Live → Libraries.ofHexString userId = some loaded.id → row.Announces loaded →
      WriteOf contract (.deleteUser userId) read
        (.updateUser loaded.id (loaded.changes (softDeleted loaded deletedAt)))
        (some (.write (.insertOutbox row) now))
  /-- The row of a deletion that writes the user next. -/
  | rowBeforeDeletion {userId read now} {loaded : User} {row : OutboxEvent}
      (deletedAt : Millis) : Libraries.outboxFirst = true → loaded ∈ read.users → loaded.Live →
      Libraries.ofHexString userId = some loaded.id → row.Announces loaded →
      row.status = .pending →
      WriteOf contract (.deleteUser userId) read (.insertOutbox row)
        (some (.write (.updateUser loaded.id (loaded.changes (softDeleted loaded deletedAt)))
          now))
  /-- The row of a deletion whose user write is done. -/
  | rowAfterDeletion {userId read after} {deleted : User} {row : OutboxEvent} :
      Libraries.outboxFirst = false → deleted ∈ read.users → ¬deleted.Live →
      Libraries.ofHexString userId = some deleted.id → row.Announces deleted →
      row.status = .pending →
      WriteOf contract (.deleteUser userId) read (.insertOutbox row) after
  /-- A given-up deletion event put back in the queue. -/
  | requeue {userId read after} (existing : OutboxEvent) (payload : Payload) :
      WriteOf contract (.deleteUser userId) read
        (.updateOutbox existing.id (existing.changes (existing.requeue payload))) after
  /-- The stamp on a row whose publication was attempted in `read`. -/
  | stamp {read after} (row : OutboxEvent) (at_ : Millis) :
      contract.permitted (.publishEvent row.id row.pattern row.payload) read →
      WriteOf contract .sweep
        (Backend.exec (.publishEvent row.id row.pattern row.payload) read).1
        (.updateOutbox row.id (row.changes (OutboxDispatcher.attempted row at_
          (Backend.exec (.publishEvent row.id row.pattern row.payload) read).2))) after

/-- The token version of `subject` was `tokenVersion` in a store. -/
def Minted (store : Backend) (subject : String) (tokenVersion : Nat) : Prop :=
  ∃ user ∈ store.users, Libraries.ofHexString subject = some user.id ∧
    user.tokenVersion = tokenVersion

/-- A write the operation issues on the strength of a store it read earlier. -/
def Grounded (contract : ServiceContract) (operation : UserOperation) (write : Write)
    (after : Option Command) (store : Backend) : Prop :=
  ∃ read, contract.rely read store ∧ contract.keeps read ∧
    WriteOf contract operation read write after

/-- At a command: writes are grounded, and no user is removed. -/
def Issues (contract : ServiceContract) (operation : UserOperation) {α : Type} :
    CallAssertion Command Reply ServiceError α Backend
  | .write write _, next, store => Grounded contract operation write (next (.ok ())).pending store
  | .deleteUser _, _, _ => False
  | _, _, _ => True

/-- At the end: an identity handed out had its token version in an earlier
store. -/
def Hands (contract : ServiceContract) (operation : UserOperation) (answer : Answer)
    (store : Backend) : Prop :=
  ∀ subject tokenVersion, issued operation answer = some (subject, tokenVersion) →
    ∃ read, contract.rely read store ∧ contract.keeps read ∧ Minted read subject tokenVersion

/-- What an operation knows of an account it hands out. -/
def Entered : UserOperation → User → Prop
  | .createAutoregUser _, user => user.accountType = .autoreg
  | .login email _, user => user.email = some email
  | .upgradeAccount _ _, user => user.accountType = .user
  | .findOrCreateOAuthUser _, user =>
      user.accountType = .user ∨ user.email ≠ none ∨ user.oauthLinks ≠ []
  | .getUserTokenVersion _, user => user.Live
  | _, _ => True

/-- The account of `subject` as the operation found it in a store. -/
def Found (operation : UserOperation) (store : Backend) (subject : String) (tokenVersion : Nat) :
    Prop :=
  ∃ user ∈ store.users, Libraries.ofHexString subject = some user.id ∧
    user.tokenVersion = tokenVersion ∧ Entered operation user

/-- At the end: an identity handed out was found so in an earlier store. -/
def Enters (contract : ServiceContract) (operation : UserOperation) (answer : Answer)
    (store : Backend) : Prop :=
  ∀ subject tokenVersion, issued operation answer = some (subject, tokenVersion) →
    ∃ read, contract.rely read store ∧ contract.keeps read ∧
      Found operation read subject tokenVersion

/-- An account handed out as an operation found it was minted from an earlier store, with
the token version it had there. -/
theorem Enters.hands {contract : ServiceContract} {operation : UserOperation} {answer : Answer}
    {store : Backend} (enters : Enters contract operation answer store) :
    Hands contract operation answer store := by
  intro subject tokenVersion identity
  obtain ⟨read, moved, kept, user, member, parsed, version, _⟩ :=
    enters subject tokenVersion identity
  exact ⟨read, moved, kept, user, member, parsed, version⟩

/-- A condition on returned values; a thrown error needs none. -/
def OnReturn {α : Type} (post : α → Backend → Prop) : Except ServiceError α → Backend → Prop
  | .ok value, store => post value store
  | .error _, _ => True

/-! ## Tame contracts -/

/-- The commands of message handlers other than document writes. -/
def Command.Plain : Command → Prop
  | .write _ _ => False
  | .deleteUser _ => False
  | _ => True

/-- Plain commands write neither users nor outbox rows. -/
theorem Command.Plain.frame {command : Command} (plain : command.Plain) (store : Backend) :
    (Backend.exec command store).1.users = store.users ∧
      (Backend.exec command store).1.outbox = store.outbox := by
  have effect := Backend.exec_effect command store
  generalize (Backend.exec command store).1 = after at effect ⊢
  cases effect with
  | stored | deletedUser => exact plain.elim
  | _ => exact ⟨rfl, rfl⟩

omit [Libraries] in
/-- The environment writes neither users nor outbox rows. -/
theorem environment_frame (event : Backend.Event) (store : Backend) :
    (Backend.environment event store).users = store.users ∧
      (Backend.environment event store).outbox = store.outbox := by
  cases event <;> exact ⟨rfl, rfl⟩

/-- A contract that plain commands respect, and grounded writes as well. -/
structure Tame (contract : ServiceContract) : Prop where
  persist : ∀ {read store}, contract.rely read store → ∀ user ∈ read.users,
    ∃ stored ∈ store.users, stored.id = user.id
  plain : ∀ command store, command.Plain → contract.permitted command store →
    contract.keeps store → contract.keeps (Backend.exec command store).1 ∧
      contract.rely store (Backend.exec command store).1
  writes : ∀ {operation write now after store}, Grounded contract operation write after store →
    contract.permitted (.write write now) store → contract.keeps store →
    store.Applies write →
    contract.keeps (store.stored now write) ∧ contract.rely store (store.stored now write)

/-- A part of the given operation whose writes are grounded and whose returned
value satisfies `post`. -/
def Valid (contract : ServiceContract) (operation : UserOperation) {β : Type}
    (post : β → Backend → Prop) (program : Handler β) (store : Backend) : Prop :=
  program.Always Backend.exec contract (Issues contract operation) (OnReturn post) store

section Rules

variable {contract : ServiceContract} {operation : UserOperation} {store : Backend} {α β : Type}
  {post : β → Backend → Prop}

/-- A failing operation owes the contract nothing. -/
theorem valid_fail (error : ServiceError) :
    Valid contract operation post (.fail error) store := fun _ _ _ => trivial

/-- What is valid from a store is valid from every later store the contract's environment
may lead to. -/
theorem Valid.of_rely {program : Handler β} {later : Backend}
    (valid : Valid contract operation post program store) (moved : contract.rely store later) :
    Valid contract operation post program later :=
  Program.Always.of_rely valid moved

/-- An answer that hands out no identity needs no justification. -/
theorem valid_ret_of_none {answer : Answer} (unissued : issued operation answer = none) :
    Valid contract operation (Enters contract operation) (.ret answer) store := by
  intro later _ _ subject tokenVersion handed
  rw [unissued] at handed
  cases handed

variable (operation) in
/-- An identity may be handed out once the account has been found so. -/
theorem valid_ret_of_found (answer : Answer) {subject : String} {tokenVersion : Nat}
    (identity : issued operation answer = some (subject, tokenVersion))
    (kept : contract.keeps store) (found : Found operation store subject tokenVersion) :
    Valid contract operation (Enters contract operation) (.ret answer) store := by
  intro later moved _ subject' tokenVersion' handed
  rw [identity] at handed
  cases handed
  exact ⟨store, moved, kept, found⟩

variable (tame : Tame contract)
include tame

/-- A plain command: the rest is valid wherever it leaves the store. -/
theorem valid_call {command : Command} {next : Reply command → Handler β}
    (plain : command.Plain)
    (rest : ∀ later, contract.rely store later → contract.keeps later →
      contract.permitted command later → contract.keeps (Backend.exec command later).1 →
      contract.rely later (Backend.exec command later).1 →
      Valid contract operation post (next (Backend.exec command later).2)
        (Backend.exec command later).1) :
    Valid contract operation post (.call command next) store := by
  intro later moved kept
  refine ⟨?_, fun granted => ?_⟩
  · cases command with
    | write write now => exact plain.elim
    | deleteUser id => exact plain.elim
    | _ => trivial
  · obtain ⟨keeps, relies⟩ := tame.plain command later plain granted kept
    exact ⟨keeps, relies, rest later moved kept granted keeps relies⟩

/-- A plain command whose answer does not matter. -/
theorem valid_await {command : Command} {next : Reply command → Handler β}
    (plain : command.Plain)
    (rest : ∀ answer later, contract.rely store later → contract.keeps later →
      Valid contract operation post (next answer) later) :
    Valid contract operation post (.call command next) store :=
  valid_call tame plain fun _ moved _ _ keeps relies =>
    rest _ _ (contract.trans moved relies) keeps

omit tame in
/-- Continue with what the database answers. -/
theorem valid_ofReply {value : α} {next : α → Handler β}
    (rest : Valid contract operation post (next value) store) :
    Valid contract operation post (ofReply (store.answer value) >>= next) store := by
  unfold Backend.answer
  cases store.databaseUp with
  | true => exact rest
  | false => exact valid_fail _

/-- After a lookup of a user the rest has to be valid with whatever user is found in any
later store the environment leads to. -/
theorem valid_findUser {filter : UserFilter} {next : Option User → Handler β}
    (rest : ∀ later, contract.rely store later → contract.keeps later →
      Valid contract operation post (next (later.users.find? filter.accepts)) later) :
    Valid contract operation post (findUser filter >>= next) store :=
  valid_call tame (trivial : (Command.findUser filter).Plain) fun later moved kept _ _ _ =>
    valid_ofReply (rest later moved kept)

/-- After a lookup of a device the rest has to be valid for every device found. -/
theorem valid_findDevice {fingerprint : String} {next : Option Device → Handler β}
    (rest : ∀ device later, contract.rely store later → contract.keeps later →
      Valid contract operation post (next device) later) :
    Valid contract operation post (findDevice fingerprint >>= next) store :=
  valid_call tame (trivial : (Command.findDevice fingerprint).Plain) fun later moved kept _ _ _ =>
    valid_ofReply (rest _ later moved kept)

/-- After a lookup in the outbox the rest has to be valid for the event stored at that later
moment. -/
theorem valid_findOutboxEvent {idempotencyKey : String}
    {next : Option OutboxEvent → Handler β}
    (rest : ∀ later, contract.rely store later → contract.keeps later →
      Valid contract operation post
        (next (fetch OutboxEvent.idempotencyKey idempotencyKey later.outbox)) later) :
    Valid contract operation post (findOutboxEvent idempotencyKey >>= next) store :=
  valid_call tame (trivial : (Command.findOutboxEvent idempotencyKey).Plain)
    fun later moved kept _ _ _ => valid_ofReply (rest later moved kept)

/-- A native deletion of devices is no user write, so only the rest has to be valid. -/
theorem valid_nativeDeleteDevices {filter : DeviceFilter} {next : Unit → Handler β}
    (rest : ∀ later, contract.rely store later → contract.keeps later →
      Valid contract operation post (next ()) later) :
    Valid contract operation post (nativeDeleteDevices filter >>= next) store := by
  refine valid_await tame (trivial : (Command.deleteDevices filter).Plain)
    fun answer later moved kept => ?_
  cases answer with
  | ok _ => exact rest later moved kept
  | error _ => exact valid_fail _

/-- Hashing is no store access, so only the rest has to be valid, for every hash. -/
theorem valid_hashPassword {password : String} {next : String → Handler β}
    (rest : ∀ passwordHash later, contract.rely store later → contract.keeps later →
      Valid contract operation post (next passwordHash) later) :
    Valid contract operation post (hashPassword password >>= next) store := by
  refine valid_await tame (trivial : (Command.argon2Hash password).Plain)
    fun answer later moved kept => ?_
  cases answer with
  | ok passwordHash => exact rest passwordHash later moved kept
  | error _ => exact valid_fail _

/-- A lookup by id goes on with a live stored user of the id, as of some later store, or
fails. -/
theorem valid_findById {userId : String} {next : User → Handler β}
    (rest : ∀ user later, contract.rely store later → contract.keeps later →
      Libraries.ofHexString userId = some user.id → user ∈ later.users → user.Live →
      Valid contract operation post (next user) later) :
    Valid contract operation post (findById userId >>= next) store := by
  unfold findById
  cases parsed : Libraries.ofHexString userId with
  | none => exact valid_fail _
  | some id =>
      simp only [Program.bind_assoc]
      refine valid_findUser tame fun later moved kept => ?_
      cases found : later.users.find? (UserFilter.byId id).accepts with
      | none => exact valid_fail _
      | some user =>
          by_cases live : user.deletedAt = none
          · simp only [live, Option.isSome_none, Bool.false_eq_true, ↓reduceIte, Program.pure_eq,
              Program.ret_bind]
            have accepted : (UserFilter.byId id).accepts user = true := List.find?_some found
            have same : user.id = id := of_decide_eq_true accepted
            exact rest user later moved kept (parsed.trans (congrArg some same.symm))
              (List.mem_of_find?_eq_some found) live
          · simp only [Option.isSome_iff_ne_none.mpr live, ↓reduceIte]
            exact valid_fail _

/-! ### Writes -/

omit tame in
/-- A write may be computed from the present store. -/
theorem Grounded.here {write : Write} {after : Option Command} (kept : contract.keeps store)
    (issues : WriteOf contract operation store write after) :
    Grounded contract operation write after store :=
  ⟨store, contract.refl store, kept, issues⟩

omit tame in
/-- A write that was grounded in what its operation read stays so while the environment
steps. -/
theorem Grounded.of_rely {write : Write} {after : Option Command} {later : Backend}
    (grounded : Grounded contract operation write after store)
    (moved : contract.rely store later) : Grounded contract operation write after later := by
  obtain ⟨read, relied, kept, issued⟩ := grounded
  exact ⟨read, contract.trans relied moved, kept, issued⟩

/-- A document write: what follows is valid wherever it was refused and
wherever it was stored. -/
theorem valid_call_write {write : Write} {now : Millis}
    {next : Except MongoError Unit → Handler β}
    (grounded : Grounded contract operation write (next (.ok ())).pending store)
    (refused : ∀ error later, contract.rely store later → contract.keeps later →
      Valid contract operation post (next (.error error)) later)
    (accepted : ∀ later, contract.rely store later → contract.keeps later →
      later.violation write = none → contract.keeps (later.stored now write) →
      contract.rely later (later.stored now write) →
      Valid contract operation post (next (.ok ())) (later.stored now write)) :
    Valid contract operation post (.call (.write write now) next) store := by
  intro later moved kept
  refine ⟨grounded.of_rely moved, fun granted => ?_⟩
  cases up : later.databaseUp with
  | false =>
      simp only [Backend.exec, up, Bool.false_eq_true, ↓reduceIte]
      exact ⟨kept, contract.refl later, refused _ later moved kept⟩
  | true =>
      cases violated : later.violation write with
      | some error =>
          simp only [Backend.exec, up, ↓reduceIte, Backend.write_of_violation violated]
          exact ⟨kept, contract.refl later, refused _ later moved kept⟩
      | none =>
          obtain ⟨keeps, relies⟩ := tame.writes (grounded.of_rely moved) granted kept
            ⟨up, violated⟩
          simp only [Backend.exec, up, ↓reduceIte, Backend.write_of_none violated]
          exact ⟨keeps, relies, accepted later moved kept violated keeps relies⟩

/-- One write of a flush: the rest is valid wherever it has been stored. -/
theorem valid_write {write : Write} {now : Millis} {rest : List Write}
    {next : Unit → Handler β}
    (grounded : Grounded contract operation write (writeAll now rest >>= next).pending store)
    (accepted : ∀ later, contract.rely store later → contract.keeps later →
      later.violation write = none → contract.keeps (later.stored now write) →
      contract.rely later (later.stored now write) →
      Valid contract operation post (writeAll now rest >>= next) (later.stored now write)) :
    Valid contract operation post (writeAll now (write :: rest) >>= next) store := by
  rw [writeAll_cons_bind]
  exact valid_call_write tame grounded (fun _ _ _ _ => valid_fail _) accepted

/-- Writes grounded whatever follows them. -/
theorem valid_writeAll {writes : List Write} {now : Millis} {next : Unit → Handler β}
    (kept : contract.keeps store)
    (grounded : ∀ write ∈ writes, ∀ after, Grounded contract operation write after store)
    (rest : ∀ later, contract.rely store later → contract.keeps later →
      Valid contract operation post (next ()) later) :
    Valid contract operation post (writeAll now writes >>= next) store := by
  induction writes generalizing store with
  | nil => exact rest store (contract.refl store) kept
  | cons write writes ih =>
      refine valid_write tame (grounded write List.mem_cons_self _)
        fun later moved _ _ keeps relies => ?_
      have reached := contract.trans moved relies
      exact ih keeps
        (fun other member after => (grounded other (List.mem_cons_of_mem _ member) after).of_rely
          reached)
        fun last further => rest last (contract.trans reached further)

/-- A flush is valid where each of its writes is grounded and what follows the flush is
valid, whatever time the flush was stamped with. -/
theorem valid_flush {writes : List Write} {next : Millis → Handler β}
    (grounded : ∀ write ∈ writes, ∀ after, Grounded contract operation write after store)
    (rest : ∀ at_ later, contract.rely store later → contract.keeps later →
      Valid contract operation post (next at_) later) :
    Valid contract operation post (flush writes >>= next) store := by
  rw [flush_bind]
  refine valid_await tame trivial fun at_ later moved kept => ?_
  exact valid_writeAll tame kept
    (fun write member after => (grounded write member after).of_rely moved)
    fun last further => rest at_ last (contract.trans moved further)

/-- `flushEmail` of one write: what follows is valid wherever it was stored. -/
theorem valid_flushEmail {write : Write} {next : Millis → Handler β}
    (grounded : ∀ after, Grounded contract operation write after store)
    (accepted : ∀ at_ later, contract.rely store later → contract.keeps later →
      later.violation write = none → contract.keeps (later.stored at_ write) →
      contract.rely later (later.stored at_ write) →
      Valid contract operation post (next at_) (later.stored at_ write)) :
    Valid contract operation post (flushEmail [write] >>= next) store := by
  simp only [flushEmail, flush, now, await, writeAll, Program.perform_bind, Program.call_bind,
    Program.bind_assoc, Program.pure_eq, Program.ret_bind, Program.attempt_call]
  refine valid_await tame trivial fun at_ later moved _ => ?_
  refine valid_call_write tame ((grounded _).of_rely moved) (fun error last _ _ => ?_)
    fun last further keeps clean stillKeeps relies =>
      accepted at_ last (contract.trans moved further) keeps clean stillKeeps relies
  simp only [ofReply_error, Program.fail_bind, Program.attempt_fail, Program.ret_bind]
  split
  · exact valid_fail _
  · exact valid_fail _

end Rules

end NestMonorepo
