import NestMonorepo.Users.Alike
import NestMonorepo.Users.Passwordless
import NestMonorepo.Users.Profiles

/-! # Every handler, side by side

In two stores that differ in credentials only, and that agree on whom the message
authenticates, every message handler ends alike.
-/

namespace NestMonorepo

open Collections Concurrency Handler UsersService

section Handlers

variable [Libraries] {first second : Backend}

/-! ## What both stores find -/

omit [Libraries] in
/-- A filter that does not look at credentials finds the same record in both. -/
theorem Alike.found (alike : Alike first second) (filter : UserFilter)
    (blind : ∀ user : User, filter.accepts user.masked = filter.accepts user) :
    (first.users.find? filter.accepts).map User.masked =
      (second.users.find? filter.accepts).map User.masked := by
  have users : first.users.map User.masked = second.users.map User.masked :=
    (congrArg Backend.users alike :)
  have masked : ∀ users : List User, (users.find? filter.accepts).map User.masked =
      (users.map User.masked).find? filter.accepts := by
    intro users
    have same : filter.accepts ∘ User.masked = filter.accepts := funext blind
    rw [List.find?_map, same]
  rw [masked, masked, users]

omit [Libraries] in
/-- Both stores hold the record, credentials apart, or neither does. -/
theorem Alike.found_cases (alike : Alike first second) (filter : UserFilter)
    (blind : ∀ user : User, filter.accepts user.masked = filter.accepts user) :
    (first.users.find? filter.accepts = none ∧ second.users.find? filter.accepts = none) ∨
    ∃ user user', first.users.find? filter.accepts = some user ∧
      second.users.find? filter.accepts = some user' ∧ user.masked = user'.masked := by
  have found := alike.found filter blind
  cases left : first.users.find? filter.accepts with
  | none =>
      rw [left, Option.map_none] at found
      exact .inl ⟨rfl, Option.map_eq_none_iff.mp found.symm⟩
  | some user =>
      rw [left, Option.map_some] at found
      obtain ⟨user', right, same⟩ := Option.map_eq_some_iff.mp found.symm
      exact .inr ⟨user, user', rfl, right, same.symm⟩

omit [Libraries] in
/-- Records of one id are the same, credentials apart. -/
theorem Alike.same_of_id (alike : Alike first second) (distinct : DistinctIds second)
    {user user' : User} (member : user ∈ first.users)
    (member' : user' ∈ second.users) (named : user'.id = user.id) :
    user.masked = user'.masked := by
  have users : first.users.map User.masked = second.users.map User.masked :=
    (congrArg Backend.users alike :)
  have inside : user.masked ∈ second.users.map User.masked := by
    rw [← users]
    exact List.mem_map_of_mem member
  obtain ⟨twin, present, same⟩ := List.mem_map.mp inside
  have ids : twin.id = user.id := (congrArg User.id same :)
  rw [← same, distinct.unique present member' (ids.trans named.symm)]

/-- Reading a live user by its id keeps two runs in step: both find records that differ in
what is masked at most. -/
theorem agrees_findById {β : Type} (alike : Alike first second) (userId : String)
    {next other : User → Handler β}
    (rest : ∀ user user', first.databaseUp = true → user ∈ first.users → user' ∈ second.users →
      Libraries.ofHexString userId = some user.id → user.Live → user.masked = user'.masked →
        Agrees first second (next user) (other user')) :
    Agrees first second (findById userId >>= next) (findById userId >>= other) := by
  unfold findById
  cases parsed : Libraries.ofHexString userId with
  | none => exact agrees_other _
  | some id =>
      simp only [Program.bind_assoc]
      apply agrees_findUser alike
      intro up
      rcases alike.found_cases (.byId id) (fun _ => rfl) with
        ⟨left, right⟩ | ⟨user, user', left, right, same⟩
      · rw [left, right]
        exact agrees_throw rfl
      · rw [left, right]
        have live : user.deletedAt = user'.deletedAt := (congrArg User.deletedAt same :)
        have accepted : (UserFilter.byId id).accepts user = true := List.find?_some left
        have named : user.id = id := of_decide_eq_true accepted
        cases gone : user.deletedAt with
        | some at_ =>
            simp only [gone, ← live, Option.isSome_some, ↓reduceIte]
            exact agrees_throw rfl
        | none =>
            simp only [gone, ← live, Option.isSome_none, Bool.false_eq_true, ↓reduceIte,
              Program.pure_eq, Program.ret_bind]
            exact rest user user' up (List.mem_of_find?_eq_some left)
              (List.mem_of_find?_eq_some right) (parsed.trans (congrArg some named.symm)) gone same

/-! ## Whom a message authenticates -/

/-- The record that the secret in a message gives access to. -/
def authenticates : UserOperation → Backend → Option ObjectId
  | .login email password, store =>
      match store.users.find? (UserFilter.byEmailLive email).accepts with
      | none => none
      | some user =>
          if (truthy user.passwordHash).isNone ||
              !verifyPassword (user.passwordHash.getD dummyArgon2Hash) password then none
          else some user.id
  | .resetPassword token _, store =>
      (store.users.find? (UserFilter.byResetTokenLive (hashResetToken token)).accepts).map User.id
  | .createAutoregUser payload, store =>
      (fetch Device.fingerprint payload.fingerprint store.devices).map Device.id
  | _, _ => none

/-! ## Reading handlers -/

/-- The identity that is answered does not depend on what is masked. -/
theorem identity_masked (user : User) : user.masked.identity = user.identity := rfl

/-- Nor does the profile. -/
theorem toDto_masked (user : User) : UsersService.toDto user.masked = UsersService.toDto user := rfl

/-- Two logins agree if the password is accepted in both stores or in neither; the hashes
themselves may differ. -/
theorem login_agrees (alike : Alike first second) {email password : String}
    (decided : authenticates (.login email password) first =
      authenticates (.login email password) second) :
    Agrees first second (login email password) (login email password) := by
  unfold login
  apply agrees_findUser alike
  intro up
  simp only [authenticates] at decided
  rcases alike.found_cases (.byEmailLive email) (fun _ => rfl) with
    ⟨left, right⟩ | ⟨user, user', left, right, same⟩
  · rw [left, right]
    exact agrees_throw rfl
  · rw [left, right] at decided ⊢
    simp only [Option.bind_some] at decided ⊢
    split at decided
    · rename_i denied
      split at decided
      · rename_i denied'
        rw [if_pos denied, if_pos denied']
        exact agrees_throw rfl
      · cases decided
    · rename_i granted
      split at decided
      · cases decided
      · rename_i granted'
        rw [if_neg granted, if_neg granted', ← identity_masked user, same, identity_masked]
        exact agrees_ret _

/-- The answers to a question for the profile agree. -/
theorem getUserById_agrees (alike : Alike first second) (userId : String) :
    Agrees first second (UsersController.handle (.getUserById userId))
      (UsersController.handle (.getUserById userId)) := by
  apply agrees_findById alike
  intro user user' _ _ _ _ _ same
  rw [← toDto_masked user, same, toDto_masked]
  exact agrees_ret _

/-- The answers to a question for the token version agree. -/
theorem getUserTokenVersion_agrees (alike : Alike first second) (userId : String) :
    Agrees first second (UsersController.getUserTokenVersion userId)
      (UsersController.getUserTokenVersion userId) := by
  apply agrees_findById alike
  intro user user' _ _ _ _ _ same
  have versions : user.tokenVersion = user'.tokenVersion := (congrArg User.tokenVersion same :)
  rw [versions]
  exact agrees_ret _

/-! ## Writing handlers -/

/-- A flush that leaves the email alone goes through while the database answers. -/
theorem runIn_flush_update {β : Type} {store : Backend} {loaded current : User}
    (kept : current.email = loaded.email) (up : store.databaseUp = true)
    (next : Millis → Handler β) :
    ∃ after, (flush (loaded.update current) >>= next).runIn store =
      (next store.clock).runIn after := by
  rw [runIn_flush, User.update]
  split
  · exact ⟨store, rfl⟩
  · have email : (loaded.changes current).email = none := by
      change changed loaded.email current.email = none
      rw [kept, changed_self]
    have clean : store.violation (.updateUser loaded.id (loaded.changes current)) = none :=
      Backend.violation_of_email email
    refine ⟨store.stored store.clock (.updateUser loaded.id (loaded.changes current)), ?_⟩
    rw [runIn_writeAll_cons _ _ _ _ up, clean]
    rfl

/-- What `forgotPassword` does for a user ends without an error. -/
theorem runIn_requestReset {store : Backend} (email : String) (user : User)
    (up : store.databaseUp = true) :
    ∃ after, (await .randomBytes >>= fun token => now >>= fun requestedAt =>
      flush (user.update (resetRequested user token requestedAt)) >>= fun _ =>
        await (.sendPasswordReset email token) >>= fun _ => (pure () : Handler Unit)).runIn store =
      (after, .ok ()) := by
  rw [runIn_randomBytes, runIn_now]
  have kept : ∀ token requestedAt, (resetRequested user token requestedAt).email = user.email :=
    fun _ _ => rfl
  have drawn : Backend.databaseUp { store with randomDraws := store.randomDraws + 1 } = true := up
  obtain ⟨after, flushed⟩ := runIn_flush_update (kept _ _) drawn fun _ =>
    await (.sendPasswordReset email (Libraries.randomHex store.randomDraws)) >>= fun _ =>
      (pure () : Handler Unit)
  obtain ⟨last, -, mailed⟩ :=
    runIn_sendPasswordReset after email (Libraries.randomHex store.randomDraws)
  exact ⟨last, flushed.trans mailed⟩

/-- Reset requests agree: the token goes to the mailbox and into a masked field. -/
theorem forgotPassword_agrees (alike : Alike first second) (email : String) :
    Agrees first second (forgotPassword email) (forgotPassword email) := by
  unfold forgotPassword
  apply agrees_findUser alike
  intro up
  rcases alike.found_cases (.byEmailLive email) (fun _ => rfl) with
    ⟨left, right⟩ | ⟨user, user', left, right, same⟩
  · rw [left, right]
    exact agrees_ret ()
  · rw [left, right]
    obtain ⟨after, ran⟩ := runIn_requestReset email user up
    obtain ⟨after', ran'⟩ := runIn_requestReset email user' (alike.databaseUp ▸ up)
    exact .of_ok ran ran'

/-- Two resets agree if the token is accepted in both stores or in neither; the tokens that
are stored may differ. -/
theorem resetPassword_agrees (alike : Alike first second) (distinct : DistinctIds second)
    {token newPassword : String}
    (decided : authenticates (.resetPassword token newPassword) first =
      authenticates (.resetPassword token newPassword) second) :
    Agrees first second (resetPassword token newPassword) (resetPassword token newPassword) := by
  unfold resetPassword
  apply agrees_findUser alike
  intro up
  simp only [authenticates] at decided
  cases left : first.users.find? (UserFilter.byResetTokenLive (hashResetToken token)).accepts with
  | none =>
      rw [left, Option.map_none] at decided
      rw [Option.map_eq_none_iff.mp decided.symm]
      exact agrees_throw rfl
  | some user =>
      rw [left, Option.map_some] at decided
      obtain ⟨user', right, named⟩ := Option.map_eq_some_iff.mp decided.symm
      rw [right]
      have same := alike.same_of_id distinct (List.mem_of_find?_eq_some left)
        (List.mem_of_find?_eq_some right) named
      have expiry : user.resetPasswordExpiry = user'.resetPasswordExpiry :=
        (congrArg User.resetPasswordExpiry same :)
      simp only
      apply agrees_now alike
      rw [← expiry]
      split
      · exact agrees_throw rfl
      · apply agrees_hashPassword alike
        intro passwordHash _
        have kept : ∀ user : User, (passwordReset user passwordHash).email = user.email :=
          fun _ => rfl
        have drawn : Backend.databaseUp
            { first with randomDraws := first.randomDraws + 1 } = true := up
        have drawn' : Backend.databaseUp
            { second with randomDraws := second.randomDraws + 1 } = true := alike.databaseUp ▸ up
        obtain ⟨after, ran⟩ := runIn_flush_update (kept user) drawn
          fun _ => (pure () : Handler Unit)
        obtain ⟨after', ran'⟩ := runIn_flush_update (kept user') drawn'
          fun _ => (pure () : Handler Unit)
        exact .of_ok ran ran'

omit [Libraries] in
/-- The changes of a profile are the same, credentials apart. -/
theorem changes_applyTo_masked (user : User) (data : UpdateUserInput) :
    user.masked.changes (data.applyTo user.masked) = user.changes (data.applyTo user) := by
  simp only [User.changes, UpdateUserInput.applyTo, User.masked, changed_self]

/-- Profile updates agree: they read and write no credential. -/
theorem updateUser_agrees (alike : Alike first second) (userId : String) (data : UpdateUserInput) :
    Agrees first second (updateUser userId data) (updateUser userId data) := by
  apply agrees_findById alike
  intro user user' up _ _ _ _ same
  have kept : ∀ user : User, (data.applyTo user).email = user.email := fun _ => rfl
  have writes : user.update (data.applyTo user) = user'.update (data.applyTo user') := by
    have id : user.id = user'.id := (congrArg User.id same :)
    rw [User.update, User.update, ← changes_applyTo_masked user, same, changes_applyTo_masked, id]
  have dto : ∀ updatedAt, UsersService.toDto { data.applyTo user with updatedAt } =
      UsersService.toDto { data.applyTo user' with updatedAt } := fun updatedAt =>
    (congrArg (fun user => UsersService.toDto { data.applyTo user with updatedAt }) same :)
  have stamps : user.updatedAt = user'.updatedAt := (congrArg User.updatedAt same :)
  dsimp only
  obtain ⟨after, ran⟩ := runIn_flush_update (kept user) up fun updatedAt =>
    (pure (UsersService.toDto { data.applyTo user with
      updatedAt := if (user.update (data.applyTo user)).isEmpty then user.updatedAt
        else updatedAt }) : Handler UserDto)
  obtain ⟨after', ran'⟩ := runIn_flush_update (kept user') (alike.databaseUp ▸ up)
    fun updatedAt => (pure (UsersService.toDto { data.applyTo user' with
      updatedAt := if (user'.update (data.applyTo user')).isEmpty then user'.updatedAt
        else updatedAt }) : Handler UserDto)
  rw [← writes, ← stamps, ← alike.clock] at ran'
  rw [← writes, ← stamps]
  exact .of_ok ran (ran'.trans (congrArg (fun dto => (after', Except.ok dto)) (dto _).symm))

/-- Creations of an account for an identity agree. -/
theorem createOAuthUser_agrees (alike : Alike first second) (up : first.databaseUp = true)
    (payload : OAuthPayload) :
    Agrees first second (createOAuthUser payload) (createOAuthUser payload) := by
  apply agrees_now alike
  apply agrees_newObjectId alike
  intro drawn
  have same : SameWrite (.insertUser (oauthUser payload first.nextObjectId first.clock))
      (.insertUser (oauthUser payload first.nextObjectId first.clock)) :=
    ⟨rfl, fun _ => ⟨trivial, trivial⟩⟩
  exact agrees_flushEmail drawn up same fun _ => agrees_ret _

/-- Provider logins agree, whichever way they go: by the identity, by the attested email, or
by a creation. -/
theorem findOrCreateOAuthUser_agrees (alike : Alike first second) (payload : OAuthPayload) :
    Agrees first second (findOrCreateOAuthUser payload) (findOrCreateOAuthUser payload) := by
  apply agrees_findUser alike
  intro up
  rcases alike.found_cases (.byLinkLive payload.provider payload.providerUserId)
      (fun _ => rfl) with ⟨left, right⟩ | ⟨user, user', left, right, same⟩
  · rw [left, right]
    simp only
    cases payload.mergeEmail with
    | none => exact createOAuthUser_agrees alike up payload
    | some email =>
        simp only
        apply agrees_findUser alike
        intro _
        rcases alike.found_cases (.byEmailLive email) (fun _ => rfl) with
          ⟨left, right⟩ | ⟨user, user', left, right, same⟩
        · rw [left, right]
          exact createOAuthUser_agrees alike up payload
        · rw [left, right]
          apply agrees_now alike
          have kept : ∀ (user : User) linkedAt, (merged user payload linkedAt).email = user.email :=
            fun _ _ => rfl
          have identity : user.identity = user'.identity := by
            rw [← identity_masked user, same, identity_masked]
          obtain ⟨after, ran⟩ := runIn_flush_update (kept user first.clock) up
            fun _ => (pure (merged user payload first.clock).identity : Handler IdentityResult)
          obtain ⟨after', ran'⟩ := runIn_flush_update (kept user' first.clock)
            (alike.databaseUp ▸ up)
            fun _ => (pure (merged user' payload first.clock).identity : Handler IdentityResult)
          exact .of_ok ran
            (ran'.trans (congrArg (fun result => (after', Except.ok result)) identity.symm))
  · rw [left, right]
    simp only
    rw [← identity_masked user, same, identity_masked]
    exact agrees_ret _

/-! ### Upgrades -/

omit [Libraries] in
/-- Anonymous accounts have no credentials of their own, so both stores hold the same
record. -/
theorem eq_of_masked {user user' : User} (bare : Bare user) (bare' : Bare user')
    (without : user.passwordHash = none) (without' : user'.passwordHash = none)
    (same : user.masked = user'.masked) : user = user' := by
  have unmasked : ∀ user : User, Bare user → user.passwordHash = none → user.masked = user := by
    intro user bare without
    have token := bare.resetPasswordToken
    cases user
    simp only [User.masked, User.mk.injEq, true_and, and_true] at without token ⊢
    exact ⟨without.symm, token.symm⟩
  rw [← unmasked user bare without, same, unmasked user' bare' without']

omit [Libraries] in
/-- The details of a collision are an id. -/
theorem oauthCollision_discreet (conflictingUserId : String) :
    (ServiceError.microservice (oauthCollision conflictingUserId)).Discreet := by
  intro details present
  cases present
  simp only [Json.Harmless, Json.fieldNames, Json.nestedFieldNames]
  decide

omit [Libraries] in
/-- The details of a blocked device are the reason. -/
theorem deviceBlocked_discreet (device : Device) :
    (ServiceError.microservice (deviceBlocked device)).Discreet := by
  intro details present
  cases present
  simp only [Json.Harmless, Json.fieldNames, Json.nestedFieldNames]
  decide

/-- The credentials of an upgrade are computed alike in both stores, by a password or by a
link. -/
theorem upgradeCredentials_agrees {β : Type} (alike : Alike first second)
    (up : first.databaseUp = true) (userId : String) (user : User) (payload : UpgradePayload)
    {next : User → Handler β}
    (rest : ∀ {first second : Backend} current, Alike first second → first.databaseUp = true →
      Credentials payload user current → Agrees first second (next current) (next current)) :
    Agrees first second (upgradeCredentials userId user payload >>= next)
      (upgradeCredentials userId user payload >>= next) := by
  have linked : ∀ provider providerUserId, payload.method = .oauth provider →
      truthy payload.providerUserId = some providerUserId →
      Agrees first second
        (upgradeCredentials.link user payload provider providerUserId >>= next)
        (upgradeCredentials.link user payload provider providerUserId >>= next) := by
    intro provider providerUserId method present
    exact agrees_now alike (rest _ alike up (.link first.clock method present))
  unfold upgradeCredentials
  cases method : payload.method with
  | email =>
      simp only
      split
      · rename_i email password addressed secret
        simp only [Program.bind_assoc]
        apply agrees_findUser alike
        intro _
        have holders : ∀ holder holder' : User, holder.masked = holder'.masked →
            holder.hexId = holder'.hexId := fun _ _ same => (congrArg User.hexId same :)
        rcases alike.found_cases (.byEmail email) (fun _ => rfl) with
          ⟨left, right⟩ | ⟨holder, holder', left, right, same⟩
        · rw [left, right]
          simp only [Option.any_none, Bool.false_eq_true, ↓reduceIte, Program.bind_assoc]
          apply agrees_hashPassword alike
          exact fun passwordHash drawn =>
            rest _ drawn up (.password passwordHash method addressed)
        · rw [left, right]
          simp only [Option.any_some, ← holders holder holder' same]
          split
          · exact agrees_throw rfl
          · simp only [Program.bind_assoc]
            apply agrees_hashPassword alike
            exact fun passwordHash drawn =>
              rest _ drawn up (.password passwordHash method addressed)
      · exact agrees_throw rfl
  | oauth provider =>
      simp only
      cases identity : truthy payload.providerUserId with
      | none => exact agrees_throw rfl
      | some providerUserId =>
          simp only [Program.bind_assoc]
          apply agrees_findUser alike
          intro _
          rcases alike.found_cases (.byLink provider providerUserId) (fun _ => rfl) with
            ⟨left, right⟩ | ⟨holder, holder', left, right, same⟩
          · rw [left, right]
            exact linked provider providerUserId method identity
          · have hexId : holder.hexId = holder'.hexId := (congrArg User.hexId same :)
            rw [left, right]
            simp only [← hexId]
            split
            · exact agrees_fail (oauthCollision_discreet holder.hexId)
            · exact linked provider providerUserId method identity

/-- Upgrades agree in stores whose anonymous accounts are bare: what the answer holds then
comes from the payload and the draws. -/
theorem upgradeAccount_agrees (alike : Alike first second) (bare : AnonymousBare first)
    (bare' : AnonymousBare second) (passwordless : Passwordless first)
    (passwordless' : Passwordless second) (userId : String) (payload : UpgradePayload) :
    Agrees first second (upgradeAccount userId payload) (upgradeAccount userId payload) := by
  apply agrees_findById alike
  intro user user' up member member' _ _ same
  have kinds : user.accountType = user'.accountType := (congrArg User.accountType same :)
  rw [← kinds]
  by_cases kind : user.accountType = .autoreg
  · have equal := eq_of_masked (bare user member kind) (bare' user' member' (kinds ▸ kind))
      (passwordless user member kind) (passwordless' user' member' (kinds ▸ kind)) same
    subst equal
    rw [if_neg (not_not.mpr kind)]
    apply upgradeCredentials_agrees alike up
    intro first second current alike up credentials
    apply agrees_now alike
    have bumped : (upgraded current payload first.clock).tokenVersion ≠ user.tokenVersion := by
      change current.tokenVersion + 1 ≠ _
      rw [credentials.tokenVersion]
      omega
    have sameWrite : SameWrite
        (.updateUser user.id (user.changes (upgraded current payload first.clock)))
        (.updateUser user.id (user.changes (upgraded current payload first.clock))) :=
      ⟨rfl, fun _ => ⟨trivial, trivial⟩⟩
    dsimp only
    rw [User.update_of_tokenVersion bumped]
    apply agrees_flushEmail alike up sameWrite
    intro stored
    apply agrees_nativeDeleteDevices stored _ up
    exact fun _ => agrees_ret _
  · rw [if_pos kind, if_pos kind]
    exact agrees_throw rfl

/-! ### Deletions -/

/-- Staging an event keeps two runs in step. -/
theorem stageOutboxEvent_agrees {β : Type} (alike : Alike first second)
    (params : StageOutboxParams) {next other : StageOutboxResult → Handler β}
    (rest : ∀ {first second : Backend} (staged : StageOutboxResult), Alike first second →
      first.databaseUp = true → List.Forall₂ SameWrite staged.writes staged.writes →
        Agrees first second (next staged) (other staged)) :
    Agrees first second (stageOutboxEvent params >>= next) (stageOutboxEvent params >>= other) := by
  unfold stageOutboxEvent
  simp only [Program.bind_assoc]
  apply agrees_findOutboxEvent alike
  intro found up
  cases found with
  | none =>
      simp only [Program.bind_assoc]
      apply agrees_newObjectId alike
      intro drawn
      apply agrees_now drawn
      exact rest _ drawn up (.cons ⟨rfl, fun _ => ⟨trivial, trivial⟩⟩ .nil)
  | some existing =>
      simp only
      split
      · apply rest _ alike up
        change List.Forall₂ SameWrite (existing.update _) (existing.update _)
        unfold OutboxEvent.update
        split
        · exact .nil
        · exact .cons ⟨rfl, fun _ => ⟨trivial, trivial⟩⟩ .nil
      · exact rest _ alike up .nil

omit [Libraries] in
/-- But for masked fields, changes do not depend on what is masked. -/
theorem changes_masked (loaded current : User) :
    { loaded.changes current with passwordHash := none, resetPasswordToken := none } =
      loaded.masked.changes current.masked := by
  simp only [User.changes, User.masked, changed_self]

/-- Deletions agree: both are refused, or both clear the same fields and stage the same
event. -/
theorem deleteUser_agrees (alike : Alike first second) (userId : String) :
    Agrees first second (deleteUser userId) (deleteUser userId) := by
  apply agrees_findById alike
  intro user user' _ _ _ _ _ same
  apply agrees_now alike
  have event : deletionEvent user = deletionEvent user' := (congrArg deletionEvent same :)
  rw [← event]
  apply stageOutboxEvent_agrees alike
  intro store store' staged alike up rows
  have bumped : ∀ user : User,
      (softDeleted user first.clock).tokenVersion ≠ user.tokenVersion := fun user => by
    change user.tokenVersion + 1 ≠ _
    omega
  have deletion : SameWrite
      (.updateUser user.id (user.changes (softDeleted user first.clock)))
      (.updateUser user'.id (user'.changes (softDeleted user' first.clock))) := by
    have id : user.id = user'.id := (congrArg User.id same :)
    have copies : (softDeleted user first.clock).masked = (softDeleted user' first.clock).masked :=
      (congrArg (fun user => (softDeleted user first.clock).masked) same :)
    refine ⟨?_, fun _ => ⟨trivial, trivial⟩⟩
    rw [Write.masked, Write.masked, changes_masked, changes_masked, same, copies, id]
  dsimp only
  rw [User.update_of_tokenVersion (bumped user), User.update_of_tokenVersion (bumped user')]
  apply agrees_flush alike up
  · split
    · exact List.rel_append rows (.cons deletion .nil)
    · exact .cons deletion rows
  · exact fun _ _ => agrees_ret ()

/-! ### Anonymous registrations -/

omit [Libraries] in
/-- Device rows of one id are the same, credentials apart. -/
theorem Alike.same_of_deviceId (alike : Alike first second) (indexed : Indexed second)
    {device device' : Device} (member : device ∈ first.devices)
    (member' : device' ∈ second.devices) (named : device'.id = device.id) :
    device.masked = device'.masked := by
  have devices : first.devices.map Device.masked = second.devices.map Device.masked :=
    (congrArg Backend.devices alike :)
  have inside : device.masked ∈ second.devices.map Device.masked := by
    rw [← devices]
    exact List.mem_map_of_mem member
  obtain ⟨twin, present, same⟩ := List.mem_map.mp inside
  have ids : twin.id = device.id := (congrArg Device.id same :)
  rw [← same, indexed.unique present member' (ids.trans named.symm)]

omit [Libraries] in
/-- Once its row is gone, a fingerprint is unseen. -/
theorem Indexed.unseen_of_deleted (indexed : Indexed first) {fingerprint : String}
    {device : Device} (found : fetch Device.fingerprint fingerprint first.devices = some device) :
    fetch Device.fingerprint fingerprint
      (first.devices.filter fun row => !(DeviceFilter.byId device.id).accepts row) = none := by
  apply List.find?_eq_none.mpr
  intro row inside
  obtain ⟨member, kept⟩ := List.mem_filter.mp inside
  intro accepted
  have named : row.fingerprint = fingerprint := of_decide_eq_true accepted
  have same : row = device := List.inj_on_of_nodup_map indexed.fingerprints member
    (fetch_some_mem found) (named.trans (fetch_some_key found).symm)
  rw [same] at kept
  simp only [DeviceFilter.accepts, decide_true, Bool.not_true, Bool.false_eq_true] at kept

/-- Creations of an anonymous account agree if the fingerprint is new in both stores. -/
theorem createFreshAutoreg_agrees (alike : Alike first second) (up : first.databaseUp = true)
    {payload : AutoregPayload}
    (unseen : fetch Device.fingerprint payload.fingerprint first.devices = none)
    (unseen' : fetch Device.fingerprint payload.fingerprint second.devices = none) :
    Agrees first second (createFreshAutoreg payload) (createFreshAutoreg payload) := by
  apply agrees_newObjectId alike
  intro drawn
  apply agrees_newObjectId drawn
  intro drawnTwice
  apply agrees_now drawnTwice
  apply agrees_flush_of_writeAll drawnTwice
  unfold autoregWrites
  split
  · refine agrees_writeAll_cons drawnTwice rfl ?_ ?_ up fun stored => ?_
    · exact unseen
    · exact unseen'
    · exact agrees_writeAll_cons stored rfl trivial trivial up fun _ => agrees_ret _
  · refine agrees_writeAll_cons drawnTwice rfl ?_ ?_ up fun stored => ?_
    · trivial
    · trivial
    · refine agrees_writeAll_cons stored rfl ?_ ?_ up fun _ => agrees_ret _
      · exact unseen
      · exact unseen'

/-- Two registrations agree if the fingerprint leads to an account in both stores or in
neither. -/
theorem createAutoregUser_agrees (alike : Alike first second) (indexed : Indexed first)
    (indexed' : Indexed second) {payload : AutoregPayload}
    (decided : authenticates (.createAutoregUser payload) first =
      authenticates (.createAutoregUser payload) second) :
    Agrees first second (UsersController.createAutoregUser payload)
      (UsersController.createAutoregUser payload) := by
  unfold UsersController.createAutoregUser
  split
  · exact agrees_throw rfl
  apply agrees_findDevice alike
  intro up
  simp only [authenticates] at decided
  cases left : fetch Device.fingerprint payload.fingerprint first.devices with
  | none =>
      rw [left, Option.map_none] at decided
      have right := Option.map_eq_none_iff.mp decided.symm
      rw [right]
      exact createFreshAutoreg_agrees alike up left right
  | some device =>
      rw [left, Option.map_some] at decided
      obtain ⟨device', right, named⟩ := Option.map_eq_some_iff.mp decided.symm
      rw [right]
      have same := alike.same_of_deviceId indexed' (fetch_some_mem left) (fetch_some_mem right)
        named
      have id : device.id = device'.id := (congrArg Device.id same :)
      have userId : device.userId = device'.userId := (congrArg Device.userId same :)
      have blocked : device.isBlocked = device'.isBlocked := (congrArg Device.isBlocked same :)
      have refusal : deviceBlocked device = deviceBlocked device' := (congrArg deviceBlocked same :)
      have fresh : Agrees first second
          (nativeDeleteDevices (.byId device.id) >>= fun _ => createFreshAutoreg payload)
          (nativeDeleteDevices (.byId device.id) >>= fun _ => createFreshAutoreg payload) := by
        apply agrees_nativeDeleteDevices alike _ up
        intro deleted
        exact createFreshAutoreg_agrees deleted up (indexed.unseen_of_deleted left)
          (id ▸ indexed'.unseen_of_deleted right)
      simp only [← blocked, ← refusal, ← userId, ← id]
      split
      · exact agrees_fail (deviceBlocked_discreet device)
      · apply agrees_findUser alike
        intro _
        rcases alike.found_cases (.byId device.userId) (fun _ => rfl) with
          ⟨none, none'⟩ | ⟨linked, linked', found, found', same'⟩
        · rw [none, none']
          exact fresh
        · have kinds : linked.accountType = linked'.accountType :=
            (congrArg User.accountType same' :)
          have versions : linked.tokenVersion = linked'.tokenVersion :=
            (congrArg User.tokenVersion same' :)
          rw [found, found']
          simp only [← kinds, ← versions]
          split
          · exact fresh
          · apply agrees_now alike
            have again : device.update (seenAgain device payload first.clock) =
                device'.update (seenAgain device' payload first.clock) :=
              (congrArg (fun device : Device =>
                device.update (seenAgain device payload first.clock)) same :)
            rw [← again]
            apply agrees_flush alike up
            · unfold Device.update
              split
              · exact .nil
              · exact .cons ⟨rfl, fun _ => ⟨trivial, trivial⟩⟩ .nil
            · exact fun _ _ => agrees_ret _

/-! ## Every message -/

/-- What holds in every state of the service. -/
structure Reachable (store : Backend) : Prop where
  indexed : Indexed store
  bare : AnonymousBare store
  passwordless : Passwordless store

/-- Whatever the interleavings lead to is reachable in the sense used here. -/
theorem reachable_of_reaches {pool : ServicePool}
    (reached : userService.Reaches (fun _ _ => True) ⟨{}, []⟩ pool) : Reachable pool.shared :=
  ⟨(passwordless reached).2, (anonymous_bare reached).2, (passwordless reached).1⟩

/-- Every message handler ends alike in both stores. -/
theorem handle_agrees (alike : Alike first second) (reachable : Reachable first)
    (reachable' : Reachable second) {operation : UserOperation} (message : operation ≠ .sweep)
    (decided : authenticates operation first = authenticates operation second) :
    Agrees first second (UsersController.handle operation) (UsersController.handle operation) := by
  cases operation with
  | createAutoregUser payload =>
      exact (createAutoregUser_agrees alike reachable.indexed reachable'.indexed decided).map _
  | login email password => exact (login_agrees alike decided).map _
  | upgradeAccount userId payload =>
      exact (upgradeAccount_agrees alike reachable.bare reachable'.bare reachable.passwordless
        reachable'.passwordless userId payload).map _
  | findOrCreateOAuthUser payload => exact (findOrCreateOAuthUser_agrees alike payload).map _
  | forgotPassword email => exact (forgotPassword_agrees alike email).map _
  | resetPassword token newPassword =>
      exact (resetPassword_agrees alike reachable'.indexed.users decided).map _
  | getUserById userId => exact getUserById_agrees alike userId
  | getUserTokenVersion userId => exact (getUserTokenVersion_agrees alike userId).map _
  | updateUser userId data => exact (updateUser_agrees alike userId data).map _
  | deleteUser userId => exact (deleteUser_agrees alike userId).map _
  | sweep => exact (message rfl).elim

end Handlers

end NestMonorepo
