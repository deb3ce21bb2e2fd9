import NestMonorepo.Common.Text
import NestMonorepo.Concurrency.Pool
import NestMonorepo.Messaging.Outbox

/-! # The users service

`UsersService`, operation by operation, and the message handlers of
`UsersController` in front of it. Every operation reads a user document and
later flushes the fields it changed.
-/

namespace NestMonorepo

open Concurrency Handler

/-! ## Payloads and answers -/

structure AutoregPayload where
  fingerprint : String
  platform : Option Platform := none
  ipHash : Option String := none

structure OAuthPayload where
  provider : OAuthProvider
  providerUserId : String
  email : Option String := none
  emailVerified : Option Bool := none
  name : Option String := none

inductive UpgradeMethod where
  | email
  | oauth (provider : OAuthProvider)
  deriving DecidableEq, Repr

structure UpgradePayload where
  method : UpgradeMethod
  email : Option String := none
  password : Option String := none
  name : Option String := none
  providerUserId : Option String := none

/-- An absent field is left alone; a present one may carry `null`. -/
structure UpdateUserInput where
  name : Option (Option String) := none
  tz : Option (Option String) := none
  locale : Option (Option Locale) := none
  avatarUrl : Option (Option String) := none
  onboardingCompleted : Option (Option Bool) := none

/-- The email by which step 2 of `findOrCreateOAuthUser` may merge. -/
def OAuthPayload.mergeEmail (payload : OAuthPayload) : Option String :=
  if payload.emailVerified = some true then truthy payload.email else none

/-- The allowlist of `updateUser`. -/
def UpdateUserInput.applyTo (data : UpdateUserInput) (user : User) : User :=
  { user with
    name := data.name.getD user.name
    tz := data.tz.getD user.tz
    locale := data.locale.getD user.locale
    avatarUrl := data.avatarUrl.getD user.avatarUrl
    onboardingCompleted := data.onboardingCompleted.getD user.onboardingCompleted }

structure AutoregResult where
  id : String
  deviceRecordId : String
  tokenVersion : Nat
  deriving DecidableEq, Repr

structure IdentityResult where
  id : String
  accountType : AccountType
  tokenVersion : Nat
  deriving DecidableEq, Repr

structure UserDto where
  id : String
  accountType : AccountType
  email : Option String
  name : String
  tz : Option String
  locale : Option Locale
  avatarUrl : Option String
  onboardingCompleted : Bool
  createdAt : String
  updatedAt : String
  deriving DecidableEq, Repr

/-! ## Errors -/

def deviceBlocked (device : Device) : MicroserviceException where
  status := 403
  code := "device_blocked"
  messageText := "This device is blocked"
  details := some (.object
    [("reason", .string (device.blockedReason.getD "policy_violation"))])

def emailTakenException : MicroserviceException where
  status := 409
  code := "EMAIL_EXISTS"
  messageText := "Email already registered"

def oauthCollision (conflictingUserId : String) : MicroserviceException where
  status := 409
  code := "oauth_collision"
  messageText := "OAuth identity already linked to another account"
  details := some (.object [("conflictingUserId", .string conflictingUserId)])

def invalidCredentials : MicroserviceException where
  status := 401
  code := ErrorCodes.tokenInvalid
  messageText := "Invalid credentials"

def invalidResetToken : MicroserviceException where
  status := 401
  code := ErrorCodes.tokenInvalid
  messageText := "Invalid or expired reset token"

def userNotFound : MicroserviceException := .notFound "User not found"

/-- `throw` of a tagged exception. -/
def throwException {α : Type} (exception : MicroserviceException) : Handler α :=
  .fail (.microservice exception)

/-- A flush whose violation of the email index is answered with `EMAIL_EXISTS`. -/
def flushEmail (writes : List Write) : Handler Millis := do
  match ← (flush writes).attempt with
  | .ok now => pure now
  | .error (.mongo error) =>
      if isDuplicateKeyError error "email" then throwException emailTakenException
      else .fail (.mongo error)
  | .error error => .fail error

/-! ## UsersService -/

variable [Libraries]

namespace User

/-- `user.id`. -/
def hexId (user : User) : String := Libraries.toHexString user.id

def identity (user : User) : IdentityResult where
  id := user.hexId
  accountType := user.accountType
  tokenVersion := user.tokenVersion

end User

namespace UsersService

/-- A real argon2id hash no password verifies against. -/
def dummyArgon2Hash : String :=
  "$argon2id$v=19$m=65536,t=3,p=4$B1s61iTQ08nOuxDcmd0vuA$rmWDDrZq9l6brSGdOr5p34voo0slFj31ajurPq49ETI"

def hashResetToken (token : String) : String := Libraries.sha256Hex token

/-- `findById`: a malformed id throws, and a soft-deleted user counts as gone. -/
def findById (userId : String) : Handler User :=
  match Libraries.ofHexString userId with
  | none => .fail (.other "invalid ObjectId")
  | some id => do
      match ← findUser (.byId id) with
      | none => throwException userNotFound
      | some user =>
          if user.deletedAt.isSome then throwException userNotFound else pure user

def autoregUser (id : ObjectId) (createdAt : Millis) : User :=
  { id, createdAt, updatedAt := createdAt, accountType := .autoreg }

def autoregDevice (payload : AutoregPayload) (id userId : ObjectId) (createdAt : Millis) :
    Device :=
  { id, createdAt, updatedAt := createdAt, fingerprint := payload.fingerprint,
    platform := payload.platform.getD .android, userId, lastSeenAt := createdAt,
    lastIpHash := payload.ipHash }

/-- The two inserts of a registration, in the fixed order of the unit of work. -/
def autoregWrites (user : User) (device : Device) : List Write :=
  if Libraries.deviceFirst then [.insertDevice device, .insertUser user]
  else [.insertUser user, .insertDevice device]

/-- The end of `createAutoregUser`: a new user and the device that leads to it. -/
def createFreshAutoreg (payload : AutoregPayload) : Handler AutoregResult := do
  let userId ← newObjectId
  let deviceId ← newObjectId
  let createdAt ← now
  let _ ← flush (autoregWrites (autoregUser userId createdAt)
    (autoregDevice payload deviceId userId createdAt))
  pure { id := Libraries.toHexString userId, deviceRecordId := Libraries.toHexString deviceId,
         tokenVersion := 0 }

/-- A device row seen again. -/
def seenAgain (existing : Device) (payload : AutoregPayload) (lastSeenAt : Millis) : Device :=
  { existing with
    lastSeenAt
    lastIpHash := (truthy payload.ipHash).or existing.lastIpHash }

def createAutoregUser (payload : AutoregPayload) : Handler AutoregResult := do
  match ← findDevice payload.fingerprint with
  | none => createFreshAutoreg payload
  | some existing =>
      if existing.isBlocked then throwException (deviceBlocked existing)
      else
        -- the lookup is by `_id` alone: a soft-deleted user is found as well
        match ← findUser (.byId existing.userId) with
        | none => do
            nativeDeleteDevices (.byId existing.id)
            createFreshAutoreg payload
        | some linkedUser =>
            if linkedUser.accountType ≠ .autoreg then do
              nativeDeleteDevices (.byId existing.id)
              createFreshAutoreg payload
            else do
              let lastSeenAt ← now
              let _ ← flush (existing.update (seenAgain existing payload lastSeenAt))
              pure { id := Libraries.toHexString existing.userId,
                     deviceRecordId := Libraries.toHexString existing.id,
                     tokenVersion := linkedUser.tokenVersion }

/-- Whether `argon2.verify` answers true; an exception counts as false. -/
def verifyPassword (passwordHash password : String) : Bool :=
  match Libraries.argon2Verify passwordHash password with
  | .ok valid => valid
  | .error _ => false

def login (email password : String) : Handler IdentityResult := do
  let user ← findUser (.byEmailLive email)
  let passwordHash := (user.bind User.passwordHash).getD dummyArgon2Hash
  let valid := verifyPassword passwordHash password
  match user with
  | none => throwException invalidCredentials
  | some user =>
      if (truthy user.passwordHash).isNone || !valid then throwException invalidCredentials
      else pure user.identity

/-- `upgradeAccount` by email: the credentials of the modified copy. -/
def withPassword (user : User) (email passwordHash : String) : User :=
  { user with email := some email, passwordHash := some passwordHash }

/-- `upgradeAccount` by OAuth: the credentials of the modified copy; the email
is the one the client sent. -/
def withLink (user : User) (provider : OAuthProvider) (providerUserId : String)
    (email : Option String) (linkedAt : Millis) : User :=
  { user with
    email := email.or user.email
    oauthLinks := user.oauthLinks ++ [{ provider, providerUserId, email, linkedAt }] }

/-- The method-specific half of `upgradeAccount`: the modified copy of the
loaded user. -/
def upgradeCredentials (userId : String) (user : User) (payload : UpgradePayload) :
    Handler User :=
  match payload.method with
  | .email =>
      match truthy payload.email, truthy payload.password with
      | some email, some password => do
          let existing ← findUser (.byEmail email)
          if existing.any (fun other => other.hexId ≠ userId) then
            throwException emailTakenException
          else do
            let passwordHash ← hashPassword password
            pure (withPassword user email passwordHash)
      | _, _ => throwException (.badRequest "Email and password required")
  | .oauth provider =>
      match truthy payload.providerUserId with
      | none => throwException (.badRequest "providerUserId required for OAuth upgrade")
      | some providerUserId => do
          match ← findUser (.byLink provider providerUserId) with
          | some clash =>
              if clash.hexId ≠ userId then throwException (oauthCollision clash.hexId)
              else link provider providerUserId
          | none => link provider providerUserId
where
  link (provider : OAuthProvider) (providerUserId : String) : Handler User := do
    let linkedAt ← now
    pure (withLink user provider providerUserId payload.email linkedAt)

/-- The rest of the modified copy in `upgradeAccount`. -/
def upgraded (user : User) (payload : UpgradePayload) (upgradedAt : Millis) : User :=
  { user with
    name := (truthy payload.name).or user.name
    accountType := .user
    upgradedAt := some upgradedAt
    tokenVersion := user.tokenVersion + 1 }

def upgradeAccount (userId : String) (payload : UpgradePayload) : Handler User := do
  let user ← findById userId
  if user.accountType ≠ .autoreg then throwException (.conflict "Account already upgraded")
  else do
    let withCredentials ← upgradeCredentials userId user payload
    let upgradedAt ← now
    let current := upgraded withCredentials payload upgradedAt
    let updatedAt ← flushEmail (user.update current)
    nativeDeleteDevices (.byUserId user.id)
    pure { current with updatedAt }

def oauthUser (payload : OAuthPayload) (id : ObjectId) (createdAt : Millis) : User :=
  { id, createdAt, updatedAt := createdAt, accountType := .user, email := payload.email,
    name := payload.name
    oauthLinks :=
      [{ provider := payload.provider, providerUserId := payload.providerUserId,
         email := payload.email, linkedAt := createdAt }] }

/-- Step 3 of `findOrCreateOAuthUser`. -/
def createOAuthUser (payload : OAuthPayload) : Handler IdentityResult := do
  let createdAt ← now
  let id ← newObjectId
  let user := oauthUser payload id createdAt
  let _ ← flushEmail [.insertUser user]
  pure user.identity

/-- The modified copy of step 2: the account of the email with one more link. -/
def merged (user : User) (payload : OAuthPayload) (linkedAt : Millis) : User :=
  { user with
    oauthLinks := user.oauthLinks ++
      [{ provider := payload.provider, providerUserId := payload.providerUserId,
         email := payload.email, linkedAt }] }

def findOrCreateOAuthUser (payload : OAuthPayload) : Handler IdentityResult := do
  match ← findUser (.byLinkLive payload.provider payload.providerUserId) with
  | some byProvider => pure byProvider.identity
  | none =>
      match payload.mergeEmail with
      | none => createOAuthUser payload
      | some email => do
          match ← findUser (.byEmailLive email) with
          | none => createOAuthUser payload
          | some byEmail => do
              let linkedAt ← now
              let current := merged byEmail payload linkedAt
              let _ ← flush (byEmail.update current)
              pure current.identity

/-- One hour, in milliseconds. -/
def resetWindow : Millis := 60 * 60 * 1000

/-- The modified copy in `forgotPassword`. -/
def resetRequested (user : User) (token : String) (requestedAt : Millis) : User :=
  { user with
    resetPasswordToken := some (hashResetToken token)
    resetPasswordExpiry := some (requestedAt + resetWindow) }

def forgotPassword (email : String) : Handler Unit := do
  match ← findUser (.byEmailLive email) with
  | none => pure ()
  | some user => do
      let token ← await .randomBytes
      let requestedAt ← now
      let _ ← flush (user.update (resetRequested user token requestedAt))
      -- a failed dispatch is only logged
      let _ ← await (.sendPasswordReset email token)
      pure ()

/-- The modified copy in `resetPassword`. -/
def passwordReset (user : User) (passwordHash : String) : User :=
  { user with
    passwordHash := some passwordHash
    resetPasswordToken := none
    resetPasswordExpiry := none
    tokenVersion := user.tokenVersion + 1 }

def resetPassword (token newPassword : String) : Handler Unit := do
  match ← findUser (.byResetTokenLive (hashResetToken token)) with
  | none => throwException invalidResetToken
  | some user => do
      let presentedAt ← now
      if user.resetPasswordExpiry.all (fun expiry => expiry < presentedAt) then
        throwException invalidResetToken
      else do
        let passwordHash ← hashPassword newPassword
        let _ ← flush (user.update (passwordReset user passwordHash))
        pure ()

def toDto (user : User) : UserDto where
  id := user.hexId
  accountType := user.accountType
  email := user.email
  name := user.name.getD ""
  tz := user.tz
  locale := user.locale
  avatarUrl := user.avatarUrl
  onboardingCompleted := user.onboardingCompleted.getD false
  createdAt := Libraries.toISOString user.createdAt
  updatedAt := Libraries.toISOString user.updatedAt

def updateUser (userId : String) (data : UpdateUserInput) : Handler UserDto := do
  let user ← findById userId
  let current := data.applyTo user
  let writes := user.update current
  let updatedAt ← flush writes
  pure (toDto { current with updatedAt := if writes.isEmpty then user.updatedAt else updatedAt })

/-- The modified copy in `deleteUser`. -/
def softDeleted (user : User) (deletedAt : Millis) : User :=
  { user with
    deletedAt := some deletedAt
    email := none
    passwordHash := none
    resetPasswordToken := none
    resetPasswordExpiry := none
    tokenVersion := user.tokenVersion + 1 }

omit [Libraries] in
/-- The deletion of a live user marks whatever is stored under its id. -/
theorem apply_softDeleted {user : User} (live : user.Live) (deletedAt : Millis) (stored : User)
    (at_ : Millis) :
    (stored.apply (user.changes (softDeleted user deletedAt)) at_).deletedAt = some deletedAt := by
  have differ : user.deletedAt ≠ some deletedAt := by
    rw [live]
    exact nofun
  simp only [User.apply, User.changes, softDeleted, changed_of_ne differ, Option.getD_some]

/-- The idempotency key of a user's deletion event. -/
def deletionKey (userId : String) : String := "user.deleted:" ++ userId

/-- The event that `deleteUser` stages. -/
def deletionEvent (user : User) : StageOutboxParams where
  target := "user"
  pattern := "user.deleted"
  payload := [("userId", .string user.hexId)]
  idempotencyKey := deletionKey user.hexId

def deleteUser (userId : String) : Handler Unit := do
  let user ← findById userId
  let deletedAt ← now
  let staged ← stageOutboxEvent (deletionEvent user)
  let userWrites := user.update (softDeleted user deletedAt)
  -- the flush has some fixed order and no enclosing transaction
  let _ ← flush (if Libraries.outboxFirst then staged.writes ++ userWrites
    else userWrites ++ staged.writes)
  pure ()

end UsersService

/-! ## UsersController -/

/-- A message to the user service, and the tick of its outbox timer. -/
inductive UserOperation where
  | createAutoregUser (payload : AutoregPayload)
  | login (email password : String)
  | upgradeAccount (userId : String) (payload : UpgradePayload)
  | findOrCreateOAuthUser (payload : OAuthPayload)
  | forgotPassword (email : String)
  | resetPassword (token newPassword : String)
  | getUserById (userId : String)
  | getUserTokenVersion (userId : String)
  | updateUser (userId : String) (data : UpdateUserInput)
  | deleteUser (userId : String)
  | sweep

/-- What the handlers answer. -/
inductive Answer where
  | autoreg (result : AutoregResult)
  | identity (result : IdentityResult)
  | upgraded (user : User)
  | acknowledged
  | dto (dto : UserDto)
  | tokenVersion (tokenVersion : Nat)
  | swept (result : OutboxDispatcher.SweepResult)

namespace UsersController

def createAutoregUser (payload : AutoregPayload) : Handler AutoregResult :=
  if payload.fingerprint = "" then throwException (.badRequest "fingerprint is required")
  else UsersService.createAutoregUser payload

def getUserTokenVersion (userId : String) : Handler Nat := do
  let user ← UsersService.findById userId
  pure user.tokenVersion

/-- The handler of each message. -/
def handle : UserOperation → Handler Answer
  | .createAutoregUser payload => do return .autoreg (← createAutoregUser payload)
  | .login email password => do return .identity (← UsersService.login email password)
  | .upgradeAccount userId payload => do
      return .upgraded (← UsersService.upgradeAccount userId payload)
  | .findOrCreateOAuthUser payload => do
      return .identity (← UsersService.findOrCreateOAuthUser payload)
  | .forgotPassword email => do
      UsersService.forgotPassword email
      return .acknowledged
  | .resetPassword token newPassword => do
      UsersService.resetPassword token newPassword
      return .acknowledged
  | .getUserById userId => do
      return .dto (UsersService.toDto (← UsersService.findById userId))
  | .getUserTokenVersion userId => do
      return .tokenVersion (← getUserTokenVersion userId)
  | .updateUser userId data => do return .dto (← UsersService.updateUser userId data)
  | .deleteUser userId => do
      UsersService.deleteUser userId
      return .acknowledged
  | .sweep => do return .swept (← OutboxDispatcher.sweep)

end UsersController

/-- The user service: its handlers over its backend, any number at a time. -/
def userService : System UserOperation Command Reply ServiceError Answer Backend
    Backend.Event where
  code := UsersController.handle
  exec := Backend.exec
  environment := Backend.environment

end NestMonorepo
