import NestMonorepo.Common.Text
import NestMonorepo.Concurrency.Pool
import NestMonorepo.Gateway.Tokens

/-! # Refresh and logout

The two handlers that consume refresh tokens, from the guard in front of them to
the token store behind them. Awaiting Redis or the user service is where other
requests run.
-/

namespace NestMonorepo

open Collections Concurrency

/-- A part of a session handler. -/
abbrev AuthHandler (α : Type) : Type := Program AuthCommand AuthReply GatewayError α

namespace AuthHandler

variable {α : Type}

/-- `throw new UnauthorizedException({ code, message })`. -/
def unauthorized (code message : String) : AuthHandler α :=
  .fail (.http (unauthorizedException code message))

end AuthHandler

open AuthHandler

/-- The user of a refresh request: the token's payload and its `sub`. -/
structure RefreshUser extends JwtRefreshPayload where
  userId : String

/-! ## The token store -/

namespace TokenStoreService

def keyPrefix : String := "blacklist:rt:"

def blacklistRefreshToken (jti : String) (expiresAt : Seconds) : AuthHandler Unit := do
  let now ← Program.perform (.now : AuthCommand)
  let ttl := expiresAt - now / 1000
  if 0 < ttl then
    match ← Program.perform (.redisSet (keyPrefix ++ jti) "1" ttl : AuthCommand) with
    | .ok () => pure ()
    | .error message => .fail (.other message)
  else pure ()

def isBlacklisted (jti : String) : AuthHandler Bool := do
  match ← Program.perform (.redisGet (keyPrefix ++ jti) : AuthCommand) with
  | .ok value => pure (decide (value = some "1"))
  | .error _ =>
      .fail (.http (serviceUnavailableException "auth_store_unavailable"
        "Authentication service temporarily unavailable"))

end TokenStoreService

/-! ## The guard -/

namespace JwtRefreshStrategy

def validate (payload : JwtRefreshPayload) : AuthHandler RefreshUser :=
  match truthy payload.sub, truthy payload.jti with
  | some sub, some jti =>
      if truthy payload.deviceId = none then
        unauthorized ErrorCodes.tokenInvalid "Refresh token missing deviceId — re-login required"
      else do
        if ← TokenStoreService.isBlacklisted jti then
          unauthorized ErrorCodes.tokenInvalid "Token has been revoked"
        else pure { payload with userId := sub }
  | _, _ => unauthorized ErrorCodes.tokenInvalid "Invalid refresh token"

/-- What passport makes of the bearer token: the validated user, or none where the
token does not verify; an error of `validate` is thrown. -/
def authenticate [Gateway] (bearer : Option Jwt) : AuthHandler (Option RefreshUser) :=
  match bearer with
  | none => pure none
  | some token => do
      match ← Program.perform (.verify token Gateway.jwtRefreshSecret : AuthCommand) with
      | none => pure none
      | some payload => do return some (← validate payload)

end JwtRefreshStrategy

namespace JwtRefreshGuard

def handleRequest : Except GatewayError (Option RefreshUser) → AuthHandler RefreshUser
  | .ok (some user) => pure user
  | _ => unauthorized ErrorCodes.tokenInvalid "Invalid or expired refresh token"

def canActivate [Gateway] (bearer : Option Jwt) : AuthHandler RefreshUser := do
  let outcome ← (JwtRefreshStrategy.authenticate bearer).attempt
  handleRequest outcome

end JwtRefreshGuard

/-! ## The service -/

namespace AuthService

/-- `rpc.user(GET_USER_TOKEN_VERSION, { userId })`, where a missing user is a
revoked token. -/
def currentTokenVersion (userId : String) : AuthHandler Nat := do
  match ← Program.perform (.user (.getUserTokenVersion userId) : AuthCommand) with
  | .ok (.tokenVersion tokenVersion) => pure tokenVersion
  | .ok _ => .fail (.other "unexpected answer")
  | .error exception =>
      if exception.status = 404 then
        unauthorized ErrorCodes.tokenInvalid "Refresh token has been revoked"
      else .fail (.http exception)

def refresh (userId oldJti : String) (oldExp : Seconds) (deviceId : String)
    (accountType : Option AccountType) (presentedTv : Option Nat) :
    AuthHandler TokenPairDto := do
  let tokenVersion ← currentTokenVersion userId
  let claimedTv := presentedTv.getD 0
  if claimedTv ≠ tokenVersion then
    unauthorized ErrorCodes.tokenInvalid "Refresh token has been revoked"
  else do
    TokenStoreService.blacklistRefreshToken oldJti oldExp
    Program.perform (.issueTokenPair userId accountType deviceId tokenVersion : AuthCommand)

/-- The body of `logout`'s `try`. -/
def revoke [Gateway] (refreshToken : Option Jwt) : AuthHandler Unit :=
  match refreshToken with
  | none => .fail (.other "jwt malformed")
  | some token => do
      match ← Program.perform (.verify token Gateway.jwtRefreshSecret : AuthCommand) with
      | none => .fail (.other "invalid token")
      | some payload =>
          match truthy payload.jti, payload.exp.filter (· ≠ 0) with
          | some jti, some exp => TokenStoreService.blacklistRefreshToken jti exp
          | _, _ => pure ()

/-- `logout`: whatever the body throws, the answer is `{ success: true }`. -/
def logout [Gateway] (refreshToken : Option Jwt) : AuthHandler Unit := do
  let _ ← (revoke refreshToken).attempt
  pure ()

end AuthService

/-! ## The controller -/

namespace AuthController

def requireDeviceId (headerValue : Option String) : AuthHandler String :=
  let v := trim (headerValue.getD "")
  if v = "" then
    .fail (.http (badRequestException "device_id_required" "x-device-id header is required"))
  else pure v

def refresh (user : RefreshUser) (headerDeviceId : Option String) : AuthHandler TokenPairDto :=
  match truthy user.jti, user.exp.filter (· ≠ 0) with
  | some jti, some exp => do
      let headerId ← requireDeviceId headerDeviceId
      if user.deviceId ≠ some headerId then
        unauthorized "device_mismatch" "Refresh token does not belong to this device"
      else AuthService.refresh user.userId jti exp headerId user.type user.tv
  | _, _ => unauthorized ErrorCodes.tokenInvalid "Refresh token missing jti/exp"

end AuthController

/-! ## The sessions of the gateway -/

/-- A request: `refresh` with its bearer token and device header, `logout` with the
token in its body. A text that is no JWT presents none. -/
inductive AuthOperation where
  | refresh (bearer : Option Jwt) (deviceId : Option String)
  | logout (refreshToken : Option Jwt)
  deriving DecidableEq, Repr

/-- What a session handler answers. -/
inductive AuthAnswer where
  | pair (pair : TokenPairDto)
  | success
  deriving DecidableEq, Repr

variable [Gateway]

def AuthController.handle : AuthOperation → AuthHandler AuthAnswer
  | .refresh bearer deviceId => do
      let user ← JwtRefreshGuard.canActivate bearer
      return .pair (← AuthController.refresh user deviceId)
  | .logout refreshToken => do
      AuthService.logout refreshToken
      return .success

/-- The gateway's session handlers over Redis, the clock and the user service. -/
def gateway : System AuthOperation AuthCommand AuthReply GatewayError AuthAnswer AuthWorld
    AuthWorld.Event where
  code := AuthController.handle
  exec := AuthWorld.exec
  environment := AuthWorld.environment

abbrev AuthPool : Type :=
  Pool AuthOperation AuthCommand AuthReply GatewayError AuthAnswer AuthWorld

abbrev AuthThread : Type := Thread AuthOperation AuthCommand AuthReply GatewayError AuthAnswer

abbrev AuthLabel : Type := Label AuthOperation AuthWorld.Event

end NestMonorepo
