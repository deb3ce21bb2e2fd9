import NestMonorepo.Concurrency.Expand
import NestMonorepo.Gateway.Auth
import NestMonorepo.Gateway.OAuthLogin

/-! # The gateway next to the user service

All handlers that issue token pairs, over a user service that runs at its own pace: a
request to it is sent, served there command by command among all others, and its answer
received when it comes.
-/

namespace NestMonorepo

open Collections Concurrency

/-! ## What handlers await -/

/-- What the handlers await; a request to the user service is sent first and its answer
received later. -/
inductive PortalCommand where
  | now
  | verify (token : Jwt) (secret : String)
  | redisGet (key : String)
  | redisSet (key value : String) (seconds : Seconds)
  | fetch (request : ProviderRequest)
  | send (operation : UserOperation)
  | receive (ticket : Nat)
  | issueTokenPair (userId : String) (accountType : Option AccountType) (deviceId : String)
      (tokenVersion : Nat)

@[reducible] def PortalReply : PortalCommand → Type
  | .now => Millis
  | .verify _ _ => Option JwtRefreshPayload
  | .redisGet _ => Except String (Option String)
  | .redisSet _ _ _ => Except String Unit
  | .fetch request => ProviderReply request
  | .send _ => Except HttpException Nat
  | .receive _ => Except HttpException Answer
  | .issueTokenPair _ _ _ _ => TokenPairDto

/-- A part of a handler. -/
abbrev PortalHandler (α : Type) : Type := Program PortalCommand PortalReply GatewayError α

namespace PortalHandler

/-- `rpc.user(operation)`. -/
def rpc (operation : UserOperation) : PortalHandler (Except HttpException Answer) :=
  .call (.send operation) fun
    | .ok ticket => .call (.receive ticket) .ret
    | .error exception => .ret (.error exception)

/-- `await rpc.user(operation)`. -/
def ask (operation : UserOperation) : PortalHandler Answer := do
  match ← rpc operation with
  | .ok answer => pure answer
  | .error exception => .fail (.http exception)

/-- A session command. -/
def session : (command : AuthCommand) → PortalHandler (AuthReply command)
  | .now => .call .now .ret
  | .verify token secret => .call (.verify token secret) .ret
  | .redisGet key => .call (.redisGet key) .ret
  | .redisSet key value seconds => .call (.redisSet key value seconds) .ret
  | .user operation => rpc operation
  | .issueTokenPair userId accountType deviceId tokenVersion =>
      .call (.issueTokenPair userId accountType deviceId tokenVersion) .ret

/-- A command of a sign-in with a provider. -/
def consult : (command : OAuthCommand) → PortalHandler (OAuthReply command)
  | .fetch request => .call (.fetch request) .ret
  | .user operation => rpc operation

end PortalHandler

open PortalHandler

/-! ## Signing in -/

structure AutoregDto where
  deviceFingerprint : String
  platform : Option Platform := none

structure LoginDto where
  email : String
  password : String

structure UpgradeAccountDto where
  method : UpgradeMethod
  email : Option String := none
  password : Option String := none
  name : Option String := none
  oauthToken : Option String := none

structure AuthResponseDto extends TokenPairDto where
  userId : String
  accountType : AccountType

/-- The value of the enumeration. -/
def UpgradeMethod.value : UpgradeMethod → String
  | .email => "email"
  | .oauth .google => "google"
  | .oauth .apple => "apple"
  | .oauth .vk => "vk"
  | .oauth .yandex => "yandex"

namespace AuthService

/-- The end of every sign-in: a pair of the given type for the user. -/
def respond (userId : String) (type : AccountType) (deviceId : String) (tokenVersion : Nat)
    (accountType : AccountType) : PortalHandler AuthResponseDto :=
  .call (.issueTokenPair userId (some type) deviceId tokenVersion) fun pair =>
    .ret { pair with userId, accountType }

/-- An answer of another shape than the operation's. -/
def unexpected {α : Type} : PortalHandler α := .fail (.other "unexpected answer")

def autoreg [Libraries] (dto : AutoregDto) (deviceId : String) (clientIp : Option String) :
    PortalHandler AuthResponseDto := do
  match ← ask (.createAutoregUser
      { fingerprint := dto.deviceFingerprint, platform := dto.platform,
        ipHash := (truthy clientIp).map Libraries.sha256Hex }) with
  | .autoreg result => respond result.id .autoreg deviceId result.tokenVersion .autoreg
  | _ => unexpected

def login (dto : LoginDto) (deviceId : String) : PortalHandler AuthResponseDto := do
  match ← ask (.login dto.email dto.password) with
  | .identity user => respond user.id .user deviceId user.tokenVersion user.accountType
  | _ => unexpected

/-- `resolveOAuthProviderUserId`. -/
def resolveOAuthProviderUserId (config : OAuthConfig) (platform : Option Platform)
    (provider token : String) : PortalHandler String := do
  let (_, identity) ← (verifyOAuthToken config platform provider token).expand consult
  pure identity.providerUserId

def upgrade (config : OAuthConfig) (platform : Option Platform) (userId : String)
    (dto : UpgradeAccountDto) (deviceId : String) : PortalHandler AuthResponseDto := do
  let providerUserId ← (match truthy dto.oauthToken with
    | none => .ret none
    | some token =>
        resolveOAuthProviderUserId config platform dto.method.value token >>= fun providerUserId =>
          .ret (some providerUserId))
  match ← ask (.upgradeAccount userId
      { method := dto.method, email := dto.email, password := dto.password, name := dto.name,
        providerUserId }) with
  | .upgraded result => respond userId .user deviceId result.tokenVersion .user
  | _ => unexpected

/-- `oauthLogin`, with the pair it issues. -/
def oauthLoginResponse (config : OAuthConfig) (platform : Option Platform) (provider : String)
    (dto : OAuthDto) (deviceId : String) : PortalHandler AuthResponseDto := do
  let (verifier, identity) ←
    (verifyOAuthToken config platform provider (presented dto)).expand consult
  match ← ask (.findOrCreateOAuthUser (oauthPayload verifier identity dto)) with
  | .identity user => respond user.id .user deviceId user.tokenVersion user.accountType
  | _ => unexpected

end AuthService

/-! ## The world around the handlers -/

/-- The gateway's world, the requests the user service has received (its store is the
backend), and the providers' replies. -/
structure Portal extends AuthWorld where
  requests : List (Thread UserOperation Command Reply ServiceError Answer) := []
  fetched : Nat := 0
  replies : (request : ProviderRequest) → Nat → ProviderReply request

namespace Portal

/-- The user service. -/
def service (portal : Portal) : ServicePool := ⟨portal.backend, portal.requests⟩

variable [Gateway]

/-- The user service takes a step. -/
def serve (portal : Portal) (label : ServiceLabel) : Portal :=
  { portal with
    backend := (userService.next label portal.service).shared
    requests := (userService.next label portal.service).threads }

/-- What a request is answered by now; without an answer it times out. -/
def response (portal : Portal) (ticket : Nat) : Except HttpException Answer :=
  match portal.delivery with
  | .answered =>
      match (portal.requests[ticket]?).map Thread.status with
      | some (.returned answer) => RpcClientService.unwrap (.ok answer)
      | some (.thrown error) => RpcClientService.unwrap (.error error)
      | _ => .error (RpcClientService.unwrapError "user" .timeout)
  | .lost failure | .unanswered failure =>
      .error (RpcClientService.unwrapError "user" failure.toRpcFailure)

/-- A session command on the gateway's part of the world. -/
def session (portal : Portal) (command : AuthCommand) : Portal × AuthReply command :=
  ({ portal with toAuthWorld := (AuthWorld.exec command portal.toAuthWorld).1 },
    (AuthWorld.exec command portal.toAuthWorld).2)

def exec : (command : PortalCommand) → Portal → Portal × PortalReply command
  | .now, portal => portal.session .now
  | .verify token secret, portal => portal.session (.verify token secret)
  | .redisGet key, portal => portal.session (.redisGet key)
  | .redisSet key value seconds, portal => portal.session (.redisSet key value seconds)
  | .issueTokenPair userId accountType deviceId tokenVersion, portal =>
      portal.session (.issueTokenPair userId accountType deviceId tokenVersion)
  | .fetch request, portal =>
      ({ portal with fetched := portal.fetched + 1 }, portal.replies request portal.fetched)
  | .send operation, portal =>
      match portal.delivery with
      | .lost failure =>
          (portal, .error (RpcClientService.unwrapError "user" failure.toRpcFailure))
      | _ => (portal.serve (.spawn operation), .ok portal.requests.length)
  | .receive ticket, portal => (portal, portal.response ticket)

/-- What happens without the gateway's handlers: time passes, Redis and the bus change,
and the user service goes about its requests and whatever else is asked of it. -/
inductive Event where
  | tick (millis : Millis)
  | redisReads (answering : Bool)
  | redisWrites (mode : RedisWrites)
  | delivery (mode : Delivery)
  | service (label : ServiceLabel)

def environment : Event → Portal → Portal
  | .tick millis, portal => { portal with clock := portal.clock + millis }
  | .redisReads answering, portal => { portal with redisReads := answering }
  | .redisWrites mode, portal => { portal with redisWrites := mode }
  | .delivery mode, portal => { portal with delivery := mode }
  | .service label, portal => portal.serve label

end Portal

/-! ## The handlers -/

/-- A request to the gateway; the caller of an upgrade is known by its access token. -/
inductive PortalOperation where
  | autoreg (dto : AutoregDto) (deviceId clientIp : Option String)
  | login (dto : LoginDto) (deviceId : Option String)
  | upgrade (userId : String) (dto : UpgradeAccountDto) (deviceId : Option String)
      (platform : Option Platform)
  | oauth (provider : String) (dto : OAuthDto) (deviceId : Option String)
      (platform : Option Platform)
  | session (operation : AuthOperation)

inductive PortalAnswer where
  | signedIn (response : AuthResponseDto)
  | session (answer : AuthAnswer)

variable [Gateway] (config : OAuthConfig)

/-- `requireDeviceId`, in front of a sign-in. -/
def AuthController.onDevice (deviceId : Option String)
    (signIn : String → PortalHandler AuthResponseDto) : PortalHandler PortalAnswer := do
  let deviceId ← (AuthController.requireDeviceId deviceId).expand session
  return .signedIn (← signIn deviceId)

def AuthController.respond : PortalOperation → PortalHandler PortalAnswer
  | .autoreg dto deviceId clientIp =>
      onDevice deviceId fun deviceId => AuthService.autoreg dto deviceId clientIp
  | .login dto deviceId => onDevice deviceId fun deviceId => AuthService.login dto deviceId
  | .upgrade userId dto deviceId platform =>
      onDevice deviceId fun deviceId =>
        AuthService.upgrade config platform userId dto deviceId
  | .oauth provider dto deviceId platform =>
      onDevice deviceId fun deviceId =>
        AuthService.oauthLoginResponse config platform provider dto deviceId
  | .session operation => do
      return .session (← (AuthController.handle operation).expand session)

/-- The gateway and the user service. -/
def deployment : System PortalOperation PortalCommand PortalReply GatewayError PortalAnswer Portal
    Portal.Event where
  code := AuthController.respond config
  exec := Portal.exec
  environment := Portal.environment

abbrev PortalPool : Type :=
  Pool PortalOperation PortalCommand PortalReply GatewayError PortalAnswer Portal

abbrev PortalThread : Type :=
  Thread PortalOperation PortalCommand PortalReply GatewayError PortalAnswer

abbrev PortalLabel : Type := Label PortalOperation Portal.Event

end NestMonorepo
