import NestMonorepo.Collections.Keyed
import NestMonorepo.Database.ObjectIds
import NestMonorepo.Gateway.Rpc

/-! # Tokens, their store, and what the gateway awaits

A JWT is a payload sealed with a secret. The blacklist of refresh tokens lives in
Redis as keys that expire; the gateway and Redis share one clock.
-/

namespace NestMonorepo

open Collections Concurrency

/-! ## JSON web tokens -/

/-- Times inside a token, in whole seconds. -/
abbrev Seconds := Nat

/-- The payload of an access token. -/
structure JwtPayload where
  sub : Option String := none
  type : Option AccountType := none
  iat : Option Seconds := none
  exp : Option Seconds := none
  deriving DecidableEq, Repr

/-- The payload of a refresh token; any claim of a presented token may be missing. -/
structure JwtRefreshPayload extends JwtPayload where
  jti : Option String := none
  deviceId : Option String := none
  tv : Option Nat := none
  deriving DecidableEq, Repr

/-- A signed token: it verifies under the secret it was sealed with. -/
structure Jwt where
  payload : JwtRefreshPayload
  secret : String
  deriving DecidableEq, Repr

namespace JwtService

def sign (payload : JwtRefreshPayload) (secret : String) (expiresIn : Seconds) (now : Millis) :
    Jwt where
  payload := { payload with iat := some (now / 1000), exp := some (now / 1000 + expiresIn) }
  secret

/-- The payload of a token that is sealed with the secret and not yet expired. -/
def verify (token : Jwt) (secret : String) (now : Millis) : Option JwtRefreshPayload :=
  if token.secret = secret ∧ token.payload.exp.all (fun exp => now / 1000 < exp) then
    some token.payload
  else none

end JwtService

structure TokenPairDto where
  accessToken : Jwt
  refreshToken : Jwt
  deriving DecidableEq, Repr

/-- The gateway's JWT settings and its source of random identifiers. -/
class Gateway extends Libraries where
  jwtAccessSecret : String
  jwtRefreshSecret : String
  jwtAccessExpiresIn : Option Seconds
  jwtRefreshExpiresIn : Option Seconds
  /-- The outcome of the n-th call of `randomUUID`. -/
  randomUUID : Nat → String
  randomUUID_injective : Function.Injective randomUUID
  randomUUID_nonempty : ∀ draw, randomUUID draw ≠ ""

/-- `AuthService.issueTokenPair`, run at `now` on a fresh identifier. -/
def AuthService.issueTokenPair [Gateway] (userId : String) (accountType : Option AccountType)
    (deviceId : String) (tokenVersion : Nat) (jti : String) (now : Millis) : TokenPairDto where
  accessToken :=
    JwtService.sign { sub := some userId, type := accountType } Gateway.jwtAccessSecret
      (Gateway.jwtAccessExpiresIn.getD (15 * 60)) now
  refreshToken :=
    JwtService.sign
      { sub := some userId, type := accountType, jti := some jti, deviceId := some deviceId,
        tv := some tokenVersion }
      Gateway.jwtRefreshSecret (Gateway.jwtRefreshExpiresIn.getD (30 * 24 * 60 * 60)) now

/-! ## The world of the gateway -/

structure RedisEntry where
  key : String
  value : String
  expiresAt : Millis
  deriving DecidableEq, Repr

/-- How Redis takes a `SET`: it stores the key and says so, it does not store it,
or the acknowledgement is lost. -/
inductive RedisWrites where
  | stored
  | refused
  | unacknowledged
  deriving DecidableEq, Repr

/-- Redis, the user service and the clock, with the tokens signed so far. -/
structure AuthWorld where
  clock : Millis := 0
  redis : List RedisEntry := []
  redisReads : Bool := true
  redisWrites : RedisWrites := .stored
  issued : List Jwt := []
  uuidDraws : Nat := 0
  delivery : Delivery := .answered
  backend : Backend := {}

namespace AuthWorld

/-- The entry a `GET` finds. -/
def redisGet (world : AuthWorld) (key : String) : Option RedisEntry :=
  (fetch RedisEntry.key key world.redis).filter fun entry => world.clock < entry.expiresAt

/-- `SET key value EX seconds`. -/
def redisSet (world : AuthWorld) (key value : String) (seconds : Seconds) : AuthWorld :=
  { world with
    redis := removeAt RedisEntry.key key world.redis ++
      [⟨key, value, world.clock + 1000 * seconds⟩] }

end AuthWorld

/-! ## Commands -/

/-- What the gateway's session handlers await, and the clock, the signing library
and the random source they consult in between. -/
inductive AuthCommand where
  | now
  | verify (token : Jwt) (secret : String)
  | redisGet (key : String)
  | redisSet (key value : String) (seconds : Seconds)
  | user (operation : UserOperation)
  | issueTokenPair (userId : String) (accountType : Option AccountType) (deviceId : String)
      (tokenVersion : Nat)

@[reducible] def AuthReply : AuthCommand → Type
  | .now => Millis
  | .verify _ _ => Option JwtRefreshPayload
  | .redisGet _ => Except String (Option String)
  | .redisSet _ _ _ => Except String Unit
  | .user _ => Except HttpException Answer
  | .issueTokenPair _ _ _ _ => TokenPairDto

namespace AuthWorld

variable [Gateway]

/-- The state after issuing a pair, and the pair. -/
def issue (world : AuthWorld) (userId : String) (accountType : Option AccountType)
    (deviceId : String) (tokenVersion : Nat) : AuthWorld × TokenPairDto :=
  let pair := AuthService.issueTokenPair userId accountType deviceId tokenVersion
    (Gateway.randomUUID world.uuidDraws) world.clock
  ({ world with
      uuidDraws := world.uuidDraws + 1
      issued := world.issued ++ [pair.accessToken, pair.refreshToken] }, pair)

def exec : (command : AuthCommand) → AuthWorld → AuthWorld × AuthReply command
  | .now, world => (world, world.clock)
  | .verify token secret, world => (world, JwtService.verify token secret world.clock)
  | .redisGet key, world =>
      (world,
        if world.redisReads then .ok ((world.redisGet key).map RedisEntry.value)
        else .error "Connection is closed.")
  | .redisSet key value seconds, world =>
      match world.redisWrites with
      | .stored => (world.redisSet key value seconds, .ok ())
      | .refused => (world, .error "Connection is closed.")
      | .unacknowledged =>
          (world.redisSet key value seconds, .error "Connection is closed.")
  | .user operation, world =>
      let (backend, outcome) := RpcClientService.user world.delivery operation world.backend
      ({ world with backend }, outcome)
  | .issueTokenPair userId accountType deviceId tokenVersion, world =>
      world.issue userId accountType deviceId tokenVersion

/-- What happens without the session handlers: time passes, Redis, the bus and the
user service change, and the other endpoints sign users in. -/
inductive Event where
  | tick (millis : Millis)
  | redisReads (answering : Bool)
  | redisWrites (mode : RedisWrites)
  | delivery (mode : Delivery)
  | users (backend : Backend)
  | signIn (userId : String) (accountType : AccountType) (deviceId : String) (tokenVersion : Nat)

def environment : Event → AuthWorld → AuthWorld
  | .tick millis, world => { world with clock := world.clock + millis }
  | .redisReads answering, world => { world with redisReads := answering }
  | .redisWrites mode, world => { world with redisWrites := mode }
  | .delivery mode, world => { world with delivery := mode }
  | .users backend, world => { world with backend }
  | .signIn userId accountType deviceId tokenVersion, world =>
      (world.issue userId (some accountType) deviceId tokenVersion).1

end AuthWorld

/-- Settings and library functions for evaluating concrete runs. -/
@[reducible] def plainGateway : Gateway where
  toLibraries := Plain.libraries
  jwtAccessSecret := "access"
  jwtRefreshSecret := "refresh"
  jwtAccessExpiresIn := none
  jwtRefreshExpiresIn := none
  randomUUID := ObjectIds.toHexString
  randomUUID_injective := ObjectIds.toHexString_injective
  randomUUID_nonempty draw empty := by
    have read := ObjectIds.ofHexString_toHexString draw
    rw [empty] at read
    cases read

end NestMonorepo
