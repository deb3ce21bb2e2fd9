import NestMonorepo.Users.Issuing

/-! # OAuth verifiers

The verifiers turn a provider's answer about a token into a normalized identity.
Each speaks to its own endpoint; what the endpoint answers is up to the provider,
and the verifier decides which answers attest the email they carry.
-/

namespace NestMonorepo

open Collections Concurrency

/-! ## Identities and the requests behind them -/

/-- The normalized identity of a verified token. -/
structure OAuthIdentity where
  providerUserId : String
  email : Option String := none
  emailVerified : Option Bool := none
  name : Option String := none
  deriving DecidableEq, Repr

/-- What a `fetch` comes to; a body that is not JSON reads as none. -/
inductive Fetched (Body : Type) where
  | networkError (message : String)
  | response (status : Nat) (body : Option Body)

/-- VK returns its user ids as numbers or as texts. -/
inductive VkUserId where
  | number (value : Int)
  | text (value : String)
  deriving DecidableEq, Repr

namespace VkUserId

/-- `String(id)` of an id JavaScript takes for true. -/
def render : VkUserId → Option String
  | number value => if value = 0 then none else some (toString value)
  | text value => truthy (some value)

end VkUserId

structure VkUser where
  userId : Option VkUserId := none
  firstName : Option String := none
  lastName : Option String := none
  email : Option String := none
  verified : Option Bool := none

/-- The body of `/oauth2/public_info`. -/
structure VkPublicInfo where
  user : Option VkUser := none
  error : Option String := none
  errorDescription : Option String := none

structure VkProfile where
  id : Option Int := none
  firstName : Option String := none
  lastName : Option String := none

/-- The body of `users.get`, whose `response` is one profile or a list. -/
structure VkUserInfo where
  response : Option (VkProfile ⊕ List VkProfile) := none
  error : Option (Option String) := none

/-- The body of Yandex's user-info endpoint. -/
structure YandexInfo where
  id : Option String := none
  defaultEmail : Option String := none
  realName : Option String := none
  firstName : Option String := none
  lastName : Option String := none
  login : Option String := none

/-- A request to a provider. -/
inductive ProviderRequest where
  | vkPublicInfo (url clientId idToken : String)
  | vkUserInfo (url accessToken : String)
  | yandexInfo (url token : String)
  deriving DecidableEq, Repr

/-- What each request is answered with. -/
@[reducible] def ProviderReply : ProviderRequest → Type
  | .vkPublicInfo _ _ _ => Fetched VkPublicInfo
  | .vkUserInfo _ _ => Fetched VkUserInfo
  | .yandexInfo _ _ => Fetched YandexInfo

/-- The gateway's OAuth settings, and the reading of a JWS header: the `alg` of a
segment that decodes to a JSON object with a textual one. -/
structure OAuthConfig where
  vkAndroidAppId : Option String := none
  vkIosAppId : Option String := none
  vkPublicInfoUrl : Option String := none
  vkUserInfoUrl : Option String := none
  yandexUserInfoUrl : Option String := none
  jwsAlg : String → Option String := fun _ => none

/-! ## The gateway's commands -/

/-- What signing in awaits: a provider, or the user service. -/
inductive OAuthCommand where
  | fetch (request : ProviderRequest)
  | user (operation : UserOperation)

@[reducible] def OAuthReply : OAuthCommand → Type
  | .fetch request => ProviderReply request
  | .user _ => Except HttpException Answer

/-- A part of the gateway's sign-in. -/
abbrev SignIn (α : Type) : Type := Program OAuthCommand OAuthReply GatewayError α

namespace SignIn

variable {α : Type}

def fetch (request : ProviderRequest) : SignIn (ProviderReply request) :=
  Program.perform (.fetch request : OAuthCommand)

/-- `throw new UnauthorizedException({ code: TOKEN_INVALID, message })`. -/
def tokenInvalid (message : String) : SignIn α :=
  .fail (.http (unauthorizedException ErrorCodes.tokenInvalid message))

def upstreamUnavailable (message : String) : SignIn α :=
  .fail (.http (serviceUnavailableException "oauth_upstream_unavailable" message))

end SignIn

open SignIn

/-- The non-empty parts of a name, joined by a blank. -/
def joinNonEmpty (parts : List (Option String)) : String :=
  " ".intercalate (parts.filterMap truthy)

/-! ## VK -/

/-- The user of a body without an error, with its id. -/
def VkPublicInfo.accepted (body : VkPublicInfo) : Option (VkUser × String) :=
  if (truthy body.error).isSome then none
  else body.user.bind fun user => (user.userId.bind VkUserId.render).map fun id => (user, id)

namespace VkOAuthVerifierService

def defaultPublicInfoUrl : String := "https://id.vk.com/oauth2/public_info"

def defaultUserInfoUrl : String := "https://api.vk.com/method/users.get"

/-- The whitelisted client ids, the hinted platform's first. -/
def orderedClientIds (config : OAuthConfig) (platform : Option Platform) : List String :=
  let ordered :=
    if platform = some .ios then [config.vkIosAppId, config.vkAndroidAppId]
    else [config.vkAndroidAppId, config.vkIosAppId]
  ordered.filterMap truthy

/-- Three segments of which the first is a JWS header. -/
def looksLikeJwt (config : OAuthConfig) (token : String) : Bool :=
  match token.splitOn "." with
  | [header, _, _] => (truthy (config.jwsAlg header)).isSome
  | _ => false

def composeName (parts : List (Option String)) : Option String :=
  truthy (some (trim (joinNonEmpty parts)))

/-- What one attempt at `/oauth2/public_info` comes to. -/
inductive PublicInfo where
  | ok (identity : OAuthIdentity)
  | rejected (message : String)
  | upstream (message : String)

def identityOf (user : VkUser) (providerUserId : String) : OAuthIdentity where
  providerUserId
  email := truthy user.email
  emailVerified := some ((truthy user.email).isSome && decide (user.verified = some true))
  name := composeName [user.firstName, user.lastName]

def tryPublicInfo (config : OAuthConfig) (clientId idToken : String) : SignIn PublicInfo := do
  let url := config.vkPublicInfoUrl.getD defaultPublicInfoUrl
  match ← fetch (.vkPublicInfo url clientId idToken) with
  | .networkError message => pure (.upstream ("VK public_info network error: " ++ message))
  | .response status body =>
      if status ≥ 500 then pure (.upstream ("VK public_info returned " ++ toString status))
      else
        match body.bind VkPublicInfo.accepted with
        | none =>
            let reason := (body.bind VkPublicInfo.errorDescription).or
              (body.bind VkPublicInfo.error)
            pure (.rejected ("client_id=" ++ clientId ++ ": " ++ reason.getD "unknown"))
        | some (user, providerUserId) => pure (.ok (identityOf user providerUserId))

/-- The loop over the client ids: the first one VK accepts wins, and an outage
ends it. -/
def tryClientIds (config : OAuthConfig) (idToken : String) : List String → SignIn OAuthIdentity
  | [] => tokenInvalid "VK rejected the token"
  | clientId :: rest => do
      match ← tryPublicInfo config clientId idToken with
      | .ok identity => pure identity
      | .upstream message => upstreamUnavailable message
      | .rejected _ => tryClientIds config idToken rest

def verifyIdToken (config : OAuthConfig) (platform : Option Platform) (idToken : String) :
    SignIn OAuthIdentity :=
  let clientIds := orderedClientIds config platform
  if clientIds.isEmpty then
    tokenInvalid
      "VK OAuth is not configured on this server — set VK_ANDROID_APP_ID / VK_IOS_APP_ID"
  else tryClientIds config idToken clientIds

/-- The profile of the first entry. -/
def profile (body : VkUserInfo) : Option VkProfile :=
  match body.response with
  | some (.inl profile) => some profile
  | some (.inr profiles) => profiles.head?
  | none => none

/-- The identity of a user-info body: it carries no email. -/
def readUserInfo (body : Option VkUserInfo) : SignIn OAuthIdentity :=
  match body with
  | none => tokenInvalid "VK rejected the token"
  | some body =>
      if body.error.isSome then tokenInvalid "VK rejected the token"
      else
        match (profile body).bind fun found =>
            (found.id.bind fun id => (VkUserId.number id).render).map fun id => (found, id) with
        | none => tokenInvalid "VK rejected the token"
        | some (found, providerUserId) =>
            pure { providerUserId, name := composeName [found.firstName, found.lastName] }

def verifyAccessToken (config : OAuthConfig) (accessToken : String) : SignIn OAuthIdentity := do
  let request := ProviderRequest.vkUserInfo
    (config.vkUserInfoUrl.getD defaultUserInfoUrl) accessToken
  match ← fetch request with
  | .networkError _ => upstreamUnavailable "VK is temporarily unavailable"
  | .response status body =>
      if status ≥ 500 then
        -- one retry
        match ← fetch request with
        | .networkError _ => upstreamUnavailable "VK is temporarily unavailable"
        | .response status body =>
            if status ≥ 500 then upstreamUnavailable ("VK returned " ++ toString status)
            else readUserInfo body
      else readUserInfo body

def verify (config : OAuthConfig) (platform : Option Platform) (token : String) :
    SignIn OAuthIdentity :=
  if token = "" then tokenInvalid "VK token required"
  else if looksLikeJwt config token then verifyIdToken config platform token
  else verifyAccessToken config token

end VkOAuthVerifierService

/-! ## Yandex -/

namespace YandexOAuthVerifierService

def defaultUserInfoUrl : String := "https://login.yandex.ru/info"

def identityOf (body : YandexInfo) (providerUserId : String) : OAuthIdentity where
  providerUserId
  email := body.defaultEmail
  emailVerified := some (truthy body.defaultEmail).isSome
  name :=
    ((truthy body.realName).or
      (truthy (some (joinNonEmpty [body.firstName, body.lastName])))).or (truthy body.login)

/-- What `verify` makes of the response it ends up with. -/
def readInfo (status : Nat) (body : Option YandexInfo) : SignIn OAuthIdentity :=
  if status = 401 ∨ status = 403 then tokenInvalid "Yandex rejected the token"
  else if status ≥ 500 then upstreamUnavailable ("Yandex returned " ++ toString status)
  else if ¬(200 ≤ status ∧ status < 300) then
    tokenInvalid ("Yandex returned " ++ toString status)
  else
    match body.bind fun body => (truthy body.id).map fun id => (body, id) with
    | none => tokenInvalid "Yandex returned an unexpected payload"
    | some (body, providerUserId) => pure (identityOf body providerUserId)

def verify (config : OAuthConfig) (token : String) : SignIn OAuthIdentity := do
  if token = "" then tokenInvalid "Yandex token required"
  else
    let request := ProviderRequest.yandexInfo
      (config.yandexUserInfoUrl.getD defaultUserInfoUrl) token
    match ← fetch request with
    | .networkError _ => upstreamUnavailable "Yandex ID is temporarily unavailable"
    | .response status body =>
        if status ≥ 500 then
          -- `fetchWithRetry`: one retry
          match ← fetch request with
          | .networkError _ => upstreamUnavailable "Yandex ID is temporarily unavailable"
          | .response status body => readInfo status body
        else readInfo status body

end YandexOAuthVerifierService

/-! ## The factory -/

/-- What the factory's table holds under a name: a verifier, or an inherited
property that has no `verify`. -/
inductive OAuthVerifier where
  | vk
  | yandex
  | inherited (name : String)
  deriving DecidableEq, Repr

namespace OAuthVerifierFactory

/-- `OAuthVerifierFactory.for`. -/
def verifierFor (provider : String) : Except GatewayError OAuthVerifier :=
  if provider = "vk" then .ok .vk
  else if provider = "yandex" then .ok .yandex
  else if provider ∈ objectPrototypeNames then .ok (.inherited provider)
  else .error (.http (unauthorizedException ErrorCodes.tokenInvalid
    ("OAuth provider '" ++ provider ++ "' not supported on the server")))

end OAuthVerifierFactory

/-- `verifier.verify(token, hints)`. -/
def OAuthVerifier.verify (config : OAuthConfig) (platform : Option Platform) (token : String) :
    OAuthVerifier → SignIn OAuthIdentity
  | .vk => VkOAuthVerifierService.verify config platform token
  | .yandex => YandexOAuthVerifierService.verify config token
  | .inherited _ => .fail (.other "this.oauthFactory.for(...).verify is not a function")

end NestMonorepo
