import NestMonorepo.Gateway.Auth

/-! # Access tokens

The guard of the protected routes checks a token in one go: it awaits nothing
between the signature and the claims, so its verdict is a function of the token
and the time.
-/

namespace NestMonorepo

open Concurrency

/-- The user of a protected request: the token's payload and its `sub`. -/
structure AccessUser extends JwtPayload where
  userId : String
  deriving DecidableEq, Repr

namespace JwtAccessStrategy

def validate (payload : JwtPayload) : Except HttpException AccessUser :=
  match truthy payload.sub with
  | none => .error (unauthorizedException ErrorCodes.tokenInvalid "Missing subject")
  | some sub =>
      if payload.type ≠ some .autoreg ∧ payload.type ≠ some .user then
        .error
          (unauthorizedException ErrorCodes.tokenInvalid "Wrong token type for this endpoint")
      else .ok { payload with userId := sub }

/-- What passport makes of the bearer token: the validated user, or none where the
token does not verify; an error of `validate` is thrown. -/
def authenticate [Gateway] (bearer : Option Jwt) (now : Millis) :
    Except HttpException (Option AccessUser) :=
  match bearer with
  | none => .ok none
  | some token =>
      match JwtService.verify token Gateway.jwtAccessSecret now with
      | none => .ok none
      | some payload => (validate payload.toJwtPayload).map some

end JwtAccessStrategy

namespace JwtAccessGuard

/-- `info` tells a token that has only expired from any other failure. -/
def handleRequest (expired : Bool) :
    Except HttpException (Option AccessUser) → Except HttpException AccessUser
  | .ok (some user) => .ok user
  | _ =>
      if expired then
        .error
          (unauthorizedException ErrorCodes.tokenExpired "Access token expired — refresh it")
      else .error (unauthorizedException ErrorCodes.tokenInvalid "Authentication required")

/-- Passport reports an expiry of a token whose seal is good. -/
def expired [Gateway] (bearer : Option Jwt) (now : Millis) : Bool :=
  match bearer with
  | none => false
  | some token =>
      token.secret = Gateway.jwtAccessSecret ∧
        (JwtService.verify token Gateway.jwtAccessSecret now).isNone

/-- The user of the request; a public route has none. -/
def canActivate [Gateway] (isPublic : Bool) (bearer : Option Jwt) (now : Millis) :
    Except HttpException (Option AccessUser) :=
  if isPublic then .ok none
  else (handleRequest (expired bearer now) (JwtAccessStrategy.authenticate bearer now)).map some

end JwtAccessGuard

section Separation

variable [Gateway]

/-- The access strategy takes the token for a user's. -/
def JwtAccessStrategy.Accepts (token : Jwt) (world : AuthWorld) : Prop :=
  ∃ user, authenticate (some token) world.clock = .ok (some user)

/-- The refresh strategy takes the token for a user's. -/
def JwtRefreshStrategy.Accepts (token : Jwt) (world : AuthWorld) : Prop :=
  ∃ user, ((authenticate (some token)).run AuthWorld.exec world).2 = .ok (some user)

/-- From the moment they are issued, neither token of the pair is accepted in place
of the other. -/
def NeverInterchanged (userId : String) (accountType : Option AccountType) (deviceId : String)
    (tokenVersion : Nat) (world : AuthWorld) : Prop :=
  ∀ later : AuthWorld, world.clock ≤ later.clock →
    ¬JwtAccessStrategy.Accepts
        (world.issue userId accountType deviceId tokenVersion).2.refreshToken later ∧
      ¬JwtRefreshStrategy.Accepts
        (world.issue userId accountType deviceId tokenVersion).2.accessToken later

/-! ## What the strategies ask for -/

variable {token : Jwt} {world : AuthWorld}

/-- What the access strategy asks of a token. -/
structure AccessClaims (payload : JwtRefreshPayload) : Prop where
  subject : (truthy payload.sub).isSome
  accountType : payload.type.isSome

/-- What the refresh strategy asks of a token before it consults the blacklist. -/
structure RefreshClaims (payload : JwtRefreshPayload) : Prop where
  subject : (truthy payload.sub).isSome
  identifier : (truthy payload.jti).isSome
  device : (truthy payload.deviceId).isSome

omit [Gateway] in
/-- A token is verified when it was signed with the secret and is not expired; its payload
is then the one it was signed with. -/
theorem JwtService.verify_eq_some {secret : String} {now : Millis} {payload : JwtRefreshPayload} :
    JwtService.verify token secret now = some payload ↔
      (token.secret = secret ∧ token.payload.exp.all (fun exp => now / 1000 < exp)) ∧
        token.payload = payload := by
  rw [JwtService.verify, Option.ite_none_right_eq_some]
  simp only [Option.some.injEq]

omit [Gateway] in
/-- The access strategy accepts exactly the payloads with an access token's claims. -/
theorem JwtAccessStrategy.validate_isOk_iff (payload : JwtRefreshPayload) :
    (∃ user, validate payload.toJwtPayload = .ok user) ↔ AccessClaims payload := by
  constructor
  · rintro ⟨user, validated⟩
    unfold validate at validated
    cases subject : truthy payload.sub with
    | none => simp only [subject, reduceCtorEq] at validated
    | some sub =>
        cases accountType : payload.type with
        | none => simp [subject, accountType] at validated
        | some type => exact ⟨by rw [subject]; rfl, by rw [accountType]; rfl⟩
  · intro claims
    obtain ⟨sub, subject⟩ := Option.isSome_iff_exists.mp claims.subject
    obtain ⟨type, accountType⟩ := Option.isSome_iff_exists.mp claims.accountType
    refine ⟨{ payload.toJwtPayload with userId := sub }, ?_⟩
    simp only [validate, subject, accountType]
    cases type <;> rfl

/-- The access strategy asks for its own secret, an unexpired token, a subject and
an account type. -/
theorem JwtAccessStrategy.accepts_iff :
    JwtAccessStrategy.Accepts token world ↔
      (token.secret = Gateway.jwtAccessSecret ∧
        token.payload.exp.all fun exp => world.clock / 1000 < exp) ∧
        AccessClaims token.payload := by
  rw [← JwtAccessStrategy.validate_isOk_iff, JwtAccessStrategy.Accepts,
    JwtAccessStrategy.authenticate]
  cases verified : JwtService.verify token Gateway.jwtAccessSecret world.clock with
  | none =>
      constructor
      · rintro ⟨user, accepted⟩
        cases accepted
      · rintro ⟨sealed, -⟩
        have verifies := JwtService.verify_eq_some.mpr ⟨sealed, rfl⟩
        rw [verified] at verifies
        cases verifies
  | some payload =>
      obtain ⟨sealed, rfl⟩ := JwtService.verify_eq_some.mp verified
      simp only
      cases validate token.payload.toJwtPayload with
      | error exception => simp [Except.map]
      | ok user => simpa [Except.map] using sealed

/-- The refresh strategy accepts no token without the claims of its own. -/
theorem JwtRefreshStrategy.Accepts.claims (accepts : JwtRefreshStrategy.Accepts token world) :
    RefreshClaims token.payload := by
  obtain ⟨user, accepted⟩ := accepts
  simp only [authenticate, Program.perform_bind, Program.run_call, AuthWorld.exec] at accepted
  cases verified : JwtService.verify token Gateway.jwtRefreshSecret world.clock with
  | none => simp [verified] at accepted
  | some payload =>
      obtain ⟨-, rfl⟩ := JwtService.verify_eq_some.mp verified
      rw [verified] at accepted
      simp only [validate] at accepted
      cases subject : truthy token.payload.sub with
      | none => simp [subject, AuthHandler.unauthorized] at accepted
      | some sub =>
          cases identifier : truthy token.payload.jti with
          | none => simp [subject, identifier, AuthHandler.unauthorized] at accepted
          | some jti =>
              cases device : truthy token.payload.deviceId with
              | none => simp [subject, identifier, device, AuthHandler.unauthorized] at accepted
              | some deviceId =>
                  exact ⟨by rw [subject]; rfl, by rw [identifier]; rfl, by rw [device]; rfl⟩

/-- The guard of a protected route passes what the strategy accepts. -/
theorem JwtAccessGuard.passes_iff :
    (∃ user, JwtAccessGuard.canActivate false (some token) world.clock = .ok (some user)) ↔
      JwtAccessStrategy.Accepts token world := by
  simp only [JwtAccessGuard.canActivate, JwtAccessStrategy.Accepts, Bool.false_eq_true,
    ↓reduceIte]
  cases JwtAccessStrategy.authenticate (some token) world.clock with
  | error exception =>
      cases JwtAccessGuard.expired (some token) world.clock <;>
        simp [JwtAccessGuard.handleRequest, Except.map]
  | ok user =>
      cases user with
      | none =>
          cases JwtAccessGuard.expired (some token) world.clock <;>
            simp [JwtAccessGuard.handleRequest, Except.map]
      | some user => simp [JwtAccessGuard.handleRequest, Except.map]

/-! ## The tokens of a pair -/

section Issued

variable (userId : String) (accountType : Option AccountType) (deviceId : String)
  (tokenVersion : Nat) (world later : AuthWorld)

/-- An access token has no identifier, whatever secret it is sealed with. -/
theorem not_accepts_accessToken :
    ¬JwtRefreshStrategy.Accepts
      (world.issue userId accountType deviceId tokenVersion).2.accessToken later := by
  intro accepts
  have identifier := accepts.claims.identifier
  cases identifier

/-- A refresh token has the claims of an access token, so the access strategy accepts one if
the secrets are the same; nothing else tells the two kinds apart. -/
theorem accepts_refreshToken_iff :
    JwtAccessStrategy.Accepts
        (world.issue userId accountType deviceId tokenVersion).2.refreshToken later ↔
      Gateway.jwtRefreshSecret = Gateway.jwtAccessSecret ∧
        later.clock / 1000 <
          world.clock / 1000 + Gateway.jwtRefreshExpiresIn.getD (30 * 24 * 60 * 60) ∧
        userId ≠ "" ∧ accountType ≠ none := by
  have claims : AccessClaims
      (world.issue userId accountType deviceId tokenVersion).2.refreshToken.payload ↔
        userId ≠ "" ∧ accountType ≠ none := by
    constructor
    · intro claims
      obtain ⟨sub, subject⟩ := Option.isSome_iff_exists.mp claims.subject
      obtain ⟨same, nonempty⟩ := truthy_eq_some.mp subject
      cases same
      exact ⟨nonempty, Option.isSome_iff_ne_none.mp claims.accountType⟩
    · rintro ⟨nonempty, typed⟩
      exact ⟨Option.isSome_iff_exists.mpr ⟨userId, truthy_eq_some.mpr ⟨rfl, nonempty⟩⟩,
        Option.isSome_iff_ne_none.mpr typed⟩
  rw [JwtAccessStrategy.accepts_iff, claims, and_assoc]
  simp only [AuthWorld.issue, AuthService.issueTokenPair, JwtService.sign, Option.all_some,
    decide_eq_true_eq]

/-- The tokens of a pair stay apart if the secrets differ, or the refresh token has
no subject, no account type or no lifetime. -/
theorem neverInterchanged_iff :
    NeverInterchanged userId accountType deviceId tokenVersion world ↔
      Gateway.jwtAccessSecret ≠ Gateway.jwtRefreshSecret ∨ userId = "" ∨ accountType = none ∨
        Gateway.jwtRefreshExpiresIn = some 0 := by
  constructor
  · intro apart
    by_contra shared
    push Not at shared
    obtain ⟨secret, named, typed, lasting⟩ := shared
    have accepted := (accepts_refreshToken_iff userId accountType deviceId tokenVersion world
      world).mpr
    have lifetime : 0 < Gateway.jwtRefreshExpiresIn.getD (30 * 24 * 60 * 60) := by
      cases expiresIn : Gateway.jwtRefreshExpiresIn with
      | none => decide
      | some seconds =>
          rw [expiresIn] at lasting
          exact Nat.pos_of_ne_zero fun none => lasting (congrArg some none)
    exact (apart world le_rfl).1 (accepted
      ⟨secret.symm, Nat.lt_add_of_pos_right lifetime, named, typed⟩)
  · intro apart later since
    refine ⟨fun accepts => ?_, not_accepts_accessToken _ _ _ _ _ _⟩
    obtain ⟨secret, unexpired, named, typed⟩ := (accepts_refreshToken_iff _ _ _ _ _ _).mp accepts
    rcases apart with differ | unnamed | untyped | lapsed
    · exact differ secret.symm
    · exact named unnamed
    · exact typed untyped
    · rw [lapsed, Option.getD_some, Nat.add_zero] at unexpired
      exact absurd (Nat.div_le_div_right since) (Nat.not_le.mpr unexpired)

end Issued

end Separation

/-! ## One secret for both -/

section SharedSecret

/-- One text as both secrets. -/
local instance sharedSecretGateway : Gateway :=
  { plainGateway with jwtAccessSecret := "secret", jwtRefreshSecret := "secret" }

/-- With one secret for both kinds the tokens can be interchanged: nothing in a payload
tells an access token from a refresh token. -/
theorem not_neverInterchanged_of_sharedSecret :
    ¬NeverInterchanged "u" (some .user) "device" 0 {} := by
  intro apart
  apply (apart {} le_rfl).1
  rw [accepts_refreshToken_iff]
  exact ⟨rfl, by decide, by decide, by decide⟩

end SharedSecret

end NestMonorepo
