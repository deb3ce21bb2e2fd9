import NestMonorepo.Gateway.Auth

/-! # What a `401` from refresh means

Clients discard their tokens on a `401`. The response is decided by passport, the
strategy, the token store, the guard, the controller and the service in sequence;
each is followed here on an arbitrary world.
-/

namespace NestMonorepo

open Collections Concurrency

/-! ## Unusable tokens -/

/-- The store holds a live user under the id. -/
def LiveUser [Libraries] (backend : Backend) (userId : String) (user : User) : Prop :=
  Libraries.ofHexString userId = some user.id ∧
    fetch User.id user.id backend.users = some user ∧ user.Live

/-- The key of the token identifier is readable and says it is revoked. -/
def AuthWorld.Blacklisted (world : AuthWorld) (jti : String) : Prop :=
  ∃ entry, world.redisGet (TokenStoreService.keyPrefix ++ jti) = some entry ∧ entry.value = "1"

/-- A claim that refresh needs is missing or empty. -/
def JwtRefreshPayload.Incomplete (payload : JwtRefreshPayload) : Prop :=
  truthy payload.sub = none ∨ truthy payload.jti = none ∨ truthy payload.deviceId = none ∨
    payload.exp.filter (· ≠ 0) = none

section Law

variable [Gateway]

/-- Why a presented token cannot be exchanged, now or ever. -/
inductive Unusable (world : AuthWorld) (deviceId : Option String) : Option Jwt → Prop
  | malformed : Unusable world deviceId none
  | badSignature {token} : token.secret ≠ Gateway.jwtRefreshSecret →
      Unusable world deviceId (some token)
  | expired {token exp} : token.payload.exp = some exp → exp ≤ world.clock / 1000 →
      Unusable world deviceId (some token)
  | incomplete {token} : token.payload.Incomplete → Unusable world deviceId (some token)
  | blacklisted {token jti} : token.payload.jti = some jti → world.Blacklisted jti →
      Unusable world deviceId (some token)
  | otherDevice {token} : token.payload.deviceId ≠ some (trim (deviceId.getD "")) →
      Unusable world deviceId (some token)
  | noUser {token sub} : token.payload.sub = some sub →
      (∀ user, ¬LiveUser world.backend sub user) → Unusable world deviceId (some token)
  | stale {token sub user} : token.payload.sub = some sub → LiveUser world.backend sub user →
      token.payload.tv.getD 0 ≠ user.tokenVersion → Unusable world deviceId (some token)

/-- The response to a refresh served in `world`. -/
def refreshResponse (bearer : Option Jwt) (deviceId : Option String) (world : AuthWorld) :
    Except ErrorResponse AuthAnswer :=
  ((gateway.code (.refresh bearer deviceId)).run AuthWorld.exec world).2.mapError
    AllExceptionsFilter.catch

/-- The token gets as far as the blacklist lookup: it verifies, and names a user,
an identifier and a device. -/
def LooksUp (bearer : Option Jwt) (world : AuthWorld) : Prop :=
  ∃ token payload, bearer = some token ∧
    JwtService.verify token Gateway.jwtRefreshSecret world.clock = some payload ∧
    (truthy payload.sub).isSome ∧ (truthy payload.jti).isSome ∧ (truthy payload.deviceId).isSome

/-- A `401` is given to unusable tokens only; a lookup that fails is answered by
`503`. -/
structure RejectsUnusable (bearer : Option Jwt) (deviceId : Option String)
    (world : AuthWorld) : Prop where
  unusable : ∀ response, refreshResponse bearer deviceId world = .error response →
    response.statusCode = 401 → Unusable world deviceId bearer
  unavailable : LooksUp bearer world → world.redisReads = false →
    refreshResponse bearer deviceId world =
      .error ⟨503, "auth_store_unavailable", "Authentication service temporarily unavailable", none⟩

/-! ## Following a request -/

variable {bearer : Option Jwt} {deviceId : Option String} {world : AuthWorld}

/-- What the guard rejects with, whatever the reason. -/
def JwtRefreshGuard.rejection : GatewayError :=
  .http (unauthorizedException ErrorCodes.tokenInvalid "Invalid or expired refresh token")

omit [Gateway] in
/-- The lookup reads the entry the claim calls blacklisted. -/
theorem AuthWorld.blacklisted_iff {jti : String} : world.Blacklisted jti ↔
    (world.redisGet (TokenStoreService.keyPrefix ++ jti)).map RedisEntry.value = some "1" := by
  rw [Option.map_eq_some_iff]
  rfl

/-- `validate` rejects what is incomplete, blacklisted or cannot be looked up, and
passes the payload on otherwise. -/
theorem validate_run (payload : JwtRefreshPayload) (world : AuthWorld) :
    (∃ error, (JwtRefreshStrategy.validate payload).run AuthWorld.exec world =
        (world, .error error) ∧
      (payload.Incomplete ∨ (∃ jti, payload.jti = some jti ∧ world.Blacklisted jti) ∨
        world.redisReads = false ∧ (truthy payload.sub).isSome ∧ (truthy payload.jti).isSome ∧
          (truthy payload.deviceId).isSome)) ∨
    world.redisReads = true ∧ ∃ sub, payload.sub = some sub ∧
      (JwtRefreshStrategy.validate payload).run AuthWorld.exec world =
        (world, .ok { payload with userId := sub }) := by
  unfold JwtRefreshStrategy.validate
  cases named : truthy payload.sub with
  | none => exact .inl ⟨_, rfl, .inl (.inl named)⟩
  | some sub =>
      cases identified : truthy payload.jti with
      | none => exact .inl ⟨_, rfl, .inl (.inr (.inl identified))⟩
      | some jti =>
          cases bound : truthy payload.deviceId with
          | none => exact .inl ⟨_, rfl, .inl (.inr (.inr (.inl bound)))⟩
          | some device =>
              simp only [reduceCtorEq, ↓reduceIte, TokenStoreService.isBlacklisted,
                Program.perform_bind, Program.call_bind, Program.run_call, AuthWorld.exec]
              cases reads : world.redisReads with
              | false => exact .inl ⟨_, rfl, .inr (.inr ⟨rfl, rfl, rfl, rfl⟩)⟩
              | true =>
                  by_cases revoked : world.Blacklisted jti
                  · have value := AuthWorld.blacklisted_iff.mp revoked
                    simp only [↓reduceIte, value, decide_true, Program.pure_eq, Program.ret_bind]
                    exact .inl ⟨_, rfl, .inr (.inl
                      ⟨jti, (truthy_eq_some.mp identified).1, revoked⟩)⟩
                  · have value := AuthWorld.blacklisted_iff.not.mp revoked
                    simp only [↓reduceIte, value, decide_false, Bool.false_eq_true,
                      Program.pure_eq, Program.ret_bind]
                    exact .inr ⟨trivial, sub, (truthy_eq_some.mp named).1, rfl⟩

omit [Gateway] in
/-- A token verifies to its own payload. -/
theorem verify_payload {token : Jwt} {secret : String} {now : Millis}
    {payload : JwtRefreshPayload} (verified : JwtService.verify token secret now = some payload) :
    payload = token.payload := by
  unfold JwtService.verify at verified
  split at verified
  · exact (Option.some.inj verified).symm
  · cases verified

/-- A token that does not verify has another secret or has expired. -/
theorem unusable_of_not_verified {token : Jwt}
    (rejected : JwtService.verify token Gateway.jwtRefreshSecret world.clock = none) :
    Unusable world deviceId (some token) := by
  unfold JwtService.verify at rejected
  split at rejected
  · cases rejected
  · rename_i invalid
    by_cases sealed_ : token.secret = Gateway.jwtRefreshSecret
    · have expires := fun timely => invalid ⟨sealed_, timely⟩
      cases expiry : token.payload.exp with
      | none => exact (expires (by rw [expiry]; rfl)).elim
      | some exp =>
          refine .expired expiry (not_lt.mp fun timely => expires ?_)
          simpa only [expiry, Option.all_some, decide_eq_true_eq] using timely
    · exact .badSignature sealed_

/-- The guard rejects unusable tokens, and those whose lookup fails, with one and the same
error. Otherwise it leaves the world as it is and answers the token's user. -/
theorem canActivate_run (bearer : Option Jwt) (deviceId : Option String) (world : AuthWorld) :
    ((JwtRefreshGuard.canActivate bearer).run AuthWorld.exec world =
        (world, .error JwtRefreshGuard.rejection) ∧
      (Unusable world deviceId bearer ∨ LooksUp bearer world ∧ world.redisReads = false)) ∨
    world.redisReads = true ∧ ∃ token sub, bearer = some token ∧ token.payload.sub = some sub ∧
      (JwtRefreshGuard.canActivate bearer).run AuthWorld.exec world =
        (world, .ok { token.payload with userId := sub }) := by
  cases bearer with
  | none => exact .inl ⟨rfl, .inl .malformed⟩
  | some token =>
      simp only [JwtRefreshGuard.canActivate, JwtRefreshStrategy.authenticate,
        Program.perform_bind, Program.attempt_call, Program.call_bind, Program.run_call,
        AuthWorld.exec]
      cases verified : JwtService.verify token Gateway.jwtRefreshSecret world.clock with
      | none => exact .inl ⟨rfl, .inl (unusable_of_not_verified verified)⟩
      | some payload =>
          obtain rfl := verify_payload verified
          rcases validate_run token.payload world with
            ⟨error, ran, why⟩ | ⟨reads, sub, named, ran⟩
          · have thrown := Program.run_bind_of_error AuthWorld.exec ran
              fun user => (pure (some user) : AuthHandler (Option RefreshUser))
            have caught := Program.run_bind_of_ok AuthWorld.exec
              ((Program.run_attempt AuthWorld.exec _ world).trans (by rw [thrown]))
              JwtRefreshGuard.handleRequest
            refine .inl ⟨caught, ?_⟩
            rcases why with incomplete | ⟨jti, identified, revoked⟩ | ⟨fails, present⟩
            · exact .inl (.incomplete incomplete)
            · exact .inl (.blacklisted identified revoked)
            · exact .inr ⟨⟨token, _, rfl, verified, present⟩, fails⟩
          · have returned := Program.run_bind_of_ok AuthWorld.exec ran
              fun user => (pure (some user) : AuthHandler (Option RefreshUser))
            have handed := Program.run_bind_of_ok AuthWorld.exec
              ((Program.run_attempt AuthWorld.exec _ world).trans (by rw [returned]))
              JwtRefreshGuard.handleRequest
            exact .inr ⟨reads, token, sub, rfl, named, handed⟩

omit [Gateway] in
/-- `findById` fails for want of a live user, as not found, or on an internal error of the
database. -/
theorem findById_error [Libraries] {userId : String} {store : Backend} {error : ServiceError}
    (ran : (UsersService.findById userId).runIn store = (store, .error error)) :
    (RpcAllExceptionsFilter.catch none error).status = 500 ∨
      (RpcAllExceptionsFilter.catch none error).status = 404 ∧
        ∀ user, ¬LiveUser store userId user := by
  cases up : store.databaseUp with
  | false =>
      unfold UsersService.findById at ran
      split at ran
      · cases ran
        exact .inl rfl
      · rw [runIn_findUser_down up] at ran
        cases ran
        exact .inl rfl
  | true =>
      have missing : ∀ user, ¬LiveUser store userId user := by
        rintro user ⟨parsed, stored, live⟩
        rw [runIn_findById_of_live up parsed stored live] at ran
        cases ran
      unfold UsersService.findById at ran
      split at ran
      · cases ran
        exact .inl rfl
      · rw [runIn_findUser up] at ran
        split at ran
        · cases ran
          exact .inr ⟨rfl, missing⟩
        · split at ran <;> cases ran
          exact .inr ⟨rfl, missing⟩

/-- The user service answers with the token version of a live user; it answers a
`404` only where there is none, and never a `401`. -/
theorem getUserTokenVersion_answer (delivery : Delivery) (userId : String) (backend : Backend) :
    match (RpcClientService.user delivery (.getUserTokenVersion userId) backend).2 with
    | .ok answer => ∃ user, LiveUser backend userId user ∧ answer = .tokenVersion user.tokenVersion
    | .error exception => exception.status ≠ 401 ∧
        (exception.status = 404 → ∀ user, ¬LiveUser backend userId user) := by
  have silent : ∀ failure : TransportFailure,
      (RpcClientService.unwrapError "user" failure.toRpcFailure).status ≠ 401 ∧
        ((RpcClientService.unwrapError "user" failure.toRpcFailure).status = 404 →
          ∀ user, ¬LiveUser backend userId user) := by
    intro failure
    rcases failure.unwrapError_status "user" with status | status
    · rw [status]
      exact ⟨by omega, fun same => by omega⟩
    · rw [status]
      exact ⟨by omega, fun same => by omega⟩
  cases delivery with
  | lost failure => exact silent failure
  | unanswered failure => exact silent failure
  | answered =>
      rcases runIn_findById backend userId with
        ⟨user, _, parsed, stored, live, found⟩ | ⟨error, failed⟩
      · have served : (serve (.getUserTokenVersion userId) backend).2 =
            .ok (.tokenVersion user.tokenVersion) := by
          rw [serve, UsersController.handle, UsersController.getUserTokenVersion,
            runIn_bind_of_ok (runIn_bind_of_ok found _)]
          rfl
        simp only [RpcClientService.user, served]
        exact ⟨user, ⟨parsed, stored, live⟩, rfl⟩
      · have served : (serve (.getUserTokenVersion userId) backend).2 = .error error := by
          rw [serve, UsersController.handle, UsersController.getUserTokenVersion,
            runIn_bind_of_error (runIn_bind_of_error failed _)]
        simp only [RpcClientService.user, served]
        change (RpcAllExceptionsFilter.catch none error).status ≠ 401 ∧
          ((RpcAllExceptionsFilter.catch none error).status = 404 →
            ∀ user, ¬LiveUser backend userId user)
        rcases findById_error failed with internal | ⟨absent, missing⟩
        · rw [internal]
          exact ⟨by decide, fun same => absurd same (by decide)⟩
        · rw [absent]
          exact ⟨by decide, fun _ => missing⟩

/-- A token version that comes back is a live user's; a `401` in its place means
there is none. -/
theorem currentTokenVersion_run (userId : String) (world : AuthWorld) :
    ∃ backend outcome, (AuthService.currentTokenVersion userId).run AuthWorld.exec world =
        ({ world with backend }, outcome) ∧
      (∀ tokenVersion, outcome = .ok tokenVersion →
        ∃ user, LiveUser world.backend userId user ∧ tokenVersion = user.tokenVersion) ∧
      ∀ error, outcome = .error error → (AllExceptionsFilter.catch error).statusCode = 401 →
        ∀ user, ¬LiveUser world.backend userId user := by
  have answers := getUserTokenVersion_answer world.delivery userId world.backend
  simp only [AuthService.currentTokenVersion, Program.perform_bind, Program.run_call,
    AuthWorld.exec]
  refine ⟨(RpcClientService.user world.delivery (.getUserTokenVersion userId) world.backend).1,
    ?_⟩
  cases replied : (RpcClientService.user world.delivery (.getUserTokenVersion userId)
      world.backend).2 with
  | ok answer =>
      rw [replied] at answers
      obtain ⟨user, live, rfl⟩ := answers
      refine ⟨_, rfl, ?_, fun _ => nofun⟩
      rintro _ ⟨⟩
      exact ⟨user, live, rfl⟩
  | error exception =>
      rw [replied] at answers
      by_cases missing : exception.status = 404
      · simp only [missing, ↓reduceIte]
        exact ⟨_, rfl, fun _ => nofun, fun _ _ _ => answers.2 missing⟩
      · simp only [missing, ↓reduceIte]
        refine ⟨_, rfl, fun _ => nofun, ?_⟩
        rintro _ ⟨⟩ unauthorized
        rw [AllExceptionsFilter.catch_http_statusCode] at unauthorized
        exact (answers.1 unauthorized).elim

/-- Blacklisting fails on Redis only, with a `500`. -/
theorem blacklistRefreshToken_run (jti : String) (exp : Seconds) (world : AuthWorld)
    (error : GatewayError) (failed : ((TokenStoreService.blacklistRefreshToken jti exp).run
      AuthWorld.exec world).2 = .error error) :
    (AllExceptionsFilter.catch error).statusCode = 500 := by
  by_cases alive : 0 < exp - world.clock / 1000
  · simp only [TokenStoreService.blacklistRefreshToken, Program.perform_bind, Program.run_call,
      AuthWorld.exec, alive, ↓reduceIte] at failed
    cases writes : world.redisWrites <;> simp only [writes] at failed <;> cases failed <;> rfl
  · simp only [TokenStoreService.blacklistRefreshToken, Program.perform_bind, Program.run_call,
      AuthWorld.exec, alive, ↓reduceIte, Program.pure_eq, Program.run_ret, reduceCtorEq] at failed

/-- Past the guard, a `401` is given to unusable tokens only: to those of another device,
without a live user, or with an old version. -/
theorem refresh_unusable {token : Jwt} {sub : String} (named : token.payload.sub = some sub)
    {error : GatewayError}
    (failed : ((AuthController.refresh { token.payload with userId := sub } deviceId).run
      AuthWorld.exec world).2 = .error error)
    (unauthorized : (AllExceptionsFilter.catch error).statusCode = 401) :
    Unusable world deviceId (some token) := by
  unfold AuthController.refresh at failed
  split at failed
  · rename_i jti exp _ _
    unfold AuthController.requireDeviceId at failed
    simp only at failed
    split at failed
    · cases failed
      cases unauthorized
    · simp only [Program.pure_eq, Program.ret_bind] at failed
      split at failed
      · rename_i other
        exact .otherDevice other
      · obtain ⟨backend, outcome, ran, versioned, missing⟩ := currentTokenVersion_run sub world
        cases outcome with
        | error reason =>
            rw [AuthService.refresh, Program.run_bind_of_error _ ran] at failed
            cases failed
            exact .noUser named (missing _ rfl unauthorized)
        | ok tokenVersion =>
            obtain ⟨user, live, rfl⟩ := versioned tokenVersion rfl
            rw [AuthService.refresh, Program.run_bind_of_ok _ ran] at failed
            simp only at failed
            split at failed
            · rename_i outdated
              exact .stale named live outdated
            · rw [Program.run_bind] at failed
              have blacklisting := blacklistRefreshToken_run jti exp { world with backend }
              split at failed
              · cases failed
              · rename_i ended
                cases failed
                rw [blacklisting _ (congrArg Prod.snd ended)] at unauthorized
                cases unauthorized
  · rename_i incomplete
    refine .incomplete ?_
    cases identified : truthy token.payload.jti with
    | none => exact .inr (.inl identified)
    | some jti =>
        cases expiry : token.payload.exp.filter (· ≠ 0) with
        | none => exact .inr (.inr (.inr expiry))
        | some exp => exact (incomplete jti exp identified expiry).elim

/-- On every world, the response means what the documentation says unless the
blacklist lookup is reached and fails. -/
theorem rejectsUnusable_iff (bearer : Option Jwt) (deviceId : Option String)
    (world : AuthWorld) : RejectsUnusable bearer deviceId world ↔
      ¬(LooksUp bearer world ∧ world.redisReads = false) := by
  have handled : gateway.code (.refresh bearer deviceId) =
      JwtRefreshGuard.canActivate bearer >>= fun user =>
        AuthController.refresh user deviceId >>= fun pair => pure (.pair pair) := rfl
  rcases canActivate_run bearer deviceId world with
    ⟨rejected, why⟩ | ⟨reads, token, sub, rfl, named, passed⟩
  · have answer : refreshResponse bearer deviceId world = .error
        ⟨401, ErrorCodes.tokenInvalid, "Invalid or expired refresh token", none⟩ := by
      rw [refreshResponse, handled, Program.run_bind_of_error _ rejected]
      rfl
    constructor
    · rintro honest ⟨reached, fails⟩
      have promised := honest.unavailable reached fails
      rw [answer] at promised
      cases promised
    · intro answered
      refine ⟨fun _ _ _ => why.resolve_right answered, fun reached fails => ?_⟩
      exact (answered ⟨reached, fails⟩).elim
  · refine iff_of_true ⟨fun response failed unauthorized => ?_, fun _ fails => ?_⟩ fun late => ?_
    · rw [refreshResponse, handled, Program.run_bind_of_ok _ passed, Program.run_bind] at failed
      split at failed
      · cases failed
      · rename_i reason ended
        cases failed
        exact refresh_unusable named (congrArg Prod.snd ended) unauthorized
    · rw [reads] at fails
      cases fails
    · rw [reads] at late
      cases late.2

end Law

/-! ## An outage of Redis -/

section Outage

local instance outageGateway : Gateway := plainGateway

/-- An account whose owner holds a refresh token while Redis does not answer. -/
def outage : AuthWorld :=
  { ({ backend := { users := [UsersService.autoregUser 0 0], nextObjectId := 1 } } :
      AuthWorld).issue (ObjectIds.toHexString 0) (some .autoreg) "device" 0 |>.1 with
    redisReads := false }

/-- While Redis fails a valid token cannot be looked up, and the strategy throws the `503`
of the lookup. The guard turns it into a `401`, as it does any error. -/
theorem not_rejectsUnusable_of_outage : ¬∀ bearer deviceId world,
    RejectsUnusable bearer deviceId world := by
  intro honest
  have answer := (honest outage.issued[1]? (some "device") outage).unavailable
    ⟨_, _, rfl, rfl, rfl, rfl, rfl⟩ rfl
  cases answer

end Outage

end NestMonorepo
