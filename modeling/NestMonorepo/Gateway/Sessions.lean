import NestMonorepo.Gateway.RefreshStatus

/-! # What every session handler keeps

A refresh token is spent once it has expired or its blacklist entry will be there
until it does. No step of any handler, and nothing around them, makes a spent
token fresh again: the entry of one token is only ever overwritten by an entry
that lives as long.
-/

namespace NestMonorepo

open Collections Concurrency

/-! ## Issued and spent tokens -/

/-- The token has expired, or its entry lasts until it does. -/
def AuthWorld.Spent (world : AuthWorld) (token : Jwt) : Prop :=
  ∃ jti exp, token.payload.jti = some jti ∧ token.payload.exp = some exp ∧
    (1000 * exp ≤ world.clock ∨
      ∃ entry, fetch RedisEntry.key (TokenStoreService.keyPrefix ++ jti) world.redis = some entry ∧
        entry.value = "1" ∧ 1000 * exp ≤ entry.expiresAt)

section Law

variable [Gateway]

/-- The token is the refresh token of some pair of `issueTokenPair`. -/
def Jwt.Minted (token : Jwt) : Prop :=
  ∃ userId accountType deviceId tokenVersion draw now,
    token = (AuthService.issueTokenPair userId accountType deviceId tokenVersion
      (Gateway.randomUUID draw) now).refreshToken

/-- The token is the refresh token of a pair the gateway has issued. -/
def AuthWorld.Issued (world : AuthWorld) (token : Jwt) : Prop :=
  token ∈ world.issued ∧ token.Minted

/-- No two tokens carry one identifier, and none carries one yet to be drawn. -/
structure AuthWorld.DistinctTokens (world : AuthWorld) : Prop where
  unique : ∀ token ∈ world.issued, ∀ other ∈ world.issued, ∀ jti,
    token.payload.jti = some jti → other.payload.jti = some jti → token = other
  fresh : ∀ token ∈ world.issued, ∀ draw, world.uuidDraws ≤ draw →
    token.payload.jti ≠ some (Gateway.randomUUID draw)

/-- The token a request presents. -/
def AuthOperation.token : AuthOperation → Option Jwt
  | .refresh bearer _ => bearer
  | .logout refreshToken => refreshToken

/-- Time does not run back, tokens stay issued, and spent ones stay spent. -/
def sessionContract : Contract AuthCommand AuthWorld where
  rely world later := world.clock ≤ later.clock ∧ world.issued ⊆ later.issued ∧
    ∀ token ∈ world.issued, world.Spent token → later.Spent token
  refl _ := ⟨le_refl _, List.Subset.refl _, fun _ _ spent => spent⟩
  trans first second :=
    ⟨le_trans first.1 second.1, List.Subset.trans first.2.1 second.2.1,
      fun token member spent => second.2.2 token (first.2.1 member)
        (first.2.2 token member spent)⟩
  keeps := AuthWorld.DistinctTokens
  permitted _ _ := True

variable {world later : AuthWorld} {token : Jwt}

/-! ## What one command does -/

omit [Gateway] in
/-- Spending is about the clock and the entries. -/
theorem AuthWorld.Spent.mono (spent : world.Spent token) (clock : world.clock ≤ later.clock)
    (redis : later.redis = world.redis) : later.Spent token := by
  obtain ⟨jti, exp, identified, expiry, expired | entry⟩ := spent
  · exact ⟨jti, exp, identified, expiry, .inl (le_trans expired clock)⟩
  · exact ⟨jti, exp, identified, expiry, .inr (redis ▸ entry)⟩

/-- What changes neither entries nor tokens stays within the contract. -/
theorem sessionContract_of_frame (kept : world.DistinctTokens) (clock : world.clock ≤ later.clock)
    (redis : later.redis = world.redis) (issued : later.issued = world.issued)
    (draws : later.uuidDraws = world.uuidDraws) :
    later.DistinctTokens ∧ sessionContract.rely world later := by
  refine ⟨⟨?_, ?_⟩, clock, issued ▸ List.Subset.refl _, fun _ _ spent => spent.mono clock redis⟩
  · rw [issued]
    exact kept.unique
  · rw [issued, draws]
    exact kept.fresh

/-- A token with an identifier was issued before, or is the new refresh token. -/
theorem issue_cases {userId : String} {accountType : Option AccountType} {deviceId : String}
    {tokenVersion : Nat} {jti : String}
    (member : token ∈ (world.issue userId accountType deviceId tokenVersion).1.issued)
    (identified : token.payload.jti = some jti) :
    token ∈ world.issued ∨
      token = (world.issue userId accountType deviceId tokenVersion).2.refreshToken ∧
        jti = Gateway.randomUUID world.uuidDraws := by
  rcases List.mem_append.mp member with old | new
  · exact .inl old
  · rcases List.mem_pair.mp new with rfl | rfl
    · cases identified
    · exact .inr ⟨rfl, (Option.some.inj identified).symm⟩

/-- Issuing a pair stays within the contract. -/
theorem sessionContract_issue (kept : world.DistinctTokens) (userId : String)
    (accountType : Option AccountType) (deviceId : String) (tokenVersion : Nat) :
    (world.issue userId accountType deviceId tokenVersion).1.DistinctTokens ∧
      sessionContract.rely world (world.issue userId accountType deviceId tokenVersion).1 := by
  refine ⟨⟨?_, ?_⟩, le_refl _, List.subset_append_left _ _,
    fun _ _ spent => spent.mono (le_refl _) rfl⟩
  · intro token member other present jti identified same
    rcases issue_cases member identified with old | ⟨rfl, rfl⟩
    · rcases issue_cases present same with kept' | ⟨rfl, rfl⟩
      · exact kept.unique token old other kept' jti identified same
      · exact (kept.fresh token old _ (le_refl _) identified).elim
    · rcases issue_cases present same with old | ⟨rfl, _⟩
      · exact (kept.fresh other old _ (le_refl _) same).elim
      · rfl
  · intro token member draw late identified
    rcases issue_cases member identified with old | ⟨_, same⟩
    · exact kept.fresh token old draw (le_trans (Nat.le_succ _) late) identified
    · exact absurd (Gateway.randomUUID_injective same) (Nat.ne_of_gt late)

/-- An entry that lasts until the token expires leaves every spent token spent, and
spends the token. -/
theorem sessionContract_redisSet (kept : world.DistinctTokens) (member : token ∈ world.issued)
    {jti : String} {exp seconds : Seconds} (identified : token.payload.jti = some jti)
    (expiry : token.payload.exp = some exp) (lasting : 1000 * exp ≤ world.clock + 1000 * seconds) :
    (world.redisSet (TokenStoreService.keyPrefix ++ jti) "1" seconds).DistinctTokens ∧
      sessionContract.rely world
        (world.redisSet (TokenStoreService.keyPrefix ++ jti) "1" seconds) ∧
      (world.redisSet (TokenStoreService.keyPrefix ++ jti) "1" seconds).Spent token := by
  have written : fetch RedisEntry.key (TokenStoreService.keyPrefix ++ jti)
      (world.redisSet (TokenStoreService.keyPrefix ++ jti) "1" seconds).redis =
        some ⟨TokenStoreService.keyPrefix ++ jti, "1", world.clock + 1000 * seconds⟩ :=
    (fetch_append_of_none fetch_removeAt_self).trans fetch_singleton
  have spent : (world.redisSet (TokenStoreService.keyPrefix ++ jti) "1" seconds).Spent token :=
    ⟨jti, exp, identified, expiry, .inr ⟨_, written, rfl, lasting⟩⟩
  refine ⟨⟨kept.unique, kept.fresh⟩, ⟨le_refl _, List.Subset.refl _, ?_⟩, spent⟩
  rintro other present ⟨jti', exp', identified', expiry', expired | ⟨entry, found, revoked, lasts⟩⟩
  · exact ⟨jti', exp', identified', expiry', .inl expired⟩
  · by_cases same : jti' = jti
    · subst same
      rwa [kept.unique other present token member jti' identified' identified]
    · refine ⟨jti', exp', identified', expiry', .inr ⟨entry, ?_, revoked, lasts⟩⟩
      have differ : TokenStoreService.keyPrefix ++ jti' ≠ TokenStoreService.keyPrefix ++ jti :=
        fun equal => same ((String.append_right_inj _).mp equal)
      exact fetch_append_of_some ((fetch_removeAt_ne differ).trans found)

/-! ## What each handler does -/

namespace AuthHandler

/-- The request is still in front of the guard's verdict, or was turned away by it. -/
inductive Unadmitted : Status AuthCommand AuthReply GatewayError AuthAnswer → Prop
  | verifying {token secret next} : Unadmitted (.running (.call (.verify token secret) next))
  | lookingUp {key next} : Unadmitted (.running (.call (.redisGet key) next))
  | rejecting : Unadmitted (.running (.fail JwtRefreshGuard.rejection))
  | rejected : Unadmitted (.thrown JwtRefreshGuard.rejection)
  | crashed : Unadmitted .crashed

/-- What is asserted of a refresh that presents an issued token: the guard turns
away what does not verify or is found blacklisted, and a pair is only issued for
a spent token and ends the request. -/
def refreshing (token : Jwt) : CallAssertion AuthCommand AuthReply GatewayError AuthAnswer AuthWorld
  | .verify presented secret, next, _ => presented = token ∧ secret = Gateway.jwtRefreshSecret ∧
      next none = .fail JwtRefreshGuard.rejection ∧ ∀ reply, Unadmitted (.running (next reply))
  | .redisGet key, next, _ =>
      (∃ jti, token.payload.jti = some jti ∧ key = TokenStoreService.keyPrefix ++ jti) ∧
        next (.ok (some "1")) = .fail JwtRefreshGuard.rejection ∧
        ∀ message, next (.error message) = .fail JwtRefreshGuard.rejection
  | .issueTokenPair _ _ _ _, next, world =>
      world.Spent token ∧ ∀ pair, ∃ answer, next pair = .ret answer
  | _, _, _ => True

/-- What is asserted of a logout of an issued token: a step that lets it answer
leaves the token spent, unless it is a `SET` that Redis refuses. -/
def loggingOut (token : Jwt) :
    CallAssertion AuthCommand AuthReply GatewayError AuthAnswer AuthWorld :=
  fun command next world => world.Issued token →
    ∀ answer, next (AuthWorld.exec command world).2 = .ret answer →
      (AuthWorld.exec command world).1.Spent token ∨
        (∃ key value seconds, command = .redisSet key value seconds) ∧
          world.redisWrites = .refused

/-- The assertion of each operation. -/
def asserted : AuthOperation → CallAssertion AuthCommand AuthReply GatewayError AuthAnswer AuthWorld
  | .refresh (some token) _ => refreshing token
  | .logout (some token) => loggingOut token
  | _ => fun _ _ _ => True

/-- A refresh that answers has spent its token. -/
def answered : AuthOperation → Except GatewayError AuthAnswer → AuthWorld → Prop
  | .refresh (some token) _, .ok _, world => world.Spent token
  | _, _, _ => True

end AuthHandler

open AuthHandler

/-- The token is not forged: sealed with the refresh secret, it was issued. -/
def AuthWorld.Genuine (world : AuthWorld) (token : Jwt) : Prop :=
  token.secret = Gateway.jwtRefreshSecret → token ∈ world.issued

instance (world : AuthWorld) (token : Jwt) : Decidable (world.Genuine token) :=
  inferInstanceAs (Decidable (_ → _))

/-- Past the guard. -/
def AuthController.admitted (user : RefreshUser) (deviceId : Option String) :
    AuthHandler AuthAnswer := do
  return .pair (← AuthController.refresh user deviceId)

/-- From the verified payload on. -/
def AuthController.verified (payload : JwtRefreshPayload) (deviceId : Option String) :
    AuthHandler AuthAnswer := do
  let user ← (do return some (← JwtRefreshStrategy.validate payload)).attempt >>=
    JwtRefreshGuard.handleRequest
  admitted user deviceId

omit [Gateway] in
/-- A verified token was signed with the secret it was verified with. -/
theorem verify_secret {secret : String} {now : Millis} {payload : JwtRefreshPayload}
    (verified : JwtService.verify token secret now = some payload) : token.secret = secret := by
  unfold JwtService.verify at verified
  split at verified
  · rename_i valid
    exact valid.1
  · cases verified

omit [Gateway] in
/-- A verified payload is turned away, or its identifier is looked up; only one
that is found free is admitted. -/
theorem verified_cases (payload : JwtRefreshPayload) (deviceId : Option String) :
    AuthController.verified payload deviceId = .fail JwtRefreshGuard.rejection ∨
      ∃ sub jti lookup, payload.jti = some jti ∧
        AuthController.verified payload deviceId =
          .call (.redisGet (TokenStoreService.keyPrefix ++ jti)) lookup ∧
        lookup (.ok (some "1")) = .fail JwtRefreshGuard.rejection ∧
        (∀ message, lookup (.error message) = .fail JwtRefreshGuard.rejection) ∧
        ∀ value, value ≠ some "1" →
          lookup (.ok value) = AuthController.admitted { payload with userId := sub } deviceId := by
  unfold AuthController.verified JwtRefreshStrategy.validate
  cases named : truthy payload.sub with
  | none => exact .inl rfl
  | some sub =>
      cases identified : truthy payload.jti with
      | none => exact .inl rfl
      | some jti =>
          cases bound : truthy payload.deviceId with
          | none => exact .inl rfl
          | some device =>
              refine .inr ⟨sub, jti, _, (truthy_eq_some.mp identified).1, rfl, rfl,
                fun message => rfl, fun value free => ?_⟩
              simp only [Program.bind, Program.pure_eq, free, decide_false, Bool.false_eq_true,
                ↓reduceIte, Program.attempt]
              rfl

/-- A refresh up to its verified payload. -/
theorem handle_refresh (token : Jwt) (deviceId : Option String) :
    AuthController.handle (.refresh (some token) deviceId) =
      .call (.verify token Gateway.jwtRefreshSecret) fun
        | none => .fail JwtRefreshGuard.rejection
        | some payload => AuthController.verified payload deviceId := by
  refine congrArg (Program.call (AuthCommand.verify token Gateway.jwtRefreshSecret))
    (funext fun reply => ?_)
  cases reply <;> rfl

/-- A logout from its clock reading on. -/
def AuthController.blacklisting (jti : String) (exp : Seconds) : AuthHandler AuthAnswer :=
  .call .now fun now =>
    if 0 < exp - now / 1000 then
      .call (.redisSet (TokenStoreService.keyPrefix ++ jti) "1" (exp - now / 1000)) fun _ =>
        .ret .success
    else .ret .success

/-- A logout from the verified payload on. -/
def AuthController.loggedOut (payload : JwtRefreshPayload) : AuthHandler AuthAnswer :=
  match truthy payload.jti, payload.exp.filter (· ≠ 0) with
  | some jti, some exp => blacklisting jti exp
  | _, _ => .ret .success

/-- A logout up to its verified payload: the token is verified, and the rest depends on the
payload alone. -/
theorem handle_logout (token : Jwt) :
    AuthController.handle (.logout (some token)) =
      .call (.verify token Gateway.jwtRefreshSecret) fun
        | none => .ret .success
        | some payload => AuthController.loggedOut payload := by
  refine congrArg (Program.call (AuthCommand.verify token Gateway.jwtRefreshSecret))
    (funext fun reply => ?_)
  cases reply with
  | none => rfl
  | some payload =>
      change ((Program.attempt (match truthy payload.jti, payload.exp.filter (· ≠ 0) with
        | some jti, some exp => TokenStoreService.blacklistRefreshToken jti exp
        | _, _ => pure ()) >>= fun _ => (pure () : AuthHandler Unit)) >>=
          fun _ => pure AuthAnswer.success) = AuthController.loggedOut payload
      unfold AuthController.loggedOut
      cases truthy payload.jti with
      | none => rfl
      | some jti =>
          cases payload.exp.filter (· ≠ 0) with
          | none => rfl
          | some exp =>
              refine congrArg (Program.call AuthCommand.now) (funext fun now => ?_)
              by_cases alive : 0 < exp - now / 1000
              · simp only [alive, ↓reduceIte, Program.bind]
                refine congrArg (Program.call (AuthCommand.redisSet _ _ _)) (funext fun reply => ?_)
                cases reply <;> rfl
              · simp only [alive, ↓reduceIte, Program.bind]
                rfl

/-! ## Every handler keeps to the contract -/

variable {jti : String} {exp : Seconds} {deviceId : Option String}

/-- Any outcome without an answer satisfies what a refresh promises. -/
theorem always_fail (operation : AuthOperation) (error : GatewayError) (world : AuthWorld) :
    (Program.fail error : AuthHandler AuthAnswer).Always AuthWorld.exec sessionContract
      (asserted operation) (answered operation) world := by
  intro later _ _
  cases operation with
  | refresh bearer deviceId => cases bearer <;> trivial
  | logout refreshToken => trivial

/-- An issued token is spent when its pair is issued. -/
theorem issueTokenPair_always (member : token ∈ world.issued) (spent : world.Spent token)
    (userId : String) (accountType : Option AccountType) (boundTo : String)
    (tokenVersion : Nat) :
    (Program.perform (.issueTokenPair userId accountType boundTo tokenVersion : AuthCommand) >>=
      fun pair => pure (.pair pair) : AuthHandler AuthAnswer).Always AuthWorld.exec
        sessionContract (refreshing token) (answered (.refresh (some token) deviceId)) world := by
  intro later moved kept
  have still := moved.2.2 token member spent
  obtain ⟨keeps, relies⟩ := sessionContract_issue kept userId accountType boundTo tokenVersion
  refine ⟨⟨still, fun pair => ⟨_, rfl⟩⟩, fun _ => ⟨keeps, relies, fun last further _ => ?_⟩⟩
  exact further.2.2 token (relies.2.1 (moved.2.1 member))
    (relies.2.2 token (moved.2.1 member) still)

omit [Gateway] in
/-- The remaining lifetime, computed from an earlier reading of the clock, lasts
until the expiry. -/
theorem TokenStoreService.ttl_lasts (exp : Nat) {now later : Nat} (ordered : now ≤ later) :
    1000 * exp ≤ later + 1000 * (exp - now / 1000) := by
  omega

omit [Gateway] in
/-- Where no lifetime remains, the expiry has passed. -/
theorem TokenStoreService.expired_of_no_ttl {exp now : Nat} (none : ¬0 < exp - now / 1000) :
    1000 * exp ≤ now := by
  omega

/-- Blacklisting an issued token spends it before the rest runs: the entry is written, or
the token has expired by then. -/
theorem blacklistRefreshToken_always {next : Unit → AuthHandler AuthAnswer}
    (member : token ∈ world.issued) (identified : token.payload.jti = some jti)
    (expiry : token.payload.exp = some exp)
    (rest : ∀ later, token ∈ later.issued → later.DistinctTokens → later.Spent token →
      (next ()).Always AuthWorld.exec sessionContract (refreshing token)
        (answered (.refresh (some token) deviceId)) later) :
    (TokenStoreService.blacklistRefreshToken jti exp >>= next).Always AuthWorld.exec
      sessionContract (refreshing token) (answered (.refresh (some token) deviceId)) world := by
  intro later moved kept
  have issued := moved.2.1 member
  refine ⟨trivial, fun _ => ⟨kept, sessionContract.refl _, ?_⟩⟩
  by_cases alive : 0 < exp - later.clock / 1000
  · simp only [Program.bind, AuthWorld.exec, alive, ↓reduceIte]
    intro last further settled
    have lasting := TokenStoreService.ttl_lasts exp further.1
    obtain ⟨keeps, relies, spent⟩ :=
      sessionContract_redisSet settled (further.2.1 issued) identified expiry lasting
    refine ⟨trivial, fun _ => ?_⟩
    cases writes : last.redisWrites <;> simp only [AuthWorld.exec, writes]
    · exact ⟨keeps, relies, rest _ (relies.2.1 (further.2.1 issued)) keeps spent⟩
    · exact ⟨settled, sessionContract.refl _, always_fail _ _ _⟩
    · exact ⟨keeps, relies, always_fail _ _ _⟩
  · simp only [Program.bind, AuthWorld.exec, alive, ↓reduceIte]
    exact rest later issued kept ⟨jti, exp, identified, expiry,
      .inl (TokenStoreService.expired_of_no_ttl alive)⟩

/-- The service checks the token version, then spends the token and only then issues a pair,
whatever the other requests do in between. -/
theorem refresh_always (member : token ∈ world.issued) (identified : token.payload.jti = some jti)
    (expiry : token.payload.exp = some exp) (userId boundTo : String)
    (accountType : Option AccountType) (presentedTv : Option Nat) :
    (AuthService.refresh userId jti exp boundTo accountType presentedTv >>=
      fun pair => pure (.pair pair) : AuthHandler AuthAnswer).Always AuthWorld.exec
        sessionContract (refreshing token) (answered (.refresh (some token) deviceId)) world := by
  intro later moved kept
  have frame : (AuthWorld.exec (.user (.getUserTokenVersion userId)) later).1.DistinctTokens ∧
      sessionContract.rely later (AuthWorld.exec (.user (.getUserTokenVersion userId)) later).1 :=
    sessionContract_of_frame kept (le_refl _) rfl rfl rfl
  refine ⟨trivial, fun _ => ⟨frame.1, frame.2, ?_⟩⟩
  have issued := frame.2.2.1 (moved.2.1 member)
  generalize (AuthWorld.exec (.user (.getUserTokenVersion userId)) later).1 = after at issued
  generalize (AuthWorld.exec (.user (.getUserTokenVersion userId)) later).2 = reply
  cases reply with
  | error exception =>
      by_cases missing : exception.status = 404
      · simp only [Program.bind, missing, ↓reduceIte]
        exact always_fail _ _ _
      · simp only [Program.bind, missing, ↓reduceIte]
        exact always_fail _ _ _
  | ok answer =>
      cases answer with
      | tokenVersion tokenVersion =>
          by_cases current : presentedTv.getD 0 = tokenVersion
          · simp only [Program.bind, Program.pure_eq, ne_eq, current, not_true_eq_false,
              ↓reduceIte]
            change Program.Always _ _ _ _ ((_ >>= _) >>= _) _
            rw [Program.bind_assoc]
            exact blacklistRefreshToken_always issued identified expiry
              fun last present _ spent => issueTokenPair_always present spent _ _ _ _
          · simp only [Program.bind, Program.pure_eq, ne_eq, current, not_false_eq_true,
              ↓reduceIte]
            exact always_fail _ _ _
      | _ => exact always_fail _ _ _

/-- An admitted request checks the device and the token version, then spends the
token and issues a pair. -/
theorem admitted_always {user : RefreshUser} (member : token ∈ world.issued)
    (identified : user.jti = token.payload.jti) (expiry : user.exp = token.payload.exp)
    (headerDeviceId : Option String) :
    (AuthController.admitted user headerDeviceId).Always AuthWorld.exec sessionContract
      (refreshing token) (answered (.refresh (some token) deviceId)) world := by
  unfold AuthController.admitted AuthController.refresh
  cases presentJti : truthy user.jti with
  | none => exact always_fail _ _ _
  | some jti =>
      cases presentExp : user.exp.filter (· ≠ 0) with
      | none => exact always_fail _ _ _
      | some exp =>
          unfold AuthController.requireDeviceId
          dsimp only
          generalize trim (headerDeviceId.getD "") = headerId
          by_cases unnamed : headerId = ""
          · simp only [unnamed, ↓reduceIte]
            exact always_fail _ _ _
          · simp only [unnamed, ↓reduceIte, Program.pure_eq, Program.ret_bind]
            by_cases bound : user.deviceId = some headerId
            · simp only [bound, ne_eq, not_true_eq_false, ↓reduceIte]
              exact refresh_always member (identified.symm.trans (truthy_eq_some.mp presentJti).1)
                (expiry.symm.trans (Option.filter_eq_some_iff.mp presentExp).1) _ _ _ _
            · simp only [bound, ne_eq, not_false_eq_true, ↓reduceIte]
              exact always_fail _ _ _

omit [Gateway] in
/-- A verified payload is not admitted at once. -/
theorem verified_unadmitted (payload : JwtRefreshPayload) (deviceId : Option String) :
    Unadmitted (.running (AuthController.verified payload deviceId)) := by
  rcases verified_cases payload deviceId with failed | ⟨_, _, _, _, looks, _⟩
  · rw [failed]
    exact .rejecting
  · rw [looks]
    exact .lookingUp

/-- From the verified payload of an issued token on, a refresh looks it up before anything
else. -/
theorem verified_always (member : token ∈ world.issued) (deviceId : Option String) :
    (AuthController.verified token.payload deviceId).Always AuthWorld.exec sessionContract
      (refreshing token) (answered (.refresh (some token) deviceId)) world := by
  rcases verified_cases token.payload deviceId with
    failed | ⟨sub, jti, lookup, identified, looks, revoked, unavailable, free⟩
  · rw [failed]
    exact always_fail _ _ _
  · rw [looks]
    intro later moved kept
    refine ⟨⟨⟨jti, identified, rfl⟩, revoked, unavailable⟩, fun _ =>
      ⟨kept, sessionContract.refl _, ?_⟩⟩
    change (lookup (AuthWorld.exec (.redisGet _) later).2).Always _ _ _ _ later
    cases (AuthWorld.exec (.redisGet (TokenStoreService.keyPrefix ++ jti)) later).2 with
    | error message =>
        rw [unavailable]
        exact always_fail _ _ _
    | ok value =>
        by_cases found : value = some "1"
        · rw [found, revoked]
          exact always_fail _ _ _
        · rw [free value found]
          exact admitted_always (moved.2.1 member) rfl rfl deviceId

/-- An answer satisfies what a logout promises. -/
theorem always_success (world : AuthWorld) : (Program.ret .success : AuthHandler AuthAnswer).Always
    AuthWorld.exec sessionContract (loggingOut token) (answered (.logout (some token))) world :=
  fun _ _ _ => trivial

/-- An issued token has the claims that are looked at. -/
theorem AuthWorld.Issued.claims (issued : world.Issued token) :
    token.secret = Gateway.jwtRefreshSecret ∧
      ∃ jti exp, truthy token.payload.jti = some jti ∧ token.payload.exp = some exp := by
  obtain ⟨_, _, _, _, _, draw, _, rfl⟩ := issued
  exact ⟨rfl, _, _, truthy_eq_some.mpr ⟨rfl, Gateway.randomUUID_nonempty draw⟩, rfl⟩

/-- An issued token that does not verify has expired. -/
theorem AuthWorld.Issued.spent_of_not_verified (issued : world.Issued token)
    (rejected : JwtService.verify token Gateway.jwtRefreshSecret world.clock = none) :
    world.Spent token := by
  obtain ⟨secret, jti, exp, identified, expiry⟩ := issued.claims
  simp only [JwtService.verify, secret, expiry, Option.all_some, decide_eq_true_eq, true_and,
    ite_eq_right_iff, reduceCtorEq, imp_false, not_lt] at rejected
  exact ⟨jti, exp, (truthy_eq_some.mp identified).1, expiry,
    .inl (TokenStoreService.expired_of_no_ttl
      (Nat.not_lt.mpr (Nat.le_of_eq (Nat.sub_eq_zero_of_le rejected))))⟩

/-- An issued token that lacks what a logout looks at expires at once. -/
theorem AuthWorld.Issued.spent_of_incomplete (issued : world.Issued token)
    (incomplete : truthy token.payload.jti = none ∨ token.payload.exp.filter (· ≠ 0) = none) :
    world.Spent token := by
  obtain ⟨secret, jti, exp, identified, expiry⟩ := issued.claims
  rcases incomplete with missing | missing
  · rw [identified] at missing
    cases missing
  · have zero : exp = 0 := by
      by_contra positive
      simp only [expiry, Option.filter, positive, ne_eq, not_false_eq_true, decide_true,
        ↓reduceIte, reduceCtorEq] at missing
    exact ⟨jti, exp, (truthy_eq_some.mp identified).1, expiry,
      .inl (by rw [zero]; exact Nat.zero_le _)⟩

omit [Gateway] in
/-- Writing the entry of an issued token lets the logout answer. -/
theorem loggedOut_cases (payload : JwtRefreshPayload) :
    (AuthController.loggedOut payload = .ret .success ∧
      (truthy payload.jti = none ∨ payload.exp.filter (· ≠ 0) = none)) ∨
    ∃ jti exp, truthy payload.jti = some jti ∧ payload.exp.filter (· ≠ 0) = some exp ∧
      AuthController.loggedOut payload = AuthController.blacklisting jti exp := by
  unfold AuthController.loggedOut
  cases identified : truthy payload.jti with
  | none => exact .inl ⟨rfl, .inl rfl⟩
  | some jti =>
      cases expiry : payload.exp.filter (· ≠ 0) with
      | none => exact .inl ⟨rfl, .inr rfl⟩
      | some exp => exact .inr ⟨jti, exp, rfl, rfl, rfl⟩

/-- The blacklisting of a logout spends the token, unless Redis refuses. -/
theorem blacklisting_always (member : token ∈ world.issued)
    (identified : token.payload.jti = some jti) (expiry : token.payload.exp = some exp) :
    (AuthController.blacklisting jti exp).Always AuthWorld.exec sessionContract
      (loggingOut token) (answered (.logout (some token))) world := by
  intro later moved kept
  by_cases alive : 0 < exp - later.clock / 1000
  · simp only [loggingOut, AuthWorld.exec, alive, ↓reduceIte, reduceCtorEq]
    refine ⟨fun _ _ same => (by cases same), fun _ => ⟨kept, sessionContract.refl _, ?_⟩⟩
    · intro last further settled
      obtain ⟨keeps, relies, spent⟩ := sessionContract_redisSet settled
        (further.2.1 (moved.2.1 member)) identified expiry
        (TokenStoreService.ttl_lasts exp further.1)
      cases writes : last.redisWrites <;> simp only [loggingOut, AuthWorld.exec, writes]
      · exact ⟨fun _ _ _ => .inl spent, fun _ => ⟨keeps, relies, always_success _⟩⟩
      · exact ⟨fun _ _ _ => .inr ⟨⟨_, _, _, rfl⟩, trivial⟩,
          fun _ => ⟨settled, sessionContract.refl _, always_success _⟩⟩
      · exact ⟨fun _ _ _ => .inl spent, fun _ => ⟨keeps, relies, always_success _⟩⟩
  · simp only [loggingOut, AuthWorld.exec, alive, ↓reduceIte]
    exact ⟨fun _ _ _ => .inl ⟨jti, exp, identified, expiry,
      .inl (TokenStoreService.expired_of_no_ttl alive)⟩,
      fun _ => ⟨kept, sessionContract.refl _, always_success _⟩⟩

/-- A logout answers after spending its token, unless Redis refuses the write, which it
swallows. -/
theorem logout_always (genuine : world.Genuine token) :
    (AuthController.handle (.logout (some token))).Always AuthWorld.exec sessionContract
      (asserted (.logout (some token))) (answered (.logout (some token))) world := by
  rw [handle_logout]
  intro later moved kept
  simp only [asserted, AuthWorld.exec]
  cases verified : JwtService.verify token Gateway.jwtRefreshSecret later.clock with
  | none =>
      refine ⟨fun issued _ _ => .inl (issued.spent_of_not_verified verified),
        fun _ => ⟨kept, sessionContract.refl _, always_success _⟩⟩
  | some payload =>
      obtain rfl := verify_payload verified
      have member := moved.2.1 (genuine (verify_secret verified))
      rcases loggedOut_cases token.payload with ⟨ended, incomplete⟩ |
        ⟨jti, exp, identified, expiry, continued⟩
      · simp only [loggingOut, AuthWorld.exec, verified, ended]
        exact ⟨fun issued _ _ => .inl (issued.spent_of_incomplete incomplete),
          fun _ => ⟨kept, sessionContract.refl _, always_success _⟩⟩
      · simp only [loggingOut, AuthWorld.exec, verified, continued]
        refine ⟨fun _ _ same => (by cases same), fun _ => ⟨kept, sessionContract.refl _, ?_⟩⟩
        exact blacklisting_always member (truthy_eq_some.mp identified).1
          (Option.filter_eq_some_iff.mp expiry).1

/-- The handlers keep to the contract whatever the others do, as long as no token
presented to them is forged. -/
theorem handle_always (operation : AuthOperation)
    (genuine : ∀ token, operation.token = some token → world.Genuine token) :
    (AuthController.handle operation).Always AuthWorld.exec sessionContract
      (asserted operation) (answered operation) world := by
  cases operation with
  | refresh bearer deviceId =>
      cases bearer with
      | none => exact always_fail (.refresh none deviceId) _ world
      | some token =>
          rw [handle_refresh]
          intro later moved kept
          refine ⟨⟨rfl, rfl, rfl, fun reply => ?_⟩, fun _ => ⟨kept, sessionContract.refl _, ?_⟩⟩
          · cases reply with
            | none => exact .rejecting
            | some payload => exact verified_unadmitted payload deviceId
          · simp only [AuthWorld.exec]
            cases verified : JwtService.verify token Gateway.jwtRefreshSecret later.clock with
            | none => exact always_fail (.refresh (some token) deviceId) _ later
            | some payload =>
                obtain rfl := verify_payload verified
                exact verified_always
                  (moved.2.1 (genuine token rfl (verify_secret verified))) deviceId
  | logout refreshToken =>
      cases refreshToken with
      | none => exact fun _ _ _ => trivial
      | some token => exact logout_always (genuine token rfl)

/-! ## Every interleaving -/

/-- No forged token is presented. -/
def Unforged (label : AuthLabel) (pool : AuthPool) : Prop :=
  match label with
  | .spawn operation => ∀ token ∈ operation.token, pool.shared.Genuine token
  | _ => True

instance : ∀ label pool, Decidable (Unforged label pool)
  | .spawn operation, pool =>
      inferInstanceAs (Decidable (∀ token ∈ operation.token, pool.shared.Genuine token))
  | .step _, _ => inferInstanceAs (Decidable True)
  | .crash _, _ => inferInstanceAs (Decidable True)
  | .environment _, _ => inferInstanceAs (Decidable True)

/-- Every thread satisfies the judgement of its operation. -/
abbrev SessionSound (pool : AuthPool) : Prop :=
  gateway.Sound sessionContract asserted answered pool

/-- Runs without forged tokens respect the session contract: time only passes, and a sign-in
beside the requests issues a pair of its own. -/
theorem unforged_respects : gateway.Respects sessionContract Unforged where
  permits _ _ _ := trivial
  environment := by
    intro event pool _ kept
    cases event with
    | tick millis =>
        exact sessionContract_of_frame kept (Nat.le_add_right _ _) rfl rfl rfl
    | signIn userId accountType deviceId tokenVersion =>
        exact sessionContract_issue kept userId (some accountType) deviceId tokenVersion
    | _ => exact sessionContract_of_frame kept (le_refl _) rfl rfl rfl

/-- Soundness spreads over every run without forged tokens. -/
theorem SessionSound.reaches {before finish : AuthPool} (sound : SessionSound before)
    (reached : gateway.Reaches Unforged before finish) :
    SessionSound finish ∧ sessionContract.rely before.shared finish.shared :=
  System.Reaches.sound unforged_respects
    (fun operation _ unforged _ => handle_always operation
      fun token presented => unforged token presented) sound reached

/-- The gateway before its first request. -/
theorem SessionSound.initial {start : AuthWorld} (kept : start.DistinctTokens) :
    SessionSound ⟨start, []⟩ :=
  ⟨kept, fun _ none => nomatch none⟩

/-- What is asserted at a thread's pending command. -/
theorem SessionSound.asserted {pool : AuthPool} (sound : SessionSound pool) {index : Nat}
    {thread : AuthThread} (present : pool.threads[index]? = some thread) {command : AuthCommand}
    {next : AuthReply command → AuthHandler AuthAnswer}
    (running : thread.status = .running (.call command next)) :
    AuthHandler.asserted thread.operation command next pool.shared := by
  have valid := sound.threads thread (List.mem_of_getElem? present)
  rw [running] at valid
  exact (valid pool.shared (sessionContract.refl _) sound.keeps).1

/-- One step of a thread stays within the contract. -/
theorem SessionSound.step {pool : AuthPool} (sound : SessionSound pool) {index : Nat}
    {thread : AuthThread} (unforged : Unforged (.step index) pool)
    (present : pool.threads[index]? = some thread) :
    sessionContract.rely pool.shared (gateway.advance thread.status pool.shared).1 := by
  have moved := (sound.reaches (.step (.step index) .refl unforged)).2
  rwa [System.next_step_of_get present] at moved

/-- A minted token is sealed with the refresh secret. -/
theorem Jwt.Minted.secret (minted : token.Minted) : token.secret = Gateway.jwtRefreshSecret := by
  obtain ⟨_, _, _, _, _, _, rfl⟩ := minted
  rfl

end Law

end NestMonorepo
