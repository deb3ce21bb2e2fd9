import NestMonorepo.Concurrency.History
import NestMonorepo.Gateway.Sessions

/-! # Spent tokens stay out

A request that starts after a token was spent is turned away by the guard, as long
as its blacklist lookup is answered before the token expires: verification and
lookup are two steps, and the entry may vanish with the token's lifetime in
between.
-/

namespace NestMonorepo

open Collections Concurrency AuthHandler

/-- A lookup of the token would find it free. -/
def AuthWorld.FindsFree (world : AuthWorld) (token : Jwt) : Prop :=
  world.redisReads = true ∧ ∀ jti, token.payload.jti = some jti → ¬world.Blacklisted jti

/-- The request has answered, or is about to. -/
def Answered (status : Status AuthCommand AuthReply GatewayError AuthAnswer) : Prop :=
  ∃ answer, status = .running (.ret answer) ∨ status = .returned answer

/-- A step that lets a request answer delivers its last reply. -/
theorem answered_advance [Gateway] {status : Status AuthCommand AuthReply GatewayError AuthAnswer}
    {world : AuthWorld} (ended : Answered (gateway.advance status world).2) :
    Answered status ∨ ∃ command next answer, status = .running (.call command next) ∧
      next (AuthWorld.exec command world).2 = .ret answer := by
  cases status with
  | running program =>
      cases program with
      | ret value => exact .inl ⟨value, .inl rfl⟩
      | fail error =>
          obtain ⟨answer, running | returned⟩ := ended
          · cases running
          · cases returned
      | call command next =>
          obtain ⟨answer, running | returned⟩ := ended
          · exact .inr ⟨command, next, answer, rfl, Status.running.inj running⟩
          · cases returned
  | _ => exact .inl ended

/-- A crash ends no request with an answer. -/
theorem answered_of_crash {status : Status AuthCommand AuthReply GatewayError AuthAnswer}
    (ended : Answered (System.crash status)) : Answered status := by
  cases status with
  | running program =>
      obtain ⟨answer, running | returned⟩ := ended
      · cases running
      · cases returned
  | _ => exact ended

section Law

variable [Gateway] {world : AuthWorld} {token : Jwt} {before finish : AuthPool}

/-- A thread from `first` on that looks the token up and finds it free does so
before the token expires. -/
def TimelyLookups (token : Jwt) (first : Nat) (label : AuthLabel) (pool : AuthPool) : Prop :=
  ∀ index thread device key exp, label = .step index → first ≤ index →
    pool.threads[index]? = some thread → thread.operation = .refresh (some token) device →
    thread.pending = some (.redisGet key) → pool.shared.FindsFree token →
    token.payload.exp = some exp → pool.shared.clock < 1000 * exp

omit [Gateway] in
/-- A spent token is found free only once it has expired. -/
theorem AuthWorld.Spent.expired_of_free (spent : world.Spent token)
    (free : ∀ jti, token.payload.jti = some jti → ¬world.Blacklisted jti)
    {exp : Seconds} (expiry : token.payload.exp = some exp) :
    1000 * exp ≤ world.clock := by
  obtain ⟨jti, exp', identified, expiry', expired | ⟨entry, found, revoked, lasts⟩⟩ := spent
  · cases expiry.symm.trans expiry'
    exact expired
  · cases expiry.symm.trans expiry'
    by_contra alive
    have readable : world.redisGet (TokenStoreService.keyPrefix ++ jti) = some entry := by
      rw [AuthWorld.redisGet, found]
      exact Option.filter_eq_some_iff.mpr
        ⟨rfl, decide_eq_true (lt_of_lt_of_le (not_le.mp alive) lasts)⟩
    exact free jti identified ⟨entry, readable, revoked⟩

/-- A lookup that does not find the token free gets the request turned away. -/
theorem rejecting_of_not_free {pool : AuthPool} {key : String}
    {next : AuthReply (.redisGet key) → AuthHandler AuthAnswer}
    (refreshes : refreshing token (.redisGet key) next pool.shared)
    (taken : ¬pool.shared.FindsFree token) :
    next (AuthWorld.exec (.redisGet key) pool.shared).2 = .fail JwtRefreshGuard.rejection := by
  obtain ⟨⟨jti, identified, rfl⟩, revoked, unavailable⟩ := refreshes
  simp only [AuthWorld.exec]
  cases reads : pool.shared.redisReads with
  | false => exact unavailable _
  | true =>
      have blacklisted : pool.shared.Blacklisted jti := by
        by_contra free
        refine taken ⟨reads, fun jti' identified' => ?_⟩
        cases identified.symm.trans identified'
        exact free
      simp only [↓reduceIte, AuthWorld.blacklisted_iff.mp blacklisted]
      exact revoked

/-- A refresh that starts after its token was spent never gets past the guard,
where lookups are timely. -/
theorem late_unadmitted {allowed : AuthLabel → AuthPool → Prop}
    (unforged : ∀ label pool, allowed label pool → Unforged label pool)
    (timely : ∀ label pool, allowed label pool →
      TimelyLookups token before.threads.length label pool)
    (sound : SessionSound before) (member : token ∈ before.shared.issued)
    (spent : before.shared.Spent token) (reached : gateway.Reaches allowed before finish) :
    ∀ index thread, finish.threads[index]? = some thread → before.threads.length ≤ index →
      ∀ device, thread.operation = .refresh (some token) device → Unadmitted thread.status := by
  refine reached.thread_invariant
    (fun index thread _ => before.threads.length ≤ index →
      ∀ device, thread.operation = .refresh (some token) device → Unadmitted thread.status)
    ?_ ?_ ?_ ?_ ?_
  · intro index thread present late
    rw [List.getElem?_eq_none late] at present
    cases present
  · rintro operation pool _ _ _ device rfl
    change Unadmitted (.running (AuthController.handle (.refresh (some token) device)))
    rw [handle_refresh]
    exact .verifying
  · intro index thread pool toPool permitted present kept late device operated
    obtain ⟨soundPool, moved⟩ := sound.reaches (toPool.mono unforged)
    have still := moved.2.2 token member spent
    have unadmitted := kept late device operated
    generalize status : thread.status = current at unadmitted
    cases unadmitted with
    | verifying =>
        have refreshes := soundPool.asserted present status
        rw [operated] at refreshes
        exact refreshes.2.2.2 _
    | @lookingUp key next =>
        have refreshes := soundPool.asserted present status
        rw [operated] at refreshes
        obtain ⟨_, exp, _, expiry, _⟩ := id still
        have taken : ¬pool.shared.FindsFree token := by
          intro free
          refine absurd (timely _ _ permitted index thread device key exp rfl late present operated
            ?_ free expiry) (not_lt.mpr (still.expired_of_free free.2 expiry))
          rw [Thread.pending, status]
          rfl
        change Unadmitted (.running (next (AuthWorld.exec (.redisGet key) pool.shared).2))
        rw [rejecting_of_not_free refreshes taken]
        exact .rejecting
    | rejecting => exact .rejected
    | rejected => exact .rejected
    | crashed => exact .crashed
  · intro index thread shared kept late device operated
    have unadmitted := kept late device operated
    generalize thread.status = current at unadmitted
    cases unadmitted with
    | rejected => exact .rejected
    | _ => exact .crashed
  · exact fun _ _ _ _ _ _ kept => kept

/-! ## Logout -/

/-- A logout of the token writes its entry while Redis does not refuse it. -/
def AcceptedLogouts (token : Jwt) (label : AuthLabel) (pool : AuthPool) : Prop :=
  ∀ index (thread : AuthThread) key value seconds, label = .step index →
    pool.threads[index]? = some thread →
    thread.operation = .logout (some token) →
    thread.pending = some (.redisSet key value seconds) → pool.shared.redisWrites ≠ .refused

/-- Where logouts of a token are `allowed` to run so, and what follows is allowed by
`later`, no request that presents the token after a logout answered is given a pair. -/
def LogoutHonest (allowed : Jwt → AuthLabel → AuthPool → Prop)
    (later : Jwt → Nat → AuthLabel → AuthPool → Prop) (start : AuthWorld) : Prop :=
  ∀ (before finish : AuthPool) token (index : Nat) (thread : AuthThread),
    gateway.Reaches (allowed token) ⟨start, []⟩ before →
    before.shared.Issued token → before.threads[index]? = some thread →
    thread.operation = .logout (some token) → thread.status = .returned .success →
    gateway.Reaches (later token before.threads.length) before finish →
    ∀ (other : Nat) (request : AuthThread) device answer, before.threads.length ≤ other →
      finish.threads[other]? = some request → request.operation = .refresh (some token) device →
      request.status ≠ .returned answer

/-- A logout that has answered, or is about to, has spent its token, in every state of a run
whose blacklist writes are accepted. -/
theorem logout_spent {allowed : AuthLabel → AuthPool → Prop}
    (unforged : ∀ label pool, allowed label pool → Unforged label pool)
    (accepted : ∀ label pool, allowed label pool → AcceptedLogouts token label pool)
    (sound : SessionSound ⟨world, []⟩) (minted : token.Minted)
    (reached : gateway.Reaches allowed ⟨world, []⟩ finish) :
    ∀ (index : Nat) (thread : AuthThread), finish.threads[index]? = some thread →
      thread.operation = .logout (some token) →
      finish.shared.Genuine token ∧ (Answered thread.status → finish.shared.Spent token) := by
  refine reached.thread_invariant
    (fun _ (thread : AuthThread) shared => thread.operation = .logout (some token) →
      shared.Genuine token ∧ (Answered thread.status → shared.Spent token)) ?_ ?_ ?_ ?_ ?_
  · exact fun _ _ none => nomatch none
  · rintro operation pool _ permitted rfl
    refine ⟨unforged _ _ permitted token rfl, ?_⟩
    rintro ⟨answer, running | returned⟩
    · change Status.running (AuthController.handle (.logout (some token))) = _ at running
      rw [handle_logout] at running
      cases running
    · cases returned
  · intro index thread pool toPool permitted present kept operated
    obtain ⟨soundPool, _⟩ := sound.reaches (toPool.mono unforged)
    obtain ⟨genuine, spent⟩ := kept operated
    have moved := soundPool.step (unforged _ _ permitted) present
    refine ⟨fun secret => moved.2.1 (genuine secret), fun ended => ?_⟩
    have member := genuine minted.secret
    rcases answered_advance ended with old | ⟨command, next, answer, status, replied⟩
    · exact moved.2.2 token member (spent old)
    · have promised := soundPool.asserted present status
      rw [operated] at promised
      rw [status]
      rcases promised ⟨member, minted⟩ answer replied with now |
        ⟨⟨key, value, seconds, rfl⟩, refused⟩
      · exact now
      · refine absurd refused (accepted _ _ permitted index thread key value seconds rfl present
          operated ?_)
        rw [Thread.pending, status]
        rfl
  · intro index thread shared kept operated
    obtain ⟨genuine, spent⟩ := kept operated
    exact ⟨genuine, fun ended => spent (answered_of_crash ended)⟩
  · intro label index thread pool toPool permitted kept operated
    obtain ⟨genuine, spent⟩ := kept operated
    obtain ⟨soundPool, _⟩ := sound.reaches (toPool.mono unforged)
    have moved := (soundPool.reaches (.step label .refl (unforged _ _ permitted))).2
    exact ⟨fun secret => moved.2.1 (genuine secret),
      fun ended => moved.2.2 token (genuine minted.secret) (spent ended)⟩

/-- A logout is honest where Redis does not refuse its `SET`, and later lookups of
the token are answered before it expires. -/
theorem logoutHonest_of_accepted (start : AuthWorld) (distinct : start.DistinctTokens) :
    LogoutHonest (fun token label pool => Unforged label pool ∧ AcceptedLogouts token label pool)
      (fun token first label pool => Unforged label pool ∧ TimelyLookups token first label pool)
      start := by
  intro before finish token index thread reached issued present operated answered continued
    other request device answer late requested operation returned
  have initial := SessionSound.initial distinct
  obtain ⟨sound, _⟩ := initial.reaches (reached.mono fun _ _ allowed => allowed.1)
  have spent := (logout_spent (fun _ _ allowed => allowed.1) (fun _ _ allowed => allowed.2)
    initial issued.2 reached index thread present operated).2 ⟨_, .inr answered⟩
  have unadmitted := late_unadmitted (fun _ _ allowed => allowed.1) (fun _ _ allowed => allowed.2)
    sound issued.1 spent continued other request requested late device operation
  rw [returned] at unadmitted
  cases unadmitted

/-! ## The blacklist -/

/-- Every step finds a Redis that reads and writes, and no token is forged. -/
def HealthyRedis (label : AuthLabel) (pool : AuthPool) : Prop :=
  Unforged label pool ∧ match label with
    | .step _ => pool.shared.redisReads = true ∧ pool.shared.redisWrites = .stored
    | _ => True

instance : ∀ label pool, Decidable (HealthyRedis label pool)
  | .step index, pool => inferInstanceAs (Decidable (Unforged (.step index) pool ∧
      pool.shared.redisReads = true ∧ pool.shared.redisWrites = .stored))
  | .spawn operation, pool => inferInstanceAs (Decidable (Unforged (.spawn operation) pool ∧ True))
  | .crash index, pool => inferInstanceAs (Decidable (Unforged (.crash index) pool ∧ True))
  | .environment event, pool =>
      inferInstanceAs (Decidable (Unforged (.environment event) pool ∧ True))

/-- `blacklistRefreshToken` has returned in the thread: a refresh is about to issue
its pair or has answered, a logout has answered. -/
def HasBlacklisted (thread : AuthThread) (token : Jwt) : Prop :=
  (∃ device, thread.operation = .refresh (some token) device ∧
    ((∃ userId accountType deviceId tokenVersion, thread.pending =
      some (.issueTokenPair userId accountType deviceId tokenVersion)) ∨
      Answered thread.status)) ∨
  thread.operation = .logout (some token) ∧ Answered thread.status

/-- Once a token is blacklisted, at every later instant it has expired or its entry
is readable, and every request that starts later is turned away by the guard. -/
structure BlacklistOutlives (later : Jwt → Nat → AuthLabel → AuthPool → Prop)
    (start : AuthWorld) : Prop where
  everyInstant : ∀ (before finish : AuthPool) token (index : Nat) (thread : AuthThread),
    gateway.Reaches HealthyRedis ⟨start, []⟩ before → before.shared.Issued token →
    before.threads[index]? = some thread → HasBlacklisted thread token →
    gateway.Reaches HealthyRedis before finish →
    JwtService.verify token Gateway.jwtRefreshSecret finish.shared.clock = none ∨
      ∃ jti, token.payload.jti = some jti ∧ finish.shared.Blacklisted jti
  turnedAway : ∀ (before finish : AuthPool) token (index : Nat) (thread : AuthThread),
    gateway.Reaches HealthyRedis ⟨start, []⟩ before → before.shared.Issued token →
    before.threads[index]? = some thread → HasBlacklisted thread token →
    gateway.Reaches (later token before.threads.length) before finish →
    ∀ (other : Nat) (request : AuthThread) device, before.threads.length ≤ other →
      finish.threads[other]? = some request → request.operation = .refresh (some token) device →
      Unadmitted request.status

/-- A refresh that is about to issue a pair, or has answered, has spent its token. -/
theorem refresh_spent {pool : AuthPool} (sound : SessionSound pool) {index : Nat}
    {thread : AuthThread} (present : pool.threads[index]? = some thread) {device : Option String}
    (operated : thread.operation = .refresh (some token) device)
    (issuing : (∃ userId accountType deviceId tokenVersion, thread.pending =
      some (.issueTokenPair userId accountType deviceId tokenVersion)) ∨
      Answered thread.status) : pool.shared.Spent token := by
  have valid := sound.threads thread (List.mem_of_getElem? present)
  rw [operated] at valid
  rcases issuing with ⟨userId, accountType, deviceId, tokenVersion, pending⟩ |
    ⟨answer, running | returned⟩
  · obtain ⟨next, running⟩ := Thread.running_of_pending pending
    have spends := sound.asserted present running
    rw [operated] at spends
    exact spends.1
  · rw [running] at valid
    exact valid _ (sessionContract.refl _) sound.keeps
  · rw [returned] at valid
    exact valid _ (sessionContract.refl _) sound.keeps

/-- A blacklisted token is spent. -/
theorem HasBlacklisted.spent {index : Nat} {thread : AuthThread}
    (blacklisted : HasBlacklisted thread token) (distinct : world.DistinctTokens)
    (reached : gateway.Reaches HealthyRedis ⟨world, []⟩ finish)
    (issued : finish.shared.Issued token) (present : finish.threads[index]? = some thread) :
    finish.shared.Spent token := by
  have initial := SessionSound.initial distinct
  obtain ⟨sound, _⟩ := initial.reaches (reached.mono fun _ _ healthy => healthy.1)
  rcases blacklisted with ⟨device, operated, issuing⟩ | ⟨operated, answered⟩
  · exact refresh_spent sound present operated issuing
  · refine (logout_spent (fun _ _ healthy => healthy.1) ?_ initial issued.2 reached index thread
      present operated).2 answered
    rintro _ pool healthy stepping _ _ _ _ rfl _ _ _ refused
    rw [healthy.2.2] at refused
    cases refused

omit [Gateway] in
/-- A spent token has expired or its entry is readable. -/
theorem AuthWorld.Spent.covered (spent : world.Spent token) (secret : String) :
    JwtService.verify token secret world.clock = none ∨
      ∃ jti, token.payload.jti = some jti ∧ world.Blacklisted jti := by
  by_cases free : ∀ jti, token.payload.jti = some jti → ¬world.Blacklisted jti
  · refine .inl ?_
    obtain ⟨jti, exp, identified, expiry, _⟩ := id spent
    have expired := spent.expired_of_free free expiry
    have late : ¬world.clock / 1000 < exp :=
      not_lt.mpr ((Nat.le_div_iff_mul_le (by decide)).mpr (Nat.mul_comm exp 1000 ▸ expired))
    simp only [JwtService.verify, expiry, Option.all_some, late, decide_false,
      Bool.false_eq_true, and_false, ↓reduceIte]
  · push Not at free
    exact .inr free

/-- The blacklist outlives the token at every instant, and turns every later request
away whose lookup is answered before the token expires. -/
theorem blacklistOutlives_of_timely (start : AuthWorld) (distinct : start.DistinctTokens) :
    BlacklistOutlives (fun token first label pool => HealthyRedis label pool ∧
      TimelyLookups token first label pool) start where
  everyInstant := by
    intro before finish token index thread reached issued present blacklisted continued
    have spent := blacklisted.spent distinct reached issued present
    obtain ⟨sound, _⟩ :=
      (SessionSound.initial distinct).reaches (reached.mono fun _ _ healthy => healthy.1)
    obtain ⟨_, moved⟩ := sound.reaches (continued.mono fun _ _ healthy => healthy.1)
    exact (moved.2.2 token issued.1 spent).covered _
  turnedAway := by
    intro before finish token index thread reached issued present blacklisted continued
      other request device late requested operated
    obtain ⟨sound, _⟩ :=
      (SessionSound.initial distinct).reaches (reached.mono fun _ _ healthy => healthy.1)
    exact late_unadmitted (fun _ _ allowed => allowed.1.1) (fun _ _ allowed => allowed.2) sound
      issued.1 (blacklisted.spent distinct reached issued present) continued other request
      requested late device operated

end Law

/-! ## A refused write and a late lookup -/

section Runs

local instance sessionGateway : Gateway := plainGateway

/-- Before the first request no token is known, so the known ones are distinct. -/
theorem distinctTokens_empty : AuthWorld.DistinctTokens {} :=
  ⟨fun _ none => (nomatch none), fun _ none => (nomatch none)⟩

/-- A store with one account. -/
def oneAccount : Backend :=
  { users := [UsersService.autoregUser 0 0], nextObjectId := 1 }

/-- The first pair of that account. -/
def firstPair : TokenPairDto :=
  AuthService.issueTokenPair (ObjectIds.toHexString 0) (some .autoreg) "device" 0
    (ObjectIds.toHexString 0) 0

/-- A logout whose `SET` Redis takes. -/
def takenLogout : List AuthLabel :=
  [.environment (.users oneAccount),
    .environment (.signIn (ObjectIds.toHexString 0) .autoreg "device" 0),
    .spawn (.logout (some firstPair.refreshToken)), .step 0, .step 0, .step 0, .step 0]

/-- A refresh with the token, up to its verdict. -/
def turnedAway : List AuthLabel :=
  [.spawn (.refresh (some firstPair.refreshToken) (some "device")), .step 1, .step 1, .step 1]

/-- The run of that logout is admitted: no token in it is forged, and Redis takes its
blacklisting. -/
theorem takenLogout_accepted :
    gateway.Admits (fun label pool => Unforged label pool ∧
      AcceptedLogouts firstPair.refreshToken label pool) takenLogout ⟨{}, []⟩ := by
  have unforged : gateway.Admits Unforged takenLogout ⟨{}, []⟩ := by decide
  have taken : ∀ position < 7, (gateway.before ⟨{}, []⟩ takenLogout position).shared.redisWrites ≠
    .refused := by decide
  refine System.admits_of_forall fun position label here => ⟨unforged.allowed here, ?_⟩
  rintro _ _ _ _ _ rfl _ _ _
  exact taken position (List.getElem?_eq_some_iff.mp here).1

/-- Its lookup finds the entry of the logout. -/
theorem turnedAway_timely :
    gateway.Admits (fun label pool => Unforged label pool ∧
      TimelyLookups firstPair.refreshToken 1 label pool) turnedAway
      (gateway.schedule ⟨{}, []⟩ takenLogout) := by
  have unforged : gateway.Admits Unforged turnedAway (gateway.schedule ⟨{}, []⟩ takenLogout) := by
    decide
  have early : ∀ position < 4, (gateway.before (gateway.schedule ⟨{}, []⟩ takenLogout) turnedAway
    position).shared.clock = 0 := by decide
  refine System.admits_of_forall fun position label here => ⟨unforged.allowed here, ?_⟩
  rintro _ _ _ _ exp rfl _ _ _ _ _ expiry
  rw [early position (List.getElem?_eq_some_iff.mp here).1]
  cases expiry
  decide

/-- The premises are met by a logout whose blacklisting Redis takes: once it has answered,
the refresh with its token gets no pair. -/
theorem logoutHonest_from_empty :
    ∃ request, (gateway.schedule (gateway.schedule ⟨{}, []⟩ takenLogout) turnedAway).threads[1]? =
      some request ∧ request.operation = .refresh (some firstPair.refreshToken) (some "device") ∧
      ∀ answer, request.status ≠ .returned answer := by
  have issued : (gateway.schedule ⟨{}, []⟩ takenLogout).shared.Issued firstPair.refreshToken :=
    ⟨by decide, _, _, _, _, 0, _, rfl⟩
  refine ⟨_, rfl, rfl, fun answer => ?_⟩
  exact logoutHonest_of_accepted {} distinctTokens_empty _ _ _ 0 _ (.of_admits takenLogout_accepted)
    issued rfl rfl rfl (.of_admits turnedAway_timely) 1 _ _ answer (by decide) rfl rfl

/-- Redis refuses the `SET` of a logout and is back for the refresh after it. -/
def refusedLogout : List AuthLabel :=
  [.environment (.users oneAccount),
    .environment (.signIn (ObjectIds.toHexString 0) .autoreg "device" 0),
    .environment (.redisWrites .refused), .spawn (.logout (some firstPair.refreshToken)),
    .step 0, .step 0, .step 0, .step 0]

def afterLogout : List AuthLabel :=
  [.environment (.redisWrites .stored),
    .spawn (.refresh (some firstPair.refreshToken) (some "device")),
    .step 1, .step 1, .step 1, .step 1, .step 1, .step 1, .step 1]

/-- Redis refuses the write, and the logout swallows the error. The client was told that it
is logged out, and its token is exchanged for a pair. -/
theorem not_logoutHonest_of_refusal :
    ¬LogoutHonest (fun _ => Unforged) (fun _ _ => Unforged) {} := by
  intro honest
  have first : gateway.Admits Unforged refusedLogout ⟨{}, []⟩ := by decide
  have second : gateway.Admits Unforged afterLogout
    (gateway.schedule ⟨{}, []⟩ refusedLogout) := by decide
  have told : (gateway.schedule ⟨{}, []⟩ refusedLogout).threads[0]? =
    some ⟨.logout (some firstPair.refreshToken), .returned .success⟩ := by rfl
  have exchanged : ∃ pair, (gateway.schedule (gateway.schedule ⟨{}, []⟩ refusedLogout)
      afterLogout).threads[1]? = some ⟨.refresh (some firstPair.refreshToken) (some "device"),
        .returned (.pair pair)⟩ := ⟨_, by rfl⟩
  have issued : (gateway.schedule ⟨{}, []⟩ refusedLogout).shared.Issued firstPair.refreshToken :=
    ⟨by decide, _, _, _, _, 0, _, rfl⟩
  obtain ⟨pair, exchanged⟩ := exchanged
  exact honest _ _ _ 0 _ (.of_admits first) issued told rfl rfl (.of_admits second) 1 _ _ _
    (by decide) exchanged rfl rfl

/-- A refresh spends the token; another verifies in the last millisecond and looks
the token up when it, and its entry, have expired. -/
def spentByRefresh : List AuthLabel :=
  [.environment (.users oneAccount),
    .environment (.signIn (ObjectIds.toHexString 0) .autoreg "device" 0),
    .spawn (.refresh (some firstPair.refreshToken) (some "device"))] ++
    List.replicate 7 (.step 0)

/-- Another verifies and looks the token up in its last millisecond. -/
def lastMillisecond : List AuthLabel :=
  [.environment (.tick (1000 * (30 * 24 * 60 * 60) - 1)),
    .spawn (.refresh (some firstPair.refreshToken) (some "device")), .step 1, .step 1]

/-- That lookup finds the entry. -/
theorem lastMillisecond_timely :
    gateway.Admits (fun label pool => HealthyRedis label pool ∧
      TimelyLookups firstPair.refreshToken 1 label pool) lastMillisecond
      (gateway.schedule ⟨{}, []⟩ spentByRefresh) := by
  have healthy : gateway.Admits HealthyRedis lastMillisecond
    (gateway.schedule ⟨{}, []⟩ spentByRefresh) := by decide
  have once : ∀ position < 4, (gateway.performed (gateway.schedule ⟨{}, []⟩ spentByRefresh)
      lastMillisecond position).all fun done => match done.2.2 with
        | .redisGet _ => decide (position = 3)
        | _ => true := by decide
  refine System.admits_of_forall fun position label here => ⟨healthy.allowed here, ?_⟩
  rintro index thread device key exp rfl _ present _ pending free _
  have performs : gateway.PerformsAt (gateway.schedule ⟨{}, []⟩ spentByRefresh) lastMillisecond
    position index thread (.redisGet key) := ⟨here, present, pending⟩
  have looked := once position performs.lt_length
  rw [performs.performed] at looked
  obtain rfl := of_decide_eq_true looked
  exact absurd ⟨_, rfl, rfl⟩ (free.2 _ rfl)

/-- In its last millisecond the token of a completed refresh is still covered, and the
request that presents it is turned away. -/
theorem blacklistOutlives_from_empty :
    (JwtService.verify firstPair.refreshToken Gateway.jwtRefreshSecret (gateway.schedule
        (gateway.schedule ⟨{}, []⟩ spentByRefresh) lastMillisecond).shared.clock = none ∨
      ∃ jti, firstPair.refreshToken.payload.jti = some jti ∧ (gateway.schedule
        (gateway.schedule ⟨{}, []⟩ spentByRefresh) lastMillisecond).shared.Blacklisted jti) ∧
    ∃ request, (gateway.schedule (gateway.schedule ⟨{}, []⟩ spentByRefresh)
      lastMillisecond).threads[1]? = some request ∧ Unadmitted request.status := by
  have first : gateway.Admits HealthyRedis spentByRefresh ⟨{}, []⟩ := by decide
  have second := lastMillisecond_timely
  have issued : (gateway.schedule ⟨{}, []⟩ spentByRefresh).shared.Issued firstPair.refreshToken :=
    ⟨by decide, _, _, _, _, 0, _, rfl⟩
  have outlives := blacklistOutlives_of_timely {} distinctTokens_empty
  refine ⟨outlives.everyInstant _ _ _ 0 _ (.of_admits first) issued rfl
    (.inl ⟨_, rfl, .inr ⟨_, .inr rfl⟩⟩)
    ((System.Reaches.of_admits second).mono fun _ _ allowed => allowed.1), _, rfl, ?_⟩
  exact outlives.turnedAway _ _ _ 0 _ (.of_admits first) issued rfl
    (.inl ⟨_, rfl, .inr ⟨_, .inr rfl⟩⟩) (.of_admits second) 1 _ _ (by decide) rfl rfl

def lateLookup : List AuthLabel :=
  [.spawn (.refresh (some firstPair.refreshToken) (some "device")),
    .environment (.tick (1000 * (30 * 24 * 60 * 60) - 1)), .step 1, .environment (.tick 1), .step 1]

/-- A request verifies its token a moment before the expiry and looks it up when the
blacklist entry has expired with it. So it is past the guard although its token was
blacklisted before. -/
theorem not_blacklistOutlives_of_lateLookup :
    ¬BlacklistOutlives (fun _ _ => HealthyRedis) {} := by
  intro outlives
  have first : gateway.Admits HealthyRedis spentByRefresh ⟨{}, []⟩ := by decide
  have second : gateway.Admits HealthyRedis lateLookup
    (gateway.schedule ⟨{}, []⟩ spentByRefresh) := by decide
  have spent : ∃ pair, (gateway.schedule ⟨{}, []⟩ spentByRefresh).threads[0]? =
    some ⟨.refresh (some firstPair.refreshToken) (some "device"), .returned (.pair pair)⟩ :=
    ⟨_, by rfl⟩
  have issued : (gateway.schedule ⟨{}, []⟩ spentByRefresh).shared.Issued firstPair.refreshToken :=
    ⟨by decide, _, _, _, _, 0, _, rfl⟩
  have admitted : ∃ operation next, (gateway.schedule (gateway.schedule ⟨{}, []⟩ spentByRefresh)
      lateLookup).threads[1]? = some ⟨.refresh (some firstPair.refreshToken) (some "device"),
        .running (.call (.user operation) next)⟩ := ⟨_, _, by rfl⟩
  obtain ⟨pair, spent⟩ := spent
  obtain ⟨operation, next, admitted⟩ := admitted
  have unadmitted := outlives.turnedAway _ _ _ 0 _ (.of_admits first) issued spent
    (.inl ⟨_, rfl, .inr ⟨_, .inr rfl⟩⟩) (.of_admits second) 1 _ _ (by decide) admitted rfl
  cases unadmitted

end Runs

end NestMonorepo
