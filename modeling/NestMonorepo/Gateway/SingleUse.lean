import NestMonorepo.Concurrency.History
import NestMonorepo.Gateway.SpentTokens

/-! # Refresh tokens and concurrent requests

Between a request's passing lookup and its blacklist write lies a round trip to the
user service; another request with the same token may look it up meanwhile. Where no
lookup falls into such a window, a token is exchanged at most once.
-/

namespace NestMonorepo

open Collections Concurrency AuthHandler

/-- The request has passed its verification. -/
def Verified : Status AuthCommand AuthReply GatewayError AuthAnswer → Prop
  | .running (.call (.verify _ _) _) => False
  | .running (.call _ _) => True
  | .running (.ret _) => True
  | .returned _ => True
  | _ => False

/-- The request has passed its lookup. -/
def Admitted : Status AuthCommand AuthReply GatewayError AuthAnswer → Prop
  | .running (.call (.verify _ _) _) => False
  | .running (.call (.redisGet _) _) => False
  | .running (.call _ _) => True
  | .running (.ret _) => True
  | .returned _ => True
  | _ => False

/-- The request has passed its lookup and not yet written its blacklist entry. -/
def InWindow : Status AuthCommand AuthReply GatewayError AuthAnswer → Prop
  | .running (.call (.user _) _) => True
  | .running (.call .now _) => True
  | .running (.call (.redisSet _ _ _) _) => True
  | _ => False

section Law

variable [Gateway]

/-- The request is about to mint a pair. -/
def Mints (thread : AuthThread) : Prop :=
  ∃ userId accountType deviceId tokenVersion,
    thread.pending = some (.issueTokenPair userId accountType deviceId tokenVersion)

/-- Over the runs whose steps are `allowed`, no two requests with one identifier
succeed, and once a pair is minted from an identifier no further one is, unless the
process of the request that minted the first has died before answering it. -/
structure SingleUse (allowed : AuthLabel → AuthPool → Prop) (start : AuthWorld) : Prop where
  responses : ∀ pool : AuthPool, gateway.Reaches allowed ⟨start, []⟩ pool →
    ∀ (index other : Nat) (thread request : AuthThread) token presented device header jti answer,
      index ≠ other → pool.threads[index]? = some thread → pool.threads[other]? = some request →
      thread.operation = .refresh (some token) device →
      request.operation = .refresh (some presented) header →
      token.payload.jti = some jti → presented.payload.jti = some jti →
      thread.status = .returned answer → ∀ second, request.status ≠ .returned second
  pairs : ∀ (before finish : AuthPool) (index other : Nat) (thread request : AuthThread)
      token presented device header jti,
    gateway.Reaches allowed ⟨start, []⟩ before → before.threads[index]? = some thread →
    thread.operation = .refresh (some token) device → token.payload.jti = some jti →
    Mints thread → allowed (.step index) before →
    gateway.Reaches allowed (gateway.next (.step index) before) finish →
    finish.threads[other]? = some request → request.operation = .refresh (some presented) header →
    presented.payload.jti = some jti → Mints request →
    ∃ minter, finish.threads[index]? = some minter ∧ minter.status = .crashed

/-- A lookup that finds its token free does so while no other request with the
identifier is between its lookup and its write, and, if another has spent it, before
it expires. -/
def SingleFlight (label : AuthLabel) (pool : AuthPool) : Prop :=
  ∀ (index other : Nat) (thread request : AuthThread) token presented device header key,
    label = .step index → index ≠ other → pool.threads[index]? = some thread →
    pool.threads[other]? = some request → thread.operation = .refresh (some token) device →
    request.operation = .refresh (some presented) header →
    presented.payload.jti = token.payload.jti → thread.pending = some (.redisGet key) →
    pool.shared.FindsFree token →
    ¬InWindow request.status ∧ ∀ exp, token.payload.exp = some exp →
      HasBlacklisted request presented → pool.shared.clock < 1000 * exp

/-! ## One step of a request -/

omit [Gateway] in
/-- What stands in front of the guard's verdict has not passed it. -/
theorem not_admitted_of_unadmitted
    {status : Status AuthCommand AuthReply GatewayError AuthAnswer}
    (unadmitted : Unadmitted status) : ¬Admitted status := by
  cases unadmitted <;> exact id

omit [Gateway] in
/-- A request that was admitted has had its token verified. -/
theorem verified_of_admitted {status : Status AuthCommand AuthReply GatewayError AuthAnswer}
    (admitted : Admitted status) : Verified status := by
  cases status with
  | running program =>
      cases program with
      | call command next => cases command <;> trivial
      | _ => exact admitted
  | _ => exact admitted

omit [Gateway] in
/-- A crash admits no request. -/
theorem admitted_of_crash {status : Status AuthCommand AuthReply GatewayError AuthAnswer}
    (admitted : Admitted (System.crash status)) : Admitted status := by
  cases status with
  | running program => exact admitted.elim
  | _ => exact admitted

omit [Gateway] in
/-- An admitted request that has left the window issues a pair or has answered. -/
theorem issuing_of_admitted {thread : AuthThread} (admitted : Admitted thread.status)
    (left : ¬InWindow thread.status) :
    (∃ userId accountType deviceId tokenVersion, thread.pending =
      some (.issueTokenPair userId accountType deviceId tokenVersion)) ∨
      Answered thread.status := by
  obtain ⟨operation, status⟩ := thread
  cases status with
  | running program =>
      cases program with
      | ret answer => exact .inr ⟨answer, .inl rfl⟩
      | fail error => exact admitted.elim
      | call command next =>
          cases command with
          | issueTokenPair userId accountType deviceId tokenVersion =>
              exact .inl ⟨_, _, _, _, rfl⟩
          | verify _ _ => exact admitted.elim
          | redisGet _ => exact admitted.elim
          | _ => exact (left trivial).elim
  | returned answer => exact .inr ⟨answer, .inr rfl⟩
  | _ => exact admitted.elim

variable {pool : AuthPool} {index : Nat} {thread : AuthThread} {token : Jwt}
  {device : Option String}

/-- A request is admitted by a lookup that finds its token free, or it was admitted before
the step. -/
theorem admitted_of_step (sound : SessionSound pool) (present : pool.threads[index]? = some thread)
    (operated : thread.operation = .refresh (some token) device)
    (admitted : Admitted (gateway.advance thread.status pool.shared).2) :
    Admitted thread.status ∨ (∃ key, thread.pending = some (.redisGet key)) ∧
      pool.shared.FindsFree token := by
  obtain ⟨operation, status⟩ := thread
  obtain rfl : operation = _ := operated
  cases status with
  | running program =>
      cases program with
      | ret value => exact .inl trivial
      | fail error => exact admitted.elim
      | call command next =>
          have refreshes := sound.asserted present rfl
          cases command with
          | redisGet key =>
              refine .inr ⟨⟨key, rfl⟩, ?_⟩
              by_contra taken
              change Admitted (.running (next (AuthWorld.exec (.redisGet key) pool.shared).2))
                at admitted
              rw [rejecting_of_not_free refreshes taken] at admitted
              exact admitted
          | verify presented secret =>
              exact (not_admitted_of_unadmitted (refreshes.2.2.2 _) admitted).elim
          | _ => exact .inl trivial
  | returned answer => exact .inl trivial
  | _ => exact admitted.elim

/-- A request passes its verification with an issued token only, or it had passed it before
the step. -/
theorem verified_of_step (sound : SessionSound pool) (present : pool.threads[index]? = some thread)
    (operated : thread.operation = .refresh (some token) device)
    (genuine : pool.shared.Genuine token)
    (verified : Verified (gateway.advance thread.status pool.shared).2) :
    Verified thread.status ∨ token ∈ pool.shared.issued := by
  obtain ⟨operation, status⟩ := thread
  obtain rfl : operation = _ := operated
  cases status with
  | running program =>
      cases program with
      | ret value => exact .inl trivial
      | fail error => exact verified.elim
      | call command next =>
          have refreshes := sound.asserted present rfl
          cases command with
          | verify presented secret =>
              obtain ⟨rfl, rfl, rejects, _⟩ := refreshes
              change Verified (.running (next (JwtService.verify presented
                Gateway.jwtRefreshSecret pool.shared.clock))) at verified
              cases accepted : JwtService.verify presented Gateway.jwtRefreshSecret
                  pool.shared.clock with
              | none =>
                  rw [accepted, rejects] at verified
                  exact verified.elim
              | some payload => exact .inr (genuine (verify_secret accepted))
          | _ => exact .inl trivial
  | returned answer => exact .inl trivial
  | _ => exact verified.elim

/-- A request past its verification presents an issued token, in every state of a run
without forged ones. -/
theorem issued_of_verified {allowed : AuthLabel → AuthPool → Prop}
    (unforged : ∀ label pool, allowed label pool → Unforged label pool) {start : AuthWorld}
    (sound : SessionSound ⟨start, []⟩) (reached : gateway.Reaches allowed ⟨start, []⟩ pool) :
    ∀ (index : Nat) (thread : AuthThread), pool.threads[index]? = some thread →
      ∀ token device, thread.operation = .refresh (some token) device →
        pool.shared.Genuine token ∧ (Verified thread.status → token ∈ pool.shared.issued) := by
  refine reached.thread_invariant (fun _ (thread : AuthThread) shared =>
    ∀ token device, thread.operation = .refresh (some token) device → shared.Genuine token ∧
      (Verified thread.status → token ∈ shared.issued)) ?_ ?_ ?_ ?_ ?_
  · exact fun _ _ none => nomatch none
  · rintro operation pool _ permitted token device rfl
    refine ⟨unforged _ _ permitted token rfl, ?_⟩
    change Verified (.running (AuthController.handle (.refresh (some token) device))) → _
    rw [handle_refresh]
    exact False.elim
  · intro index thread pool toPool permitted present kept token device operated
    obtain ⟨soundPool, _⟩ := sound.reaches (toPool.mono unforged)
    have moved := soundPool.step (unforged _ _ permitted) present
    obtain ⟨genuine, issued⟩ := kept token device operated
    refine ⟨fun secret => moved.2.1 (genuine secret), fun verified => moved.2.1 ?_⟩
    exact (verified_of_step soundPool present operated genuine verified).elim issued id
  · intro index thread shared kept token device operated
    obtain ⟨genuine, issued⟩ := kept token device operated
    refine ⟨genuine, fun verified => issued ?_⟩
    generalize thread.status = status at verified
    cases status with
    | running program => exact verified.elim
    | _ => exact verified
  · intro label index thread pool toPool permitted kept token device operated
    obtain ⟨soundPool, _⟩ := sound.reaches (toPool.mono unforged)
    have moved := (soundPool.reaches (.step label .refl (unforged _ _ permitted))).2
    obtain ⟨genuine, issued⟩ := kept token device operated
    exact ⟨fun secret => moved.2.1 (genuine secret), fun verified => moved.2.1 (issued verified)⟩

/-! ## Any number of requests -/

/-- No two requests with one identifier are past their lookups. -/
def OneAdmitted (pool : AuthPool) : Prop :=
  ∀ (index other : Nat) (thread request : AuthThread) token presented device header jti,
    index ≠ other → pool.threads[index]? = some thread → pool.threads[other]? = some request →
    thread.operation = .refresh (some token) device →
    request.operation = .refresh (some presented) header →
    token.payload.jti = some jti → presented.payload.jti = some jti →
    Admitted thread.status → ¬Admitted request.status

/-- What is admitted after a decision was admitted before, or is just passing its
lookup. -/
theorem admitted_of_next (sound : SessionSound pool) {label : AuthLabel}
    (present : (gateway.next label pool).threads[index]? = some thread)
    (operated : thread.operation = .refresh (some token) device)
    (admitted : Admitted thread.status) :
    ∃ old, pool.threads[index]? = some old ∧ old.operation = .refresh (some token) device ∧
      (Admitted old.status ∨ label = .step index ∧ (∃ key, old.pending = some (.redisGet key)) ∧
        pool.shared.FindsFree token) := by
  rcases System.get_next present with
    ⟨same, _⟩ | ⟨operation, rfl, rfl, rfl⟩ | ⟨old, found, ⟨rfl, rfl⟩ | ⟨rfl, rfl⟩⟩
  · exact ⟨thread, same, operated, .inl admitted⟩
  · obtain rfl : operation = _ := operated
    change Admitted (.running (AuthController.handle (.refresh (some token) device))) at admitted
    rw [handle_refresh] at admitted
    exact admitted.elim
  · refine ⟨old, found, operated, ?_⟩
    exact (admitted_of_step sound found operated admitted).imp_right fun looked => ⟨rfl, looked⟩
  · exact ⟨old, found, operated, .inl (admitted_of_crash admitted)⟩

/-- Where lookups are single-flight, none passes beside an admitted request: that one has
spent the token by the time the next may look. -/
theorem not_free_of_admitted {start : AuthWorld} (initial : SessionSound ⟨start, []⟩)
    {allowed : AuthLabel → AuthPool → Prop}
    (unforged : ∀ label pool, allowed label pool → Unforged label pool)
    (reached : gateway.Reaches allowed ⟨start, []⟩ pool)
    (flight : SingleFlight (.step index) pool) {other : Nat} {request : AuthThread}
    {presented : Jwt} {header : Option String} {jti : String} (differ : index ≠ other)
    (present : pool.threads[index]? = some thread)
    (requested : pool.threads[other]? = some request)
    (operated : thread.operation = .refresh (some token) device)
    (operation : request.operation = .refresh (some presented) header)
    (identified : token.payload.jti = some jti) (same : presented.payload.jti = some jti)
    (admitted : Admitted request.status) {key : String}
    (pending : thread.pending = some (.redisGet key)) : ¬pool.shared.FindsFree token := by
  intro free
  obtain ⟨sound, _⟩ := initial.reaches (reached.mono unforged)
  obtain ⟨closed, timely⟩ := flight index other thread request token presented device header key
    rfl differ present requested operated operation (same.trans identified.symm) pending free
  have issuing := issuing_of_admitted admitted closed
  have spent := refresh_spent sound requested operation issuing
  have verified : Verified thread.status := by
    obtain ⟨next, running⟩ := Thread.running_of_pending pending
    rw [running]
    trivial
  have equal : token = presented := sound.keeps.unique token
    ((issued_of_verified unforged initial reached index thread present token device operated).2
      verified) presented
    ((issued_of_verified unforged initial reached other request requested presented header
      operation).2 (verified_of_admitted admitted)) jti identified same
  subst equal
  obtain ⟨_, exp, _, expiry, _⟩ := id spent
  exact absurd (timely exp expiry (.inl ⟨header, operation, issuing⟩))
    (not_lt.mpr (spent.expired_of_free free.2 expiry))

/-- Where lookups are single-flight, no two requests with one identifier get past
them. -/
theorem oneAdmitted {start : AuthWorld} (initial : SessionSound ⟨start, []⟩)
    (reached : gateway.Reaches (fun label pool => Unforged label pool ∧ SingleFlight label pool)
      ⟨start, []⟩ pool) : OneAdmitted pool := by
  induction reached with
  | refl => exact fun _ _ _ _ _ _ _ _ _ _ none => nomatch none
  | @step pool label reached permitted ih =>
      intro index other thread request token presented device header jti differ present requested
        operated operation identified same admitted beside
      obtain ⟨sound, _⟩ := initial.reaches (reached.mono fun _ _ allowed => allowed.1)
      obtain ⟨old, oldPresent, oldOperated, before⟩ :=
        admitted_of_next sound present operated admitted
      obtain ⟨mate, matePresent, mateOperated, beside⟩ :=
        admitted_of_next sound requested operation beside
      rcases before with before | ⟨rfl, ⟨key, pending⟩, free⟩
      · rcases beside with beside | ⟨rfl, ⟨key, pending⟩, free⟩
        · exact ih index other old mate token presented device header jti differ oldPresent
            matePresent oldOperated mateOperated identified same before beside
        · exact not_free_of_admitted initial (fun _ _ allowed => allowed.1) reached permitted.2
            differ.symm matePresent oldPresent mateOperated oldOperated same identified before
            pending free
      · rcases beside with beside | ⟨same', _⟩
        · exact not_free_of_admitted initial (fun _ _ allowed => allowed.1) reached permitted.2
            differ oldPresent matePresent oldOperated mateOperated identified same beside
            pending free
        · exact differ (Label.step.inj same')

/-- A request that mints a pair answers it next, and mints no other: it stays
answered until its process dies. -/
theorem answered_of_minted {allowed : AuthLabel → AuthPool → Prop} {finish : AuthPool}
    (sound : SessionSound pool) (present : pool.threads[index]? = some thread)
    (operated : thread.operation = .refresh (some token) device) (mints : Mints thread)
    (reached : gateway.Reaches allowed (gateway.next (.step index) pool) finish) :
    ∃ minter, finish.threads[index]? = some minter ∧ minter.operation = thread.operation ∧
      (Answered minter.status ∨ minter.status = .crashed) := by
  obtain ⟨userId, accountType, deviceId, tokenVersion, pending⟩ := mints
  obtain ⟨next, running⟩ := Thread.running_of_pending pending
  have ends := sound.asserted present running
  rw [operated] at ends
  obtain ⟨answer, last⟩ := ends.2 (AuthWorld.exec
    (.issueTokenPair userId accountType deviceId tokenVersion) pool.shared).2
  have stepped : gateway.next (.step index) pool = _ := System.next_step_of_get present
  have below : index < (gateway.next (.step index) pool).threads.length := by
    rw [stepped, List.length_set]
    exact (List.getElem?_eq_some_iff.mp present).1
  have still : ∀ place (later : AuthThread), finish.threads[place]? = some later →
      place = index → later.operation = thread.operation ∧
        (Answered later.status ∨ later.status = .crashed) := by
    refine reached.thread_invariant (fun place (later : AuthThread) _ => place = index →
      later.operation = thread.operation ∧ (Answered later.status ∨ later.status = .crashed))
      ?_ ?_ ?_ ?_ ?_
    · rintro place later found rfl
      rw [stepped, List.getElem?_set_self (List.getElem?_eq_some_iff.mp present).1] at found
      cases found
      refine ⟨rfl, .inl ⟨answer, .inl ?_⟩⟩
      rw [running]
      exact congrArg Status.running last
    · rintro operation later between _ same
      exact absurd (same ▸ below) (Nat.not_lt.mpr between.length_threads)
    · rintro place later shared _ _ _ kept same
      obtain ⟨operation, ⟨answer, running | returned⟩ | crashed⟩ := kept same
      · exact ⟨operation, .inl ⟨answer, .inr (by rw [running]; rfl)⟩⟩
      · exact ⟨operation, .inl ⟨answer, .inr (by rw [returned]; rfl)⟩⟩
      · exact ⟨operation, .inr (by rw [crashed]; rfl)⟩
    · rintro place later _ kept same
      obtain ⟨operation, ⟨answer, running | returned⟩ | crashed⟩ := kept same
      · exact ⟨operation, .inr (by rw [running]; rfl)⟩
      · exact ⟨operation, .inl ⟨answer, .inr (by rw [returned]; rfl)⟩⟩
      · exact ⟨operation, .inr (by rw [crashed]; rfl)⟩
    · exact fun _ _ _ _ _ _ kept => kept
  have found := List.getElem?_eq_getElem (Nat.lt_of_lt_of_le below reached.length_threads)
  exact ⟨_, found, still index _ found rfl⟩

/-- A refresh token is exchanged at most once where lookups are single-flight: no two
requests with its identifier get past their lookups, and the one that does mints one
pair. -/
theorem singleUse_of_singleFlight (start : AuthWorld) (distinct : start.DistinctTokens) :
    SingleUse (fun label pool => Unforged label pool ∧ SingleFlight label pool) start where
  responses := by
    intro pool reached index other thread request token presented device header jti answer differ
      present requested operated operation identified same returned second again
    refine oneAdmitted (.initial distinct) reached index other thread request token presented
      device header jti differ present requested operated operation identified same ?_ ?_
    · rw [returned]
      trivial
    · rw [again]
      trivial
  pairs := by
    intro before finish index other thread request token presented device header jti reached
      present operated identified mints permitted continued requested operation same again
    obtain ⟨sound, _⟩ :=
      (SessionSound.initial distinct).reaches (reached.mono fun _ _ allowed => allowed.1)
    obtain ⟨minter, found, kept, ⟨answer, ended⟩ | crashed⟩ :=
      answered_of_minted sound present operated mints continued
    · obtain ⟨_, _, _, _, pending⟩ := again
      obtain ⟨next, running⟩ := Thread.running_of_pending pending
      refine absurd ?_ (oneAdmitted (.initial distinct)
        ((reached.step (.step index) permitted).trans continued) index other minter request token
        presented device header jti ?_ found requested (kept.trans operated) operation identified
        same ?_)
      · rw [running]
        trivial
      · rintro rfl
        cases found.symm.trans requested
        rcases ended with ended | ended <;> cases ended.symm.trans running
      · rcases ended with ended | ended <;> rw [ended] <;> trivial
    · exact ⟨minter, found, crashed⟩

end Law

/-! ## Two overlapping requests -/

section Overlap

local instance overlappingGateway : Gateway := plainGateway

/-- A refresh runs to its end, and a second one with the same token up to its verdict. -/
def repeatedRefresh : List AuthLabel :=
  [.environment (.users oneAccount),
    .environment (.signIn (ObjectIds.toHexString 0) .autoreg "device" 0),
    .spawn (.refresh (some firstPair.refreshToken) (some "device"))] ++
    List.replicate 7 (.step 0) ++
    [.spawn (.refresh (some firstPair.refreshToken) (some "device"))] ++
    List.replicate 3 (.step 1)

/-- The first lookup has no other request beside it, and the second does not find its
token free. -/
theorem repeatedRefresh_singleFlight :
    gateway.Admits (fun label pool => Unforged label pool ∧ SingleFlight label pool)
      repeatedRefresh ⟨{}, []⟩ := by
  have unforged : gateway.Admits Unforged repeatedRefresh ⟨{}, []⟩ := by decide
  have twice : ∀ position < 14, (gateway.performed ⟨{}, []⟩ repeatedRefresh position).all
      fun done => match done.2.2 with
        | .redisGet _ => decide (position = 4 ∨ position = 12)
        | _ => true := by decide
  refine System.admits_of_forall fun position label here => ⟨unforged.allowed here, ?_⟩
  rintro index other thread request token presented device header key rfl differ present beside
    operated _ _ pending free
  have performs : gateway.PerformsAt ⟨{}, []⟩ repeatedRefresh position index thread
      (.redisGet key) := ⟨here, present, pending⟩
  have looked := twice position performs.lt_length
  rw [performs.performed] at looked
  rcases of_decide_eq_true looked with rfl | rfl
  · have alone : (gateway.before ⟨{}, []⟩ repeatedRefresh 4).threads.length = 1 := by decide
    have first := (List.getElem?_eq_some_iff.mp present).1
    have second := (List.getElem?_eq_some_iff.mp beside).1
    omega
  · have here : gateway.performed ⟨{}, []⟩ repeatedRefresh 12 = some (1,
        (gateway.before ⟨{}, []⟩ repeatedRefresh 12).threads[1], _) := rfl
    cases here.symm.trans performs.performed
    cases operated
    exact absurd ⟨_, rfl, rfl⟩ (free.2 _ rfl)

/-- The premises are met by two requests with one token, one after the other: the first is
answered with a pair, and the second gets none. -/
theorem singleUse_from_empty :
    ∃ thread request answer,
      (gateway.schedule ⟨{}, []⟩ repeatedRefresh).threads[0]? = some thread ∧
      (gateway.schedule ⟨{}, []⟩ repeatedRefresh).threads[1]? = some request ∧
      thread.status = .returned answer ∧ request.operation = thread.operation ∧
      ∀ second, request.status ≠ .returned second := by
  refine ⟨_, _, _, rfl, rfl, rfl, rfl, ?_⟩
  exact (singleUse_of_singleFlight {} distinctTokens_empty).responses _
    (.of_admits repeatedRefresh_singleFlight) 0 1 _ _ _ _ _ _ _ _ (by decide) rfl rfl rfl rfl rfl
    rfl rfl

/-- Two requests with one token look it up before either writes. -/
def overlappingRefreshes : List AuthLabel :=
  [.environment (.users oneAccount),
    .environment (.signIn (ObjectIds.toHexString 0) .autoreg "device" 0),
    .spawn (.refresh (some firstPair.refreshToken) (some "device")),
    .spawn (.refresh (some firstPair.refreshToken) (some "device")),
    .step 0, .step 0, .step 1, .step 1] ++
    List.replicate 5 (.step 0) ++ List.replicate 5 (.step 1)

/-- Two requests with one token look it up before either has blacklisted it. Both pass, and
both are given a pair. -/
theorem not_singleUse_of_overlap : ¬SingleUse Unforged {} := by
  intro singleUse
  have unforged : gateway.Admits Unforged overlappingRefreshes ⟨{}, []⟩ := by decide
  have both : (∃ answer, (gateway.schedule ⟨{}, []⟩ overlappingRefreshes).threads[0]? =
      some ⟨.refresh (some firstPair.refreshToken) (some "device"), .returned answer⟩) ∧
      ∃ answer, (gateway.schedule ⟨{}, []⟩ overlappingRefreshes).threads[1]? =
        some ⟨.refresh (some firstPair.refreshToken) (some "device"), .returned answer⟩ :=
    ⟨⟨_, by rfl⟩, _, by rfl⟩
  obtain ⟨⟨first, one⟩, second, two⟩ := both
  exact singleUse.responses _ (.of_admits unforged) 0 1 _ _ _ _ _ _ _ _ (by decide)
    one two rfl rfl rfl rfl rfl second rfl

end Overlap

end NestMonorepo
