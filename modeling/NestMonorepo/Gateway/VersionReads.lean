import NestMonorepo.Gateway.AccountTypes
import NestMonorepo.Gateway.SpentTokens

/-! # The read behind a refresh

A refresh that issues a pair has a moment in its run at which the request it sent to the
user service read the user. That moment lies after the one at which the presented token
was issued, so the account vouches for the token there.
-/

namespace NestMonorepo

open Collections Concurrency Handler PortalHandler UsersService

/-- A request as the user service serves it. -/
abbrev ServedRequest : Type := Thread UserOperation Command Reply ServiceError Answer

section Moments

variable [Gateway] (config : OAuthConfig)

/-- A run in which no forged token is presented for new ones. -/
abbrev PortalRun (before after : PortalPool) : Prop :=
  (deployment config).Reaches PresentsGenuine before after

omit [Gateway] in
/-- A handler is about to perform the command. -/
def PerformsAt (pool : PortalPool) (index : Nat) (command : PortalCommand) : Prop :=
  ∃ thread, pool.threads[index]? = some thread ∧ thread.pending = some command

/-- A request for the token version of a user is about to read it. -/
def ReadsUser (pool : PortalPool) (ticket : Nat) (userId : String) : Prop :=
  ∃ request id, pool.shared.requests[ticket]? = some request ∧
    request.operation = .getUserTokenVersion userId ∧ Libraries.ofHexString userId = some id ∧
      request.pending = some (.findUser (.byId id))

/-- The scheduling decision that lets a request take a step. -/
abbrev serves (ticket : Nat) : PortalLabel := .environment (.service (.step ticket))

/-- From when it was sent, a request came to its answer by reading the user. -/
def AnsweredBy (sent : PortalPool) (ticket : Nat) (userId : String) (pool reading : PortalPool)
    (user : User) : Prop :=
  PortalRun config sent reading ∧ ReadsUser reading ticket userId ∧
    user ∈ reading.shared.backend.users ∧ Libraries.ofHexString userId = some user.id ∧
      user.Live ∧ PortalRun config ((deployment config).next (serves ticket) reading) pool

/-- How far a request for a token version is served. -/
inductive Serving (sent : PortalPool) (ticket : Nat) (userId : String) (pool : PortalPool)
    (request : ServedRequest) : Prop
  | unread : request.status = .running (UsersController.handle (.getUserTokenVersion userId)) →
      Serving sent ticket userId pool request
  | settled : (∀ command next, request.status ≠ .running (.call command next)) →
      (∀ answer, request.status = .running (.ret answer) ∨ request.status = .returned answer →
        ∃ reading user, AnsweredBy config sent ticket userId pool reading user ∧
          answer = .tokenVersion user.tokenVersion) → Serving sent ticket userId pool request

variable {config} {sent pool : PortalPool} {ticket : Nat} {userId : String}
  {request : ServedRequest}

/-- A request that was answered from a state stays so while the deployment goes on. -/
theorem AnsweredBy.next {reading : PortalPool} {user : User}
    (answered : AnsweredBy config sent ticket userId pool reading user) {label : PortalLabel}
    (allowed : PresentsGenuine label pool) :
    AnsweredBy config sent ticket userId ((deployment config).next label pool) reading user := by
  obtain ⟨before, reads, member, parsed, live, after⟩ := answered
  exact ⟨before, reads, member, parsed, live, after.step label allowed⟩

/-- What happens elsewhere. -/
theorem Serving.elsewhere (serving : Serving config sent ticket userId pool request)
    {label : PortalLabel} (allowed : PresentsGenuine label pool) :
    Serving config sent ticket userId ((deployment config).next label pool) request := by
  cases serving with
  | unread waiting => exact .unread waiting
  | settled idle answers =>
      refine .settled idle fun answer status => ?_
      obtain ⟨reading, user, answered, same⟩ := answers answer status
      exact ⟨reading, user, answered.next allowed, same⟩

/-- A request that failed neither runs on nor has an answer. -/
theorem Serving.of_failed (failed : (∃ error, request.status = .running (.fail error)) ∨
    (∃ error, request.status = .thrown error) ∨ request.status = .crashed) :
    Serving config sent ticket userId pool request := by
  refine .settled (fun command next running => ?_) fun answer status => ?_
  · rcases failed with ⟨error, same⟩ | ⟨error, same⟩ | same <;> cases same.symm.trans running
  · rcases status with running | returned
    · rcases failed with ⟨error, same⟩ | ⟨error, same⟩ | same <;> cases same.symm.trans running
    · rcases failed with ⟨error, same⟩ | ⟨error, same⟩ | same <;> cases same.symm.trans returned

/-- One step of a request in the user service: it reads the user, or delivers its outcome.
The cases are how far it has been served. -/
theorem Serving.step (serving : Serving config sent ticket userId pool request)
    (present : pool.shared.requests[ticket]? = some request)
    (operation : request.operation = .getUserTokenVersion userId)
    (run : PortalRun config sent pool) :
    Serving config sent ticket userId ((deployment config).next (serves ticket) pool)
      { request with status := (userService.advance request.status pool.shared.backend).2 } := by
  have onwards : PortalRun config ((deployment config).next (serves ticket) pool)
      ((deployment config).next (serves ticket) pool) := .refl
  cases serving with
  | unread waiting =>
      have code : UsersController.handle (.getUserTokenVersion userId) =
          findById userId >>= fun user => .ret (.tokenVersion user.tokenVersion) := by
        change (findById userId >>= fun user => pure user.tokenVersion) >>= _ = _
        rw [Program.bind_assoc]
        rfl
      rw [code, findById] at waiting
      cases parsed : Libraries.ofHexString userId with
      | none =>
          rw [parsed] at waiting
          rw [waiting]
          exact .of_failed (.inr (.inl ⟨_, rfl⟩))
      | some id =>
          rw [parsed] at waiting
          have reads : ReadsUser pool ticket userId := by
            refine ⟨request, id, present, operation, parsed, ?_⟩
            rw [Thread.pending, waiting]
            rfl
          rw [waiting]
          change Serving config sent ticket userId _ ⟨request.operation,
            .running ((ofReply (pool.shared.backend.answer (pool.shared.backend.users.find?
              (UserFilter.byId id).accepts)) >>= _) >>= _)⟩
          unfold Backend.answer
          split
          swap
          · exact .of_failed (.inl ⟨_, rfl⟩)
          cases found : pool.shared.backend.users.find? (UserFilter.byId id).accepts with
          | none => exact .of_failed (.inl ⟨_, rfl⟩)
          | some user =>
              simp only [ofReply_ok, Program.ret_bind]
              cases deleted : user.deletedAt with
              | some deletedAt => exact .of_failed (.inl ⟨_, rfl⟩)
              | none =>
                  have accepted : (UserFilter.byId id).accepts user = true := List.find?_some found
                  have same : user.id = id := of_decide_eq_true accepted
                  refine .settled (fun _ _ running => by cases running) fun answer status =>
                    ⟨pool, user, ?_, ?_⟩
                  · exact ⟨run, reads, List.mem_of_find?_eq_some found,
                      parsed.trans (congrArg some same.symm), deleted, onwards⟩
                  · rcases status with running | returned
                    · injection running with same
                      injection same with same
                      exact same.symm
                    · cases returned
  | settled idle answers =>
      have later : ∀ answer, request.status = .running (.ret answer) ∨
          request.status = .returned answer → ∃ reading user, AnsweredBy config sent ticket userId
            ((deployment config).next (serves ticket) pool) reading user ∧
              answer = .tokenVersion user.tokenVersion := by
        intro answer status
        obtain ⟨reading, user, answered, same⟩ := answers answer status
        exact ⟨reading, user, answered.next trivial, same⟩
      cases status : request.status with
      | running program =>
          cases program with
          | call command next => exact (idle command next status).elim
          | fail error => exact .of_failed (.inr (.inl ⟨_, rfl⟩))
          | ret value =>
              refine .settled (fun _ _ running => by cases running) fun answer ends => ?_
              rcases ends with running | returned
              · cases running
              · cases returned
                exact later _ (.inl status)
      | returned value =>
          refine .settled (fun _ _ running => by cases running) fun answer ends => ?_
          rcases ends with running | returned
          · cases running
          · cases returned
            exact later _ (.inr status)
      | thrown error => exact .of_failed (.inr (.inl ⟨_, rfl⟩))
      | crashed => exact .of_failed (.inr (.inr rfl))

/-- A crash of the service leaves a request within the phases of its serving: where it was
under way it has failed. -/
theorem Serving.crash (serving : Serving config sent ticket userId pool request) :
    Serving config sent ticket userId pool
      { request with status := System.crash request.status } := by
  obtain ⟨operation, status⟩ := request
  cases status with
  | running program => exact .of_failed (.inr (.inr rfl))
  | _ => exact serving

/-- A decision for the gateway reaches the user service as one of its own at most: a step of
it, or a request that is sent to it. -/
theorem service_next (config : OAuthConfig) (label : PortalLabel) (pool : PortalPool) :
    ((deployment config).next label pool).shared.service = pool.shared.service ∨
      ∃ served, ((deployment config).next label pool).shared.service =
          userService.next served pool.shared.service ∧
        (label = .environment (.service served) ∨ ∃ asked, served = .spawn asked) := by
  cases label with
  | spawn operation => exact .inl rfl
  | environment event =>
      cases event with
      | service served => exact .inr ⟨served, rfl, .inl rfl⟩
      | _ => exact .inl rfl
  | crash index =>
      left
      rw [System.next]
      split <;> rfl
  | step index =>
      cases found : pool.threads[index]? with
      | none =>
          rw [System.next_step_of_none found]
          exact .inl rfl
      | some thread =>
          rcases (deployment config).next_step_cases found with
            ⟨_, status, same⟩ | ⟨command, next, _, same⟩
          · rw [same]
            exact .inl rfl
          · rw [same]
            change (Portal.exec command pool.shared).1.service = _ ∨ ∃ served,
              (Portal.exec command pool.shared).1.service = _ ∧ _
            cases command with
            | redisSet key value seconds =>
                left
                simp only [Portal.exec, Portal.session, AuthWorld.exec]
                split <;> rfl
            | send asked =>
                simp only [Portal.exec]
                split
                · exact .inl rfl
                · exact .inr ⟨.spawn asked, rfl, .inr ⟨asked, rfl⟩⟩
            | _ => exact .inl rfl

/-- A request is served on, whatever is decided: by its own steps, while others step and
while the gateway does. -/
theorem Serving.next (serving : Serving config sent ticket userId pool request)
    (present : pool.shared.requests[ticket]? = some request)
    (operation : request.operation = .getUserTokenVersion userId)
    (run : PortalRun config sent pool) {label : PortalLabel}
    (allowed : PresentsGenuine label pool) :
    ∃ served, ((deployment config).next label pool).shared.requests[ticket]? = some served ∧
      served.operation = .getUserTokenVersion userId ∧
        Serving config sent ticket userId ((deployment config).next label pool) served := by
  have stays : ((deployment config).next label pool).shared.requests[ticket]? = some request →
      ∃ served, ((deployment config).next label pool).shared.requests[ticket]? = some served ∧
        served.operation = .getUserTokenVersion userId ∧
          Serving config sent ticket userId ((deployment config).next label pool) served :=
    fun still => ⟨request, still, operation, serving.elsewhere allowed⟩
  rcases service_next config label pool with same | ⟨decided, same, origin⟩
  · apply stays
    rw [show ((deployment config).next label pool).shared.requests = pool.shared.requests from
      congrArg Pool.threads same]
    exact present
  · have requests : ((deployment config).next label pool).shared.requests =
        (userService.next decided pool.shared.service).threads := congrArg Pool.threads same
    obtain ⟨served, there, _⟩ : ∃ later,
        (userService.next decided pool.shared.service).threads[ticket]? = some later ∧
          later.operation = request.operation := userService.next_of_get decided present
    rcases System.get_next there with ⟨old, _⟩ | ⟨asked, _, last, _⟩ |
      ⟨old, found, ⟨rfl, rfl⟩ | ⟨rfl, rfl⟩⟩
    · cases old.symm.trans present
      apply stays
      rw [requests]
      exact there
    · have bound := (List.getElem?_eq_some_iff.mp present).1
      rw [last] at bound
      exact (Nat.lt_irrefl _ bound).elim
    · cases found.symm.trans present
      rw [requests]
      refine ⟨_, there, operation, ?_⟩
      rcases origin with rfl | ⟨asked, other⟩
      · exact serving.step present operation run
      · cases other
    · cases found.symm.trans present
      rw [requests]
      exact ⟨_, there, operation, serving.crash.elsewhere allowed⟩

end Moments

/-! ## The phases of a refresh -/

section Phases

variable [Gateway] (config : OAuthConfig)

/-- In the run up to `issuing`, a handler sent its request for the token version, the
request read the user, and the handler received the answer. -/
def VersionRead (start issuing : PortalPool) (index : Nat) (userId : String)
    (reading : PortalPool) (user : User) : Prop :=
  ∃ sending receiving, PortalRun config start sending ∧
    PerformsAt sending index (.send (.getUserTokenVersion userId)) ∧
    AnsweredBy config ((deployment config).next (.step index) sending)
      sending.shared.requests.length userId receiving reading user ∧
    PerformsAt receiving index (.receive sending.shared.requests.length) ∧
    PortalRun config ((deployment config).next (.step index) receiving) issuing

/-- The claims are those of the account when its token version was read. -/
def ClaimsRead (start issuing : PortalPool) (index : Nat) (userId : String)
    (type : Option AccountType) (tokenVersion : Nat) : Prop :=
  ∃ reading user, VersionRead config start issuing index userId reading user ∧
    user.tokenVersion = tokenVersion ∧ type = some user.accountType

/-- How far a refresh of the token has come. -/
inductive RefreshPhase (start : PortalPool) (operation : PortalOperation) (pool : PortalPool)
    (index : Nat) : Status PortalCommand PortalReply GatewayError PortalAnswer → Prop
  | asking {program} : Asks operation.grants program → operation.Genuine pool.shared →
      RefreshPhase start operation pool index (.running program)
  | waiting {sending asked next} : PortalRun config start sending →
      PerformsAt sending index (.send asked) → operation.Genuine sending.shared →
      PortalRun config ((deployment config).next (.step index) sending) pool →
      (∀ userId, asked = .getUserTokenVersion userId →
        ∃ request, pool.shared.requests[sending.shared.requests.length]? = some request ∧
          request.operation = .getUserTokenVersion userId ∧
            Serving config ((deployment config).next (.step index) sending)
              sending.shared.requests.length userId pool request) →
      (∀ reply, IssuesOnly (fun userId type tokenVersion => ∃ answer, reply = .ok answer ∧
        operation.grants asked answer userId type tokenVersion) (next reply)) →
      RefreshPhase start operation pool index
        (.running (.call (.receive sending.shared.requests.length) next))
  | issuing {program grant} : IssuesOnly grant program →
      (∀ userId type tokenVersion, grant userId type tokenVersion →
        ClaimsRead config start pool index userId type tokenVersion) →
      RefreshPhase start operation pool index (.running program)
  | ended {status} : (∀ program, status ≠ .running program) →
      RefreshPhase start operation pool index status

variable {config} {start pool : PortalPool} {operation : PortalOperation} {index : Nat}
  {status : Status PortalCommand PortalReply GatewayError PortalAnswer}

/-- Claims that were read from a state stay read from it. -/
theorem ClaimsRead.next {userId : String} {type : Option AccountType} {tokenVersion : Nat}
    (read : ClaimsRead config start pool index userId type tokenVersion) {label : PortalLabel}
    (allowed : PresentsGenuine label pool) :
    ClaimsRead config start ((deployment config).next label pool) index userId type
      tokenVersion := by
  obtain ⟨reading, user, ⟨sending, receiving, before, sends, answered, receives, after⟩, rest⟩ :=
    read
  exact ⟨reading, user, ⟨sending, receiving, before, sends, answered, receives,
    after.step label allowed⟩, rest⟩

/-- What happens elsewhere. -/
theorem RefreshPhase.elsewhere (phase : RefreshPhase config start operation pool index status)
    (sound : PortalSound config pool) {label : PortalLabel} (allowed : PresentsGenuine label pool) :
    RefreshPhase config start operation ((deployment config).next label pool) index status := by
  have moved := (sound.reaches (.step label .refl allowed)).2
  cases phase with
  | asking asks genuine => exact .asking asks (genuine.of_rely moved)
  | waiting before sends genuine run served issues =>
      refine .waiting before sends genuine (run.step label allowed) (fun userId asked => ?_) issues
      obtain ⟨request, present, same, serving⟩ := served userId asked
      exact serving.next present same run allowed
  | issuing issues reads =>
      exact .issuing issues fun userId type tokenVersion granted =>
        (reads userId type tokenVersion granted).next allowed
  | ended idle => exact .ended idle

/-- The answer to a refresh's request grants the claims of the account that was read, in the
state in which it was. -/
theorem claimsRead_of_response {bearer : Option Jwt} {deviceId : Option String}
    {sending : PortalPool} {asked : UserOperation} (sound : PortalSound config start)
    (before : PortalRun config start sending) (sends : PerformsAt sending index (.send asked))
    (genuine : (PortalOperation.session (.refresh bearer deviceId)).Genuine sending.shared)
    (served : ∀ userId, asked = .getUserTokenVersion userId →
      ∃ request, pool.shared.requests[sending.shared.requests.length]? = some request ∧
        request.operation = .getUserTokenVersion userId ∧
          Serving config ((deployment config).next (.step index) sending)
            sending.shared.requests.length userId pool request)
    (receives : PerformsAt pool index (.receive sending.shared.requests.length)) {answer : Answer}
    (response : pool.shared.response sending.shared.requests.length = .ok answer)
    {userId : String} {type : Option AccountType} {tokenVersion : Nat}
    (granted : (PortalOperation.session (.refresh bearer deviceId)).grants asked answer userId type
      tokenVersion) :
    ClaimsRead config start ((deployment config).next (.step index) pool) index userId type
      tokenVersion := by
  cases bearer with
  | none => exact granted.elim
  | some token =>
      obtain ⟨rfl, rfl, sealed, identified, subject, rfl, version⟩ := granted
      obtain ⟨request, present, _, serving⟩ := served userId rfl
      obtain ⟨same, there, returned⟩ := returned_of_response response
      cases there.symm.trans present
      cases serving with
      | unread waiting =>
          rw [returned] at waiting
          cases waiting
      | settled _ answers =>
          obtain ⟨reading, user, answered, same⟩ := answers _ (.inr returned)
          injection same with same
          refine ⟨reading, user, ⟨sending, pool, before, sends, answered, receives, .refl⟩,
            same.symm, ?_⟩
          obtain ⟨run, _, member, parsed, live, _⟩ := answered
          -- the token was issued before the user was read, so the account vouches for it there
          have soundSending := (sound.reaches before).1
          have sent : PortalRun config sending ((deployment config).next (.step index) sending) :=
            .step (.step index) .refl trivial
          obtain ⟨soundReading, moved⟩ := soundSending.reaches (sent.trans run)
          have issued := moved.2.1 (genuine token rfl sealed)
          obtain ⟨named, kind, claimed, same', typed, versioned, holder, stored, parsed',
            vouches⟩ := soundReading.keeps.2 token issued identified
          cases same'.symm.trans subject
          have equal : holder = user := soundReading.keeps.1.keeps.1.unique stored member
            (Option.some.inj (parsed'.symm.trans parsed))
          rw [versioned, Option.getD_some] at version
          rw [equal, version, same] at vouches
          rw [typed, vouches.accountType live]

/-- A step of the refresh itself leads from one phase to the next: it asks, waits for the
answer, and issues with the claims of it. -/
theorem RefreshPhase.step {bearer : Option Jwt} {deviceId : Option String} {thread : PortalThread}
    (phase : RefreshPhase config start (.session (.refresh bearer deviceId)) pool index
      thread.status) (sound : PortalSound config start) (run : PortalRun config start pool)
    (present : pool.threads[index]? = some thread) :
    RefreshPhase config start (.session (.refresh bearer deviceId))
      ((deployment config).next (.step index) pool) index
        ((deployment config).advance thread.status pool.shared).2 := by
  have moved := ((sound.reaches run).1.reaches (.step (.step index) .refl trivial)).2
  generalize stands : thread.status = status at phase
  cases phase with
  | ended idle =>
      refine .ended fun program running => ?_
      cases status with
      | running program => exact idle program rfl
      | _ => cases running
  | @issuing program grant issues reads =>
      cases program with
      | ret value => exact .ended fun _ => nofun
      | fail error => exact .ended fun _ => nofun
      | call command next =>
          exact .issuing (issues.2 _) fun userId type tokenVersion granted =>
            (reads userId type tokenVersion granted).next trivial
  | @waiting sending asked next before sends genuine _ served issues =>
      refine .issuing (issues _) fun userId type tokenVersion granted => ?_
      obtain ⟨answer, response, granted⟩ := granted
      have receives : PerformsAt pool index (.receive sending.shared.requests.length) :=
        ⟨thread, present, by rw [Thread.pending, stands]; rfl⟩
      exact claimsRead_of_response sound before sends genuine served receives response granted
  | @asking program asks genuine =>
      cases asks with
      | ret value => exact .ended fun _ => nofun
      | fail error => exact .ended fun _ => nofun
      | @verify token secret next rest =>
          refine .asking (rest _ fun payload verified => ?_) (genuine.of_rely moved)
          exact ⟨verify_payload verified, verify_secret verified⟩
      | calm calm rest => exact .asking (rest _) (genuine.of_rely moved)
      | @send asked next answered refused =>
          have shared : ((deployment config).next (.step index) pool).shared =
              (Portal.exec (.send asked) pool.shared).1 := by
            rw [System.next_step_of_get present, stands]
            rfl
          change RefreshPhase config start _ _ index
            (.running (next (Portal.exec (.send asked) pool.shared).2))
          have sent : (∃ exception, (Portal.exec (.send asked) pool.shared).2 = .error exception) ∨
              Portal.exec (.send asked) pool.shared =
                (pool.shared.serve (.spawn asked), .ok pool.shared.requests.length) := by
            simp only [Portal.exec]
            split
            · exact .inl ⟨_, rfl⟩
            · exact .inr rfl
          rcases sent with ⟨exception, lost⟩ | delivered
          · rw [lost]
            exact .issuing (refused exception) fun _ _ _ => False.elim
          · rw [delivered] at shared ⊢
            obtain ⟨rest, receives, issues⟩ := answered pool.shared.requests.length
            rw [receives]
            have sends : PerformsAt pool index (.send asked) :=
              ⟨thread, present, by rw [Thread.pending, stands]; rfl⟩
            refine .waiting run sends genuine .refl (fun userId same => ?_) issues
            rw [shared]
            refine ⟨⟨asked, .running (UsersController.handle asked)⟩,
              List.getElem?_concat_length, same, .unread ?_⟩
            rw [same]

/-- Every refresh goes through the phases, in every run that starts fresh. The induction is
on the run. -/
theorem refreshPhase_of_reaches {start : Portal} (fresh : start.Fresh) {finish : PortalPool}
    (reached : PortalRun config ⟨start, []⟩ finish) (bearer : Option Jwt)
    (deviceId : Option String) (thread : PortalThread)
    (present : finish.threads[index]? = some thread)
    (refresh : thread.operation = .session (.refresh bearer deviceId)) :
    RefreshPhase config ⟨start, []⟩ (.session (.refresh bearer deviceId)) finish index
      thread.status := by
  revert refresh
  refine reached.thread_history (fun pool index thread =>
    thread.operation = .session (.refresh bearer deviceId) →
      RefreshPhase config ⟨start, []⟩ (.session (.refresh bearer deviceId)) pool index
        thread.status) ?_ ?_ ?_ ?_ ?_ index thread present
  · exact fun index thread none => nomatch none
  · intro operation pool _ genuine refresh
    cases refresh
    exact .asking (respond_asks config _) genuine
  · intro index thread pool before _ present phase refresh
    exact (phase refresh).step fresh.sound before present
  · intro index thread pool _ _
    exact .ended (System.crash_ne_running thread.status)
  · intro label index thread pool before allowed _ phase refresh
    exact (phase refresh).elsewhere (fresh.sound.reaches before).1 allowed

/-- In every run in which no forged token is presented for new ones, a refresh that issues a
pair has had its user's token version read in a state where the user was live, at that
version, and of the type of both tokens. -/
theorem refresh_current {start : Portal} (fresh : start.Fresh) {issuing : PortalPool}
    (reached : PortalRun config ⟨start, []⟩ issuing) {thread : PortalThread}
    (present : issuing.threads[index]? = some thread) {bearer : Option Jwt}
    {deviceId : Option String} (refresh : thread.operation = .session (.refresh bearer deviceId))
    {userId device : String} {type : Option AccountType} {tokenVersion : Nat}
    (issues : thread.pending = some (.issueTokenPair userId type device tokenVersion)) :
    ∃ reading user, ∃ pair : TokenPairDto,
      VersionRead config ⟨start, []⟩ issuing index userId reading user ∧
        user.tokenVersion = tokenVersion ∧
          ((deployment config).next (.step index) issuing).shared.issued =
            issuing.shared.issued ++ [pair.accessToken, pair.refreshToken] ∧
          pair.accessToken.payload.type = some user.accountType ∧
            pair.refreshToken.payload.type = some user.accountType := by
  obtain ⟨next, running⟩ := Thread.running_of_pending issues
  have read : ClaimsRead config ⟨start, []⟩ issuing index userId type tokenVersion := by
    have phase := refreshPhase_of_reaches fresh reached bearer deviceId thread present refresh
    rw [running] at phase
    cases phase with
    | asking asks _ =>
        cases asks with
        | calm calm _ => exact calm.elim
    | issuing issues reads => exact reads userId type tokenVersion issues.1
    | ended idle => exact (idle _ rfl).elim
  obtain ⟨reading, user, read, current, rfl⟩ := read
  refine ⟨reading, user, (issuing.shared.session
    (.issueTokenPair userId (some user.accountType) device tokenVersion)).2, read, current, ?_,
    rfl, rfl⟩
  rw [System.next_step_of_get present, running]
  rfl

end Phases

/-! ## One refresh -/

instance [Gateway] : ∀ label pool, Decidable (PresentsGenuine label pool)
  | .spawn operation, pool =>
      inferInstanceAs (Decidable (∀ token ∈ operation.bearer, pool.shared.Genuine token))
  | .step _, _ => inferInstanceAs (Decidable True)
  | .crash _, _ => inferInstanceAs (Decidable True)
  | .environment _, _ => inferInstanceAs (Decidable True)

section Runs

local instance refreshedGateway : Gateway := plainGateway

/-- Nobody is registered, and no provider can be reached. -/
def emptyPortal : Portal where
  replies
    | .vkPublicInfo _ _ _, _ => .networkError "offline"
    | .vkUserInfo _ _, _ => .networkError "offline"
    | .yandexInfo _ _, _ => .networkError "offline"

/-- The empty portal is fresh: nobody has been issued a token and no request is under way. -/
theorem fresh_emptyPortal : emptyPortal.Fresh where
  accounts := ⟨List.Pairwise.nil, fun _ none => nomatch none⟩
  issued := rfl
  requests := rfl

/-- A device registers, and refreshes the pair it is given up to the next pair. -/
def registeredRefresh : List PortalLabel :=
  .spawn (.autoreg { deviceFingerprint := "fingerprint" } (some "device") none) :: .step 0 ::
    List.replicate 10 (serves 0) ++ [.step 0, .step 0,
      .spawn (.session (.refresh (some firstPair.refreshToken) (some "device"))),
      .step 1, .step 1, .step 1, serves 1, serves 1, .step 1, .step 1, .step 1]

/-- The premises are met by a device that registers and refreshes its pair: the version read
is the registered user's, at zero. -/
theorem refresh_current_registered :
    ∃ reading user, ∃ pair : TokenPairDto,
      VersionRead {} ⟨emptyPortal, []⟩
          ((deployment {}).schedule ⟨emptyPortal, []⟩ registeredRefresh) 1
            (ObjectIds.toHexString 0) reading user ∧
        user.tokenVersion = 0 ∧
          ((deployment {}).next (.step 1)
              ((deployment {}).schedule ⟨emptyPortal, []⟩ registeredRefresh)).shared.issued =
            ((deployment {}).schedule ⟨emptyPortal, []⟩ registeredRefresh).shared.issued ++
              [pair.accessToken, pair.refreshToken] ∧
          pair.accessToken.payload.type = some user.accountType ∧
            pair.refreshToken.payload.type = some user.accountType := by
  have admitted : (deployment {}).Admits PresentsGenuine registeredRefresh ⟨emptyPortal, []⟩ := by
    decide
  have issues : ∃ next, ((deployment {}).schedule ⟨emptyPortal, []⟩ registeredRefresh).threads[1]? =
      some ⟨.session (.refresh (some firstPair.refreshToken) (some "device")),
        .running (.call (.issueTokenPair (ObjectIds.toHexString 0) (some .autoreg) "device" 0)
          next)⟩ := ⟨_, by rfl⟩
  obtain ⟨next, issues⟩ := issues
  exact refresh_current fresh_emptyPortal (.of_admits admitted) issues rfl rfl

end Runs

end NestMonorepo
