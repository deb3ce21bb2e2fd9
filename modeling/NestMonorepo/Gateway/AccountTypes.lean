import NestMonorepo.Gateway.Portal
import NestMonorepo.Gateway.Sessions
import NestMonorepo.Users.Anonymous

/-! # The account type in tokens

No refresh looks at the account type of its user; it copies the one of the token it is
presented. The copy is right because every token is vouched for by the account it names:
a full account stays full, and a live anonymous account has version zero.
-/

namespace NestMonorepo

open Collections Concurrency PortalHandler

/-! ## Accounts that vouch for tokens -/

/-- The account vouches for tokens of that type and version. -/
def User.Vouches (user : User) : AccountType → Nat → Prop
  | .user, _ => user.accountType = .user
  | .autoreg, tokenVersion => (user.accountType = .autoreg ∨ 0 < user.tokenVersion) ∧
      (tokenVersion = 0 ∨ ¬user.Live)

/-- An account vouches on for what it has vouched for. -/
theorem Succeeds.vouches {before after : User} {type : AccountType} {tokenVersion : Nat}
    (succeeds : Succeeds before after) (vouches : before.Vouches type tokenVersion) :
    after.Vouches type tokenVersion := by
  cases type with
  | user => exact succeeds.full vouches
  | autoreg =>
      constructor
      · rcases vouches.1 with anonymous | bumped
        · exact succeeds.upgraded anonymous
        · exact .inr (succeeds.bumped bumped)
      · exact vouches.2.imp id succeeds.deleted

/-- A live account at the version of a token it vouches for is of the token's type. -/
theorem User.Vouches.accountType {user : User} {type : AccountType}
    (vouches : user.Vouches type user.tokenVersion) (live : user.Live) :
    user.accountType = type := by
  cases type with
  | user => exact vouches
  | autoreg =>
      obtain ⟨anonymous | bumped, zero | deleted⟩ := vouches
      · exact anonymous
      · exact anonymous
      · omega
      · exact (deleted live).elim

section Service

variable [Libraries] {store later read : Backend} {operation : UserOperation} {userId : String}
  {type : AccountType} {tokenVersion : Nat}

/-- A stored account vouches for tokens of the subject. -/
def Vouched (store : Backend) (userId : String) (type : AccountType) (tokenVersion : Nat) : Prop :=
  ∃ user ∈ store.users, Libraries.ofHexString userId = some user.id ∧
    user.Vouches type tokenVersion

/-- A subject that is vouched for stays so: an account's successors vouch for what it
vouched for. -/
theorem Vouched.of_rely (vouched : Vouched store userId type tokenVersion)
    (moved : anonymity.rely store later) : Vouched later userId type tokenVersion := by
  obtain ⟨user, member, parsed, vouches⟩ := vouched
  obtain ⟨version, present, same, succeeds⟩ := moved user member
  exact ⟨version, present, parsed.trans (congrArg some same.symm), succeeds.vouches vouches⟩

omit [Libraries] in
/-- The type of the tokens that are issued on an operation's answer. -/
def UserOperation.signs : UserOperation → Option AccountType
  | .createAutoregUser _ => some .autoreg
  | .login _ _ | .upgradeAccount _ _ | .findOrCreateOAuthUser _ => some .user
  | _ => none

/-- Whoever is signed in is vouched for: the account was found with that type, and a full
account can be entered with something. -/
theorem Found.vouched (found : Found operation read userId tokenVersion)
    (kept : anonymity.keeps read) (signs : operation.signs = some type) :
    Vouched read userId type tokenVersion := by
  obtain ⟨user, member, parsed, rfl, entered⟩ := found
  refine ⟨user, member, parsed, ?_⟩
  -- who can be entered is no anonymous account
  have full : (user.email ≠ none ∨ user.oauthLinks ≠ []) → user.accountType = .user := by
    intro enterable
    cases kind : user.accountType with
    | user => rfl
    | autoreg =>
        have bare := kept.2 user member kind
        rcases enterable with addressed | linked
        · exact (addressed bare.email).elim
        · exact (linked bare.links).elim
  cases operation with
  | createAutoregUser payload =>
      cases signs
      have bare := kept.2 user member entered
      exact ⟨.inl entered, (Nat.eq_zero_or_pos _).imp id bare.retired⟩
  | login email password =>
      cases signs
      refine full (.inl ?_)
      rw [show user.email = some email from entered]
      exact nofun
  | upgradeAccount userId payload =>
      cases signs
      exact entered
  | findOrCreateOAuthUser payload =>
      cases signs
      rcases entered with already | enterable
      · exact already
      · exact full enterable
  | _ => cases signs

/-- The user service, where every answer names an account as it was found. -/
abbrev EntersSound (pool : ServicePool) : Prop :=
  userService.Sound anonymity (fun operation => Issues anonymity operation)
    (fun operation => OnReturn (Enters anonymity operation)) pool

/-- Every step of the user service keeps its handlers sound and its accounts in succession. -/
theorem EntersSound.next {pool : ServicePool} (sound : EntersSound pool) (label : ServiceLabel) :
    EntersSound (userService.next label pool) ∧
      anonymity.rely pool.shared (userService.next label pool).shared :=
  System.Sound.next anonymity_respects
    (fun operation _ _ _ => handle_enters anonymity_tame operation) sound trivial

/-- What a request was answered with is vouched for. -/
theorem EntersSound.vouched {pool : ServicePool} (sound : EntersSound pool)
    {request : Thread UserOperation Command Reply ServiceError Answer}
    (member : request ∈ pool.threads) {answer : Answer}
    (returned : request.status = .returned answer)
    (identity : issued request.operation answer = some (userId, tokenVersion))
    (signs : request.operation.signs = some type) :
    Vouched pool.shared userId type tokenVersion := by
  have valid := sound.threads request member
  rw [returned] at valid
  obtain ⟨read, moved, kept, found⟩ := valid pool.shared (anonymity.refl _) sound.keeps userId
    tokenVersion identity
  exact (found.vouched kept signs).of_rely moved

end Service

section Law

variable [Gateway] {portal later : Portal}

/-! ## What the gateway keeps -/

/-- The token's claims are vouched for. -/
def Jwt.Vouched (store : Backend) (token : Jwt) : Prop :=
  ∃ userId type tokenVersion, token.payload.sub = some userId ∧ token.payload.type = some type ∧
    token.payload.tv = some tokenVersion ∧ NestMonorepo.Vouched store userId type tokenVersion

/-- A token that is vouched for stays so. -/
theorem Jwt.Vouched.of_rely {token : Jwt} (vouched : token.Vouched portal.backend)
    (moved : anonymity.rely portal.backend later.backend) : token.Vouched later.backend := by
  obtain ⟨userId, type, tokenVersion, subject, typed, versioned, vouched⟩ := vouched
  exact ⟨userId, type, tokenVersion, subject, typed, versioned, vouched.of_rely moved⟩

/-- Tokens stay issued and requests stay where they are, and accounts succeed each other;
every refresh token issued is vouched for. -/
def portalContract : Contract PortalCommand Portal where
  rely portal later := anonymity.rely portal.backend later.backend ∧
    portal.issued ⊆ later.issued ∧
    ∀ ticket : Nat, ∀ request ∈ portal.requests[ticket]?,
      ∃ served ∈ later.requests[ticket]?, served.operation = request.operation
  refl portal := ⟨anonymity.refl _, List.Subset.refl _, fun _ request present =>
    ⟨request, present, rfl⟩⟩
  trans := by
    intro first second third left right
    refine ⟨anonymity.trans left.1 right.1, List.Subset.trans left.2.1 right.2.1, ?_⟩
    intro ticket request present
    obtain ⟨served, there, same⟩ := left.2.2 ticket request present
    obtain ⟨last, still, also⟩ := right.2.2 ticket served there
    exact ⟨last, still, also.trans same⟩
  keeps portal := EntersSound portal.service ∧
    ∀ token ∈ portal.issued, token.payload.jti ≠ none → token.Vouched portal.backend
  permitted _ _ := True

/-- What changes neither the user service nor the tokens. -/
theorem portalContract_of_frame (kept : portalContract.keeps portal)
    (service : later.service = portal.service) (issued : later.issued = portal.issued) :
    portalContract.keeps later ∧ portalContract.rely portal later := by
  have backend : later.backend = portal.backend := congrArg Pool.shared service
  have requests : later.requests = portal.requests := congrArg Pool.threads service
  refine ⟨⟨?_, ?_⟩, ?_, ?_, ?_⟩
  · rw [service]
    exact kept.1
  · rw [issued, backend]
    exact kept.2
  · rw [backend]
    exact anonymity.refl _
  · rw [issued]
    exact List.Subset.refl _
  · rw [requests]
    exact fun _ request present => ⟨request, present, rfl⟩

/-- A step of the user service. -/
theorem portalContract_serve (kept : portalContract.keeps portal) (label : ServiceLabel) :
    portalContract.keeps (portal.serve label) ∧
      portalContract.rely portal (portal.serve label) := by
  obtain ⟨sound, moved⟩ := kept.1.next label
  refine ⟨⟨sound, fun token member identified => ?_⟩, moved, List.Subset.refl _, ?_⟩
  · have later : token.Vouched (portal.serve label).backend :=
      (kept.2 token member identified).of_rely moved
    exact later
  · intro ticket request present
    exact userService.next_of_get label present

/-- A pair is issued for claims that are vouched for. -/
theorem portalContract_issue (kept : portalContract.keeps portal) {userId : String}
    {type : AccountType} {tokenVersion : Nat}
    (vouched : Vouched portal.backend userId type tokenVersion) (deviceId : String) :
    portalContract.keeps
        (portal.session (.issueTokenPair userId (some type) deviceId tokenVersion)).1 ∧
      portalContract.rely portal
        (portal.session (.issueTokenPair userId (some type) deviceId tokenVersion)).1 := by
  refine ⟨⟨kept.1, fun token member identified => ?_⟩, anonymity.refl _,
    List.subset_append_left _ _, fun _ request present => ⟨request, present, rfl⟩⟩
  rcases List.mem_append.mp member with old | new
  · exact kept.2 token old identified
  · rcases List.mem_pair.mp new with rfl | rfl
    · exact (identified rfl).elim
    · exact ⟨userId, type, tokenVersion, rfl, rfl, rfl, vouched⟩

/-! ## Asking before issuing -/

/-- What one answer of the user service allows to issue: the subject, the type and the
version. -/
abbrev Grant : Type := String → Option AccountType → Nat → Prop

omit [Gateway] in
/-- The command issues what is granted, and asks nothing. -/
def PortalCommand.Grants (grant : Grant) : PortalCommand → Prop
  | .issueTokenPair userId type _ tokenVersion => grant userId type tokenVersion
  | .send _ => False
  | _ => True

omit [Gateway] in
/-- The program issues nothing else, and asks nothing. -/
abbrev IssuesOnly {α : Type} (grant : Grant) (program : PortalHandler α) : Prop :=
  program.Only (PortalCommand.Grants grant)

omit [Gateway] in
/-- The command neither asks nor issues. -/
def PortalCommand.Calm : PortalCommand → Prop
  | .issueTokenPair _ _ _ _ | .send _ => False
  | _ => True

/-- The program asks the user service once and then issues what is granted for the answer. -/
inductive Asks {α : Type} (grants : UserOperation → Answer → Grant) : PortalHandler α → Prop
  | ret (value : α) : Asks grants (.ret value)
  | fail (error : GatewayError) : Asks grants (.fail error)
  | send {operation next} : (∀ ticket, ∃ rest, next (.ok ticket) = .call (.receive ticket) rest ∧
      ∀ reply, IssuesOnly (fun userId type tokenVersion => ∃ answer, reply = .ok answer ∧
        grants operation answer userId type tokenVersion) (rest reply)) →
      (∀ exception, IssuesOnly (fun _ _ _ => False) (next (.error exception))) →
      Asks grants (.call (.send operation) next)
  | verify {token secret next} : (∀ reply,
      (∀ payload ∈ reply, payload = token.payload ∧ token.secret = secret) →
        Asks grants (next reply)) → Asks grants (.call (.verify token secret) next)
  | calm {command next} : command.Calm → (∀ reply, Asks grants (next reply)) →
      Asks grants (.call command next)

section Asks

variable {α β : Type} {grants : UserOperation → Answer → Grant}

omit [Gateway] in
/-- Commands that neither ask nor issue may come first. -/
theorem Asks.bind {program : PortalHandler α} {next : α → PortalHandler β}
    (calm : program.Only PortalCommand.Calm) (rest : ∀ value, Asks grants (next value)) :
    Asks grants (program >>= next) := by
  induction program with
  | ret value => exact rest value
  | fail error => exact .fail error
  | call command reply ih => exact .calm calm.1 fun answer => ih answer (calm.2 answer)

omit [Gateway] in
/-- One question, and what is granted for its answer. -/
theorem asks_rpc {operation : UserOperation} {next : Except HttpException Answer → PortalHandler α}
    (answered : ∀ answer, IssuesOnly (grants operation answer) (next (.ok answer)))
    (refused : ∀ exception, IssuesOnly (fun _ _ _ => False) (next (.error exception))) :
    Asks grants (rpc operation >>= next) := by
  apply Asks.send
  · intro ticket
    refine ⟨_, rfl, fun reply => ?_⟩
    cases reply with
    | ok answer =>
        refine (answered answer).mono fun command issues => ?_
        cases command with
        | issueTokenPair userId type deviceId tokenVersion => exact ⟨answer, rfl, issues⟩
        | send operation => exact issues
        | _ => trivial
    | error exception =>
        refine (refused exception).mono fun command issues => ?_
        cases command with
        | issueTokenPair userId type deviceId tokenVersion => exact False.elim issues
        | send operation => exact issues
        | _ => trivial
  · exact refused

omit [Gateway] in
/-- To ask and then issue what the answer grants is to keep to the grants. -/
theorem asks_ask {operation : UserOperation} {next : Answer → PortalHandler α}
    (answered : ∀ answer, IssuesOnly (grants operation answer) (next answer)) :
    Asks grants (ask operation >>= next) := by
  rw [ask, Program.bind_assoc]
  exact asks_rpc answered fun exception => trivial

end Asks

/-! ## Every handler asks -/

namespace PortalOperation

/-- The refresh token a request presents for new tokens. -/
def bearer : PortalOperation → Option Jwt
  | .session (.refresh bearer _) => bearer
  | _ => none

/-- What a handler may issue on an answer: a refresh copies the claims of its token, a
sign-in has its own type. -/
def grants : PortalOperation → UserOperation → Answer → Grant
  | .session (.refresh (some token) _), operation, answer, userId, type, tokenVersion =>
      operation = .getUserTokenVersion userId ∧ answer = .tokenVersion tokenVersion ∧
        token.secret = Gateway.jwtRefreshSecret ∧ token.payload.jti ≠ none ∧
        token.payload.sub = some userId ∧ token.payload.type = type ∧
        token.payload.tv.getD 0 = tokenVersion
  | .session _, _, _, _, _, _ => False
  | _, operation, answer, userId, type, tokenVersion =>
      type = operation.signs ∧ operation.signs ≠ none ∧
        issued operation answer = some (userId, tokenVersion)

end PortalOperation

omit [Gateway] in
/-- A request to a provider. -/
def OAuthCommand.Fetches : OAuthCommand → Prop
  | .fetch _ => True
  | .user _ => False

section Verifiers

variable (config : OAuthConfig)

omit [Gateway] in
/-- Trying the client ids one after another performs fetches only. -/
theorem tryClientIds_only (idToken : String) (clientIds : List String) :
    (VkOAuthVerifierService.tryClientIds config idToken clientIds).Only OAuthCommand.Fetches := by
  induction clientIds with
  | nil => trivial
  | cons clientId rest ih =>
      apply Program.Only.bind
      · apply Program.Only.bind (Program.only_perform trivial)
        intro reply
        cases reply with
        | networkError message => trivial
        | response status body =>
            simp only
            split
            · trivial
            · split <;> trivial
      · intro found
        cases found with
        | rejected message => exact ih
        | _ => trivial

omit [Gateway] in
/-- Reading a VK profile performs fetches only. -/
theorem readUserInfo_only (body : Option VkUserInfo) :
    (VkOAuthVerifierService.readUserInfo body).Only OAuthCommand.Fetches := by
  unfold VkOAuthVerifierService.readUserInfo
  split
  · trivial
  · split
    · trivial
    · split <;> trivial

omit [Gateway] in
/-- The check of a VK access token performs fetches only. -/
theorem verifyAccessToken_only (accessToken : String) :
    (VkOAuthVerifierService.verifyAccessToken config accessToken).Only OAuthCommand.Fetches := by
  apply Program.Only.bind (Program.only_perform trivial)
  intro reply
  cases reply with
  | networkError message => trivial
  | response status body =>
      simp only
      split
      · apply Program.Only.bind (Program.only_perform trivial)
        intro again
        cases again with
        | networkError message => trivial
        | response status body =>
            simp only
            split
            · trivial
            · exact readUserInfo_only body
      · exact readUserInfo_only body

omit [Gateway] in
/-- Reading a Yandex profile performs fetches only. -/
theorem readInfo_only (status : Nat) (body : Option YandexInfo) :
    (YandexOAuthVerifierService.readInfo status body).Only OAuthCommand.Fetches := by
  unfold YandexOAuthVerifierService.readInfo
  split
  · trivial
  · split
    · trivial
    · split
      · trivial
      · split <;> trivial

omit [Gateway] in
/-- A verifier only makes requests to its provider, whatever the provider replies; it
reaches neither the store nor the user service. -/
theorem OAuthVerifier.verify_only (platform : Option Platform) (token : String)
    (verifier : OAuthVerifier) :
    (verifier.verify config platform token).Only OAuthCommand.Fetches := by
  cases verifier with
  | inherited name => trivial
  | vk =>
      change (VkOAuthVerifierService.verify config platform token).Only _
      unfold VkOAuthVerifierService.verify VkOAuthVerifierService.verifyIdToken
      split
      · trivial
      · split
        · simp only
          split
          · trivial
          · exact tryClientIds_only config token _
        · exact verifyAccessToken_only config token
  | yandex =>
      change (YandexOAuthVerifierService.verify config token).Only _
      unfold YandexOAuthVerifierService.verify
      split
      · trivial
      · apply Program.Only.bind (Program.only_perform trivial)
        intro reply
        cases reply with
        | networkError message => trivial
        | response status body =>
            simp only
            split
            · apply Program.Only.bind (Program.only_perform trivial)
              intro again
              cases again with
              | networkError message => trivial
              | response status body => exact readInfo_only status body
            · exact readInfo_only status body

omit [Gateway] in
/-- The verification of a provider token asks nothing of the user service and issues nothing. -/
theorem verifyOAuthToken_calm (platform : Option Platform) (provider token : String) :
    ((AuthService.verifyOAuthToken config platform provider token).expand consult).Only
      PortalCommand.Calm := by
  have only : (AuthService.verifyOAuthToken config platform provider token).Only
      OAuthCommand.Fetches := by
    unfold AuthService.verifyOAuthToken
    split
    · trivial
    · apply Program.Only.bind (Program.only_ofExcept _)
      exact fun verifier => .bind (verifier.verify_only config platform token) fun _ => trivial
  refine only.expand fun command fetches => ?_
  cases command with
  | fetch request => exact ⟨trivial, fun _ => trivial⟩
  | user operation => exact fetches.elim

end Verifiers

section Handlers

variable (config : OAuthConfig)

omit [Gateway] in
/-- A sign-in asks as soon as the device is named. -/
theorem onDevice_asks {grants : UserOperation → Answer → Grant} (deviceId : Option String)
    {signIn : String → PortalHandler AuthResponseDto}
    (asks : ∀ named, Asks grants (signIn named >>= fun response =>
      (.ret (.signedIn response) : PortalHandler PortalAnswer))) :
    Asks grants (AuthController.onDevice deviceId signIn) := by
  refine Asks.bind ?_ asks
  unfold AuthController.requireDeviceId
  dsimp only
  generalize trim (deviceId.getD "") = named
  split <;> trivial

omit [Gateway] in
/-- The end of a sign-in issues what the answer grants. -/
theorem respond_issues {grant : Grant} {userId : String} {type : AccountType} {tokenVersion : Nat}
    (granted : grant userId (some type) tokenVersion) (deviceId : String)
    (accountType : AccountType) :
    IssuesOnly grant (AuthService.respond userId type deviceId tokenVersion accountType >>=
      fun response => (.ret (.signedIn response) : PortalHandler PortalAnswer)) :=
  ⟨granted, fun _ => trivial⟩

/-- A registration issues a pair for the account that the user service answers, and for
nothing else. -/
theorem autoreg_asks (dto : AutoregDto) (deviceId clientIp : Option String) :
    Asks (PortalOperation.autoreg dto deviceId clientIp).grants
      (AuthController.respond config (.autoreg dto deviceId clientIp)) := by
  refine onDevice_asks deviceId fun named => ?_
  rw [AuthService.autoreg, Program.bind_assoc]
  refine asks_ask fun answer => ?_
  cases answer with
  | autoreg result => exact respond_issues ⟨rfl, nofun, rfl⟩ named _
  | _ => trivial

/-- So does a login. -/
theorem login_asks (dto : LoginDto) (deviceId : Option String) :
    Asks (PortalOperation.login dto deviceId).grants
      (AuthController.respond config (.login dto deviceId)) := by
  refine onDevice_asks deviceId fun named => ?_
  rw [AuthService.login, Program.bind_assoc]
  refine asks_ask fun answer => ?_
  cases answer with
  | identity user => exact respond_issues ⟨rfl, nofun, rfl⟩ named _
  | _ => trivial

/-- So does an upgrade: the pair is for the upgraded account and its new token version. -/
theorem upgrade_asks (userId : String) (dto : UpgradeAccountDto) (deviceId : Option String)
    (platform : Option Platform) :
    Asks (PortalOperation.upgrade userId dto deviceId platform).grants
      (AuthController.respond config (.upgrade userId dto deviceId platform)) := by
  refine onDevice_asks deviceId fun named => ?_
  rw [AuthService.upgrade, Program.bind_assoc]
  refine Asks.bind ?_ fun providerUserId => ?_
  · split
    · trivial
    · refine .bind (.bind (verifyOAuthToken_calm config platform _ _) fun _ => trivial) fun _ => ?_
      trivial
  · rw [Program.bind_assoc]
    refine asks_ask fun answer => ?_
    cases answer with
    | upgraded result => exact respond_issues ⟨rfl, nofun, rfl⟩ named _
    | _ => trivial

/-- So does a provider login, whose verification comes before the question. -/
theorem oauth_asks (provider : String) (dto : OAuthDto) (deviceId : Option String)
    (platform : Option Platform) :
    Asks (PortalOperation.oauth provider dto deviceId platform).grants
      (AuthController.respond config (.oauth provider dto deviceId platform)) := by
  refine onDevice_asks deviceId fun named => ?_
  rw [AuthService.oauthLoginResponse, Program.bind_assoc]
  refine Asks.bind (verifyOAuthToken_calm config platform _ _) fun verified => ?_
  rw [Program.bind_assoc]
  refine asks_ask fun answer => ?_
  cases answer with
  | identity user => exact respond_issues ⟨rfl, nofun, rfl⟩ named _
  | _ => trivial

omit [Gateway] in
/-- A session command other than a request and the issue of a pair. -/
def AuthCommand.Calm : AuthCommand → Prop
  | .user _ | .issueTokenPair _ _ _ _ => False
  | _ => True

omit [Gateway] in
/-- A session program without questions and pairs has none as a portal program either. -/
theorem session_calm {α : Type} {program : AuthHandler α} (calm : program.Only AuthCommand.Calm) :
    (program.expand session).Only PortalCommand.Calm := by
  refine calm.expand fun command calm => ?_
  cases command with
  | user operation => exact calm.elim
  | issueTokenPair userId type deviceId tokenVersion => exact calm.elim
  | _ => exact ⟨trivial, fun _ => trivial⟩

omit [Gateway] in
/-- Blacklisting a token asks nothing of the user service and issues nothing. -/
theorem blacklistRefreshToken_only (jti : String) (expiresAt : Seconds) :
    (TokenStoreService.blacklistRefreshToken jti expiresAt).Only AuthCommand.Calm := by
  apply Program.Only.bind (Program.only_perform trivial)
  intro now
  simp only
  split
  · apply Program.Only.bind (Program.only_perform trivial)
    intro reply
    cases reply <;> trivial
  · trivial

/-- A logout issues nothing. -/
theorem logout_only (refreshToken : Option Jwt) :
    (AuthController.handle (.logout refreshToken)).Only AuthCommand.Calm := by
  refine .bind (.bind (.attempt ?_) fun _ => trivial) fun _ => trivial
  unfold AuthService.revoke
  cases refreshToken with
  | none => trivial
  | some token =>
      apply Program.Only.bind (Program.only_perform trivial)
      intro payload
      cases payload with
      | none => trivial
      | some payload =>
          simp only
          split
          · exact blacklistRefreshToken_only _ _
          · trivial

omit [Gateway] in
/-- A command that neither asks nor issues keeps to every grant. -/
theorem PortalCommand.Calm.grants {command : PortalCommand} (calm : command.Calm) (grant : Grant) :
    command.Grants grant := by
  cases command with
  | send operation => exact calm.elim
  | issueTokenPair userId type deviceId tokenVersion => exact calm.elim
  | _ => trivial

omit [Gateway] in
/-- A request within a session command. -/
theorem expand_user_bind {α : Type} (operation : UserOperation)
    (next : Except HttpException Answer → PortalHandler α) :
    (Program.perform (.user operation) : AuthHandler _).expand session >>= next =
      rpc operation >>= next := by
  change (rpc operation >>= fun reply => .ret reply) >>= next = _
  rw [Program.bind_assoc]
  rfl

/-- From the guard on, a refresh asks for the token version of its own subject and issues
what the answer grants, and nothing else. -/
theorem admitted_asks {token : Jwt} {deviceId : Option String} (user : RefreshUser)
    (sealed : token.secret = Gateway.jwtRefreshSecret) (identified : token.payload.jti ≠ none)
    (subject : token.payload.sub = some user.userId) (type : token.payload.type = user.type)
    (version : token.payload.tv = user.tv) (headerDeviceId : Option String) :
    Asks (PortalOperation.session (.refresh (some token) deviceId)).grants
      ((AuthController.admitted user headerDeviceId).expand session >>= fun answer =>
        (.ret (.session answer) : PortalHandler PortalAnswer)) := by
  unfold AuthController.admitted AuthController.refresh
  cases presentJti : truthy user.jti with
  | none => exact .fail _
  | some jti =>
      cases presentExp : user.exp.filter (· ≠ 0) with
      | none => exact .fail _
      | some exp =>
          unfold AuthController.requireDeviceId
          dsimp only
          generalize trim (headerDeviceId.getD "") = headerId
          by_cases unnamed : headerId = ""
          · simp only [unnamed, ↓reduceIte]
            exact .fail _
          · simp only [unnamed, ↓reduceIte, Program.pure_eq, Program.ret_bind]
            by_cases bound : user.deviceId = some headerId
            · simp only [bound, ne_eq, not_true_eq_false, ↓reduceIte]
              simp only [AuthService.refresh, AuthService.currentTokenVersion,
                Program.expand_bind, Program.bind_assoc]
              rw [expand_user_bind]
              refine asks_rpc (fun answer => ?_) fun exception => ?_
              · cases answer with
                | tokenVersion tokenVersion =>
                    change IssuesOnly _ ((if user.tv.getD 0 ≠ tokenVersion then _ else _ :
                      AuthHandler TokenPairDto).expand session >>= _)
                    by_cases current : user.tv.getD 0 = tokenVersion
                    · simp only [current, ne_eq, not_true_eq_false, ↓reduceIte,
                        Program.expand_bind, Program.bind_assoc]
                      refine .bind ((session_calm (blacklistRefreshToken_only jti exp)).mono
                        fun _ calm => calm.grants _) fun _ => ⟨?_, fun _ => trivial⟩
                      exact ⟨rfl, rfl, sealed, identified, subject, type, version ▸ current⟩
                    · simp only [current, ne_eq, not_false_eq_true, ↓reduceIte]
                      trivial
                | _ => trivial
              · simp only
                split <;> trivial
            · simp only [bound, ne_eq, not_false_eq_true, ↓reduceIte]
              exact .fail _

/-- A refresh only asks for the subject of a token that verifies, since nothing is sent
before the guard has let it pass. -/
theorem refresh_asks (token : Jwt) (deviceId : Option String) :
    Asks (PortalOperation.session (.refresh (some token) deviceId)).grants
      (AuthController.respond config (.session (.refresh (some token) deviceId))) := by
  change Asks _ ((AuthController.handle _).expand session >>= _)
  rw [handle_refresh]
  apply Asks.verify
  intro reply verified
  cases reply with
  | none => exact .fail _
  | some payload =>
      obtain ⟨rfl, sealed⟩ := verified payload rfl
      change Asks _ ((AuthController.verified token.payload deviceId).expand session >>= _)
      unfold AuthController.verified JwtRefreshStrategy.validate
      cases named : truthy token.payload.sub with
      | none => exact .fail _
      | some sub =>
          cases identified : truthy token.payload.jti with
          | none => exact .fail _
          | some jti =>
              cases bound : truthy token.payload.deviceId with
              | none => exact .fail _
              | some device =>
                  have present : token.payload.jti ≠ none := by
                    rw [(truthy_eq_some.mp identified).1]
                    exact nofun
                  refine Asks.calm ?_ fun found => ?_
                  · trivial
                  · cases found with
                    | error message => exact .fail _
                    | ok value =>
                        by_cases blacklisted : value = some "1"
                        · rw [blacklisted]
                          exact .fail _
                        · simp only [Program.bind, Program.pure_eq, blacklisted, decide_false,
                            Bool.false_eq_true, ↓reduceIte, Program.attempt]
                          exact admitted_asks { token.payload with userId := sub } sealed
                            present (truthy_eq_some.mp named).1 rfl rfl deviceId

/-- Every endpoint asks at most once, and issues what the answer grants. -/
theorem respond_asks (operation : PortalOperation) :
    Asks operation.grants (AuthController.respond config operation) := by
  cases operation with
  | autoreg dto deviceId clientIp => exact autoreg_asks config dto deviceId clientIp
  | login dto deviceId => exact login_asks config dto deviceId
  | upgrade userId dto deviceId platform => exact upgrade_asks config userId dto deviceId platform
  | oauth provider dto deviceId platform => exact oauth_asks config provider dto deviceId platform
  | session operation =>
      cases operation with
      | refresh bearer deviceId =>
          cases bearer with
          | none => exact .fail _
          | some token => exact refresh_asks config token deviceId
      | logout refreshToken =>
          exact .bind (session_calm (logout_only refreshToken)) fun answer => .ret _

end Handlers

/-! ## Every token is vouched for -/

/-- A command stays within the contract, if it issues nothing or what is vouched for. -/
theorem portalContract_exec (kept : portalContract.keeps portal) {command : PortalCommand}
    (vouched : command.Grants (fun userId type tokenVersion => ∃ kind, type = some kind ∧
      Vouched portal.backend userId kind tokenVersion) ∨ ∃ operation, command = .send operation) :
    portalContract.keeps (Portal.exec command portal).1 ∧
      portalContract.rely portal (Portal.exec command portal).1 := by
  cases command with
  | issueTokenPair userId type deviceId tokenVersion =>
      rcases vouched with ⟨kind, rfl, vouched⟩ | ⟨_, other⟩
      · exact portalContract_issue kept vouched deviceId
      · cases other
  | redisSet key value seconds =>
      simp only [Portal.exec, Portal.session, AuthWorld.exec]
      split <;> exact portalContract_of_frame kept rfl rfl
  | send operation =>
      simp only [Portal.exec]
      split
      · exact portalContract_of_frame kept rfl rfl
      · exact portalContract_serve kept (.spawn operation)
  | _ => exact portalContract_of_frame kept rfl rfl

/-- What a handler does, whatever the others do within the contract. -/
abbrev KeepsHonest {α : Type} (program : PortalHandler α) (portal : Portal) : Prop :=
  program.Always Portal.exec portalContract (fun _ _ _ => True) (fun _ _ => True) portal

/-- What only issues pairs that are vouched for keeps every issued token vouched for. The
induction is on the program. -/
theorem IssuesOnly.keepsHonest {α : Type} {grant : Grant} {program : PortalHandler α}
    (issues : IssuesOnly grant program)
    (vouched : ∀ userId type tokenVersion, grant userId type tokenVersion →
      ∃ kind, type = some kind ∧ Vouched portal.backend userId kind tokenVersion) :
    KeepsHonest program portal := by
  induction program generalizing portal with
  | ret value => exact fun _ _ _ => trivial
  | fail error => exact fun _ _ _ => trivial
  | call command next ih =>
      intro later moved kept
      have still : ∀ userId type tokenVersion, grant userId type tokenVersion →
          ∃ kind, type = some kind ∧ Vouched later.backend userId kind tokenVersion := by
        intro userId type tokenVersion granted
        obtain ⟨kind, same, vouched⟩ := vouched userId type tokenVersion granted
        exact ⟨kind, same, vouched.of_rely moved.1⟩
      have fine : command.Grants fun userId type tokenVersion => ∃ kind, type = some kind ∧
          Vouched later.backend userId kind tokenVersion := by
        cases command with
        | issueTokenPair userId type deviceId tokenVersion => exact still _ _ _ issues.1
        | send operation => exact issues.1.elim
        | _ => trivial
      obtain ⟨keeps, relies⟩ := portalContract_exec kept (.inl fine)
      refine ⟨trivial, fun _ => ⟨keeps, relies, ih _ (issues.2 _) ?_⟩⟩
      intro userId type tokenVersion granted
      obtain ⟨kind, same, vouched⟩ := still userId type tokenVersion granted
      exact ⟨kind, same, vouched.of_rely relies.1⟩

/-- No forged token is presented for new tokens. -/
def PortalOperation.Genuine (operation : PortalOperation) (portal : Portal) : Prop :=
  ∀ token ∈ operation.bearer, portal.Genuine token

/-- A request with a genuine token stays one: tokens stay issued. -/
theorem PortalOperation.Genuine.of_rely {operation : PortalOperation}
    (genuine : operation.Genuine portal) (moved : portalContract.rely portal later) :
    operation.Genuine later :=
  fun token presented sealed => moved.2.1 (genuine token presented sealed)

omit [Gateway] in
/-- A request that is answered has returned. -/
theorem returned_of_response {ticket : Nat} {answer : Answer}
    (response : portal.response ticket = .ok answer) :
    ∃ request, portal.requests[ticket]? = some request ∧ request.status = .returned answer := by
  unfold Portal.response at response
  split at response
  · split at response
    · rename_i returned
      obtain ⟨request, present, status⟩ := Option.map_eq_some_iff.mp returned
      injection response with same
      exact ⟨request, present, same ▸ status⟩
    · cases response
    · cases response
  · cases response
  · cases response

/-- Whatever an answer of the user service grants is vouched for at the moment at which the
answer is given. -/
theorem vouched_of_response {operation : PortalOperation} {asked : UserOperation} {ticket : Nat}
    (kept : portalContract.keeps portal)
    (asks : ∃ request ∈ portal.requests[ticket]?, request.operation = asked)
    (genuine : operation.Genuine portal) {answer : Answer}
    (response : portal.response ticket = .ok answer) {userId : String}
    {type : Option AccountType} {tokenVersion : Nat}
    (granted : operation.grants asked answer userId type tokenVersion) :
    ∃ kind, type = some kind ∧ Vouched portal.backend userId kind tokenVersion := by
  obtain ⟨request, present, rfl⟩ := asks
  have signed : type = request.operation.signs → request.operation.signs ≠ none →
      issued request.operation answer = some (userId, tokenVersion) →
        ∃ kind, type = some kind ∧ Vouched portal.backend userId kind tokenVersion := by
    rintro rfl signs identity
    obtain ⟨kind, signed⟩ := Option.ne_none_iff_exists'.mp signs
    obtain ⟨same, there, returned⟩ := returned_of_response response
    cases there.symm.trans present
    exact ⟨kind, signed, kept.1.vouched (List.mem_of_getElem? present) returned identity signed⟩
  cases operation with
  | session operation =>
      cases operation with
      | logout refreshToken => exact granted.elim
      | refresh bearer deviceId =>
          cases bearer with
          | none => exact granted.elim
          | some token =>
              obtain ⟨_, _, sealed, identified, subject, rfl, rfl⟩ := granted
              obtain ⟨named, kind, version, same, typed, versioned, vouched⟩ :=
                kept.2 token (genuine token rfl sealed) identified
              cases same.symm.trans subject
              rw [versioned]
              exact ⟨kind, typed, vouched⟩
  | _ => exact signed granted.1 granted.2.1 granted.2.2

/-- A handler keeps to the contract, as long as it is presented no forged token. The
induction is on how it asks. -/
theorem Asks.keepsHonest {α : Type} {operation : PortalOperation} {program : PortalHandler α}
    (asks : Asks operation.grants program) (genuine : operation.Genuine portal) :
    KeepsHonest program portal := by
  have nothing : ∀ {later : Portal} {rest : PortalHandler α},
      IssuesOnly (fun _ _ _ => False) rest → KeepsHonest rest later := fun issues =>
    IssuesOnly.keepsHonest issues fun _ _ _ => False.elim
  induction asks generalizing portal with
  | ret value => exact fun _ _ _ => trivial
  | fail error => exact fun _ _ _ => trivial
  | @send asked next answered refused =>
      intro later moved kept
      obtain ⟨keeps, relies⟩ := portalContract_exec kept (.inr ⟨asked, rfl⟩)
      refine ⟨trivial, fun _ => ⟨keeps, relies, ?_⟩⟩
      have received : KeepsHonest (next (.ok later.requests.length))
          (later.serve (.spawn asked)) := by
        obtain ⟨rest, receives, issues⟩ := answered later.requests.length
        rw [receives]
        intro last further holds
        refine ⟨trivial, fun _ => ⟨holds, portalContract.refl last, ?_⟩⟩
        refine (issues (last.response later.requests.length)).keepsHonest ?_
        rintro userId type tokenVersion ⟨answer, response, granted⟩
        refine vouched_of_response holds ?_ ?_ response granted
        · have spawned : (later.serve (.spawn asked)).requests[later.requests.length]? =
              some ⟨asked, .running (UsersController.handle asked)⟩ :=
            List.getElem?_concat_length
          exact further.2.2 _ _ spawned
        · exact genuine.of_rely (portalContract.trans moved
            (portalContract.trans (portalContract_serve kept (.spawn asked)).2 further))
      simp only [Portal.exec]
      split
      · exact nothing (refused _)
      · exact received
  | @verify token secret next rest ih =>
      intro later moved kept
      have calm : PortalCommand.Calm (.verify token secret) := trivial
      obtain ⟨keeps, relies⟩ := portalContract_exec kept (.inl (calm.grants _))
      refine ⟨trivial, fun _ => ⟨keeps, relies, ih _ ?_ ?_⟩⟩
      · exact fun payload verified => ⟨verify_payload verified, verify_secret verified⟩
      · exact genuine.of_rely (portalContract.trans moved relies)
  | @calm command next calm rest ih =>
      intro later moved kept
      obtain ⟨keeps, relies⟩ := portalContract_exec kept (.inl (calm.grants _))
      refine ⟨trivial, fun _ => ⟨keeps, relies, ih _ ?_⟩⟩
      exact genuine.of_rely (portalContract.trans moved relies)

/-- No forged token is presented for new ones; all else may happen. -/
def PresentsGenuine : PortalLabel → PortalPool → Prop
  | .spawn operation, pool => operation.Genuine pool.shared
  | _, _ => True

/-- A pool whose handlers all keep to the contract. -/
abbrev PortalSound (config : OAuthConfig) (pool : PortalPool) : Prop :=
  (deployment config).Sound portalContract (fun _ _ _ _ => True) (fun _ _ _ => True) pool

/-- The environment of the deployment keeps to the contract, if clients present genuine
tokens. -/
theorem presentsGenuine_respects (config : OAuthConfig) :
    (deployment config).Respects portalContract PresentsGenuine where
  permits _ _ _ := trivial
  environment {event pool} _ kept := by
    cases event with
    | service label => exact portalContract_serve kept label
    | _ => exact portalContract_of_frame kept rfl rfl

/-- Soundness is kept over whole runs, and the world moves as the contract says. -/
theorem PortalSound.reaches {config : OAuthConfig} {before finish : PortalPool}
    (sound : PortalSound config before)
    (reached : (deployment config).Reaches PresentsGenuine before finish) :
    PortalSound config finish ∧ portalContract.rely before.shared finish.shared :=
  System.Reaches.sound (presentsGenuine_respects config)
    (fun operation _ genuine _ => (respond_asks config operation).keepsHonest genuine) sound reached

/-- The start of a deployment: accounts in order, nothing issued and nothing asked. -/
structure Portal.Fresh (start : Portal) : Prop where
  accounts : anonymity.keeps start.backend
  issued : start.issued = []
  requests : start.requests = []

/-- A fresh deployment is sound: no token is issued, and no request runs. -/
theorem Portal.Fresh.sound {config : OAuthConfig} {start : Portal} (fresh : start.Fresh) :
    PortalSound config ⟨start, []⟩ := by
  refine ⟨⟨⟨fresh.accounts, ?_⟩, ?_⟩, fun _ none => nomatch none⟩
  · intro request member
    have none : request ∈ start.requests := member
    rw [fresh.requests] at none
    cases none
  · intro token member
    rw [fresh.issued] at member
    cases member

end Law

end NestMonorepo
