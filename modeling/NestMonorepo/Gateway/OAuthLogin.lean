import NestMonorepo.Database.ObjectIds
import NestMonorepo.Gateway.OAuthVerifiers
import NestMonorepo.Gateway.Rpc

/-! # Signing in with a provider

`AuthService.oauthLogin` verifies a token, hands the identity to the user service
and issues a token pair for the account it answers. What the provider attested is
read off the responses themselves, independently of the verifiers: only that
email reaches a stored account.
-/

namespace NestMonorepo

open Collections Concurrency Handler SignIn UsersService

/-- `OAuthDto`. -/
structure OAuthDto where
  idToken : Option String := none
  accessToken : Option String := none
  email : Option String := none
  name : Option String := none

namespace AuthService

def verifyOAuthToken (config : OAuthConfig) (platform : Option Platform)
    (provider token : String) : SignIn (OAuthVerifier × OAuthIdentity) :=
  if token = "" then tokenInvalid "OAuth token required"
  else do
    let verifier ← Program.ofExcept (OAuthVerifierFactory.verifierFor provider)
    let identity ← verifier.verify config platform token
    pure (verifier, identity)

/-- The provider under which a verifier's identities are stored; an inherited
property verifies none. -/
def providerOf : OAuthVerifier → OAuthProvider
  | .yandex => .yandex
  | _ => .vk

/-- The payload for the user service: a client's email may only fill in for a
provider that returned none. -/
def oauthPayload (verifier : OAuthVerifier) (identity : OAuthIdentity) (dto : OAuthDto) :
    OAuthPayload where
  provider := providerOf verifier
  providerUserId := identity.providerUserId
  email := identity.email.or dto.email
  emailVerified := some ((truthy identity.email).isSome &&
    decide (identity.emailVerified = some true))
  name := identity.name.or dto.name

/-- `rpc.user(FIND_OR_CREATE_OAUTH_USER, payload)`. -/
def findOrCreate (payload : OAuthPayload) : SignIn IdentityResult := do
  match ← Program.perform (.user (.findOrCreateOAuthUser payload) : OAuthCommand) with
  | .ok (.identity result) => pure result
  | .ok _ => .fail (.other "unexpected answer")
  | .error exception => .fail (.http exception)

/-- The token of a sign-in. -/
def presented (dto : OAuthDto) : String := (dto.idToken.or dto.accessToken).getD ""

/-- `oauthLogin`, up to the account for which the token pair is issued. -/
def oauthLogin (config : OAuthConfig) (platform : Option Platform) (provider : String)
    (dto : OAuthDto) : SignIn IdentityResult := do
  let (verifier, identity) ← verifyOAuthToken config platform provider (presented dto)
  findOrCreate (oauthPayload verifier identity dto)

end AuthService

/-! ## What happens outside the gateway -/

/-- The providers' replies, what they have replied so far, and the store. -/
structure OAuthWorld where
  replies : (request : ProviderRequest) → Nat → ProviderReply request
  log : List ((request : ProviderRequest) × ProviderReply request) := []
  delivery : Delivery := .answered
  backend : Backend

namespace OAuthWorld

variable [Libraries]

def exec : (command : OAuthCommand) → OAuthWorld → OAuthWorld × OAuthReply command
  | .fetch request, world =>
      let reply := world.replies request world.log.length
      ({ world with log := world.log ++ [⟨request, reply⟩] }, reply)
  | .user operation, world =>
      let (backend, outcome) := RpcClientService.user world.delivery operation world.backend
      ({ world with backend }, outcome)

end OAuthWorld

/-- The response attests the email: VK accepts the token and marks the user
verified; Yandex names its default email. -/
def Attesting : ((request : ProviderRequest) × ProviderReply request) → String → Prop
  | ⟨.vkPublicInfo _ _ _, .response status (some body)⟩, email =>
      status < 500 ∧ (truthy body.error) = none ∧ ∃ user, body.user = some user ∧
        (user.userId.bind VkUserId.render).isSome ∧ user.email = some email ∧ email ≠ "" ∧
        user.verified = some true
  | ⟨.yandexInfo _ _, .response status (some body)⟩, email =>
      200 ≤ status ∧ status < 300 ∧ (truthy body.id).isSome ∧ body.defaultEmail = some email ∧
        email ≠ ""
  | _, _ => False

section Law

variable [Libraries]

/-! ## What a verification attests -/

/-- The email the identity carries as attested. -/
def OAuthIdentity.attested (identity : OAuthIdentity) : Option String :=
  if identity.emailVerified = some true then truthy identity.email else none

/-- Run anywhere, the program only consults providers, and the identity it
returns carries as attested exactly what is `given` or what it has seen attested. -/
def Follows (given : String → Prop) (program : SignIn OAuthIdentity) : Prop :=
  ∀ world, ∃ seen, (program.run OAuthWorld.exec world).1 =
      { world with log := world.log ++ seen } ∧
    ∀ identity, (program.run OAuthWorld.exec world).2 = .ok identity →
      ∀ email, (given email ∨ ∃ entry ∈ seen, Attesting entry email) ↔
        identity.attested = some email

section Follows

variable {given : String → Prop}

/-- A failing sign-in returns no identity, so it follows whatever is given. -/
theorem Follows.fail (error : GatewayError) : Follows given (.fail error) :=
  fun world => ⟨[], by rw [List.append_nil]; rfl, fun _ => nofun⟩

/-- An identity returned at once follows what is given when it carries exactly that as
attested. -/
theorem Follows.ret {identity : OAuthIdentity}
    (faithful : ∀ email, given email ↔ identity.attested = some email) :
    Follows given (.ret identity) := by
  refine fun world => ⟨[], by rw [List.append_nil]; rfl, fun other same email => ?_⟩
  cases same
  rw [← faithful email]
  exact or_iff_left fun ⟨_, member, _⟩ => nomatch member

/-- A reply adds what it attests to what is given. -/
theorem Follows.fetch {request : ProviderRequest}
    {next : ProviderReply request → SignIn OAuthIdentity}
    (rest : ∀ reply, Follows (fun email => given email ∨ Attesting ⟨request, reply⟩ email)
      (next reply)) : Follows given (SignIn.fetch request >>= next) := by
  intro world
  let reply := world.replies request world.log.length
  obtain ⟨seen, left, faithful⟩ :=
    rest reply { world with log := world.log ++ [⟨request, reply⟩] }
  refine ⟨⟨request, reply⟩ :: seen, ?_, fun identity ran email => ?_⟩
  · refine left.trans ?_
    simp only [List.append_assoc, List.singleton_append]
  · rw [← faithful identity ran email]
    simp only [List.mem_cons, exists_eq_or_imp, or_assoc]

/-- What is given may be replaced by an equivalent assertion. -/
theorem Follows.of_iff {other : String → Prop} {program : SignIn OAuthIdentity}
    (follows : Follows other program) (same : ∀ email, given email ↔ other email) :
    Follows given program := by
  intro world
  obtain ⟨seen, left, faithful⟩ := follows world
  exact ⟨seen, left, fun identity ran email => by rw [same, faithful identity ran email]⟩

end Follows

/-- Nothing attested so far. -/
def Unattested (_ : String) : Prop := False

/-- The legacy user info attests nothing, and the identity read from it carries no email as
attested. -/
theorem readUserInfo_follows (body : Option VkUserInfo) :
    Follows Unattested (VkOAuthVerifierService.readUserInfo body) := by
  unfold VkOAuthVerifierService.readUserInfo
  split
  · exact .fail _
  · split
    · exact .fail _
    · split
      · exact .fail _
      · exact .ret fun email => iff_of_false id nofun

/-- The access token flow follows its replies: none of them attests an email, and the
identity carries none as attested. -/
theorem verifyAccessToken_follows (config : OAuthConfig) (accessToken : String) :
    Follows Unattested (VkOAuthVerifierService.verifyAccessToken config accessToken) := by
  unfold VkOAuthVerifierService.verifyAccessToken
  refine .fetch fun reply => ?_
  split
  · exact .fail _
  · split
    · refine .fetch fun reply => ?_
      split
      · exact .fail _
      · split
        · exact .fail _
        · exact (readUserInfo_follows _).of_iff fun email => by
            simp only [Unattested, Attesting, or_self]
    · exact (readUserInfo_follows _).of_iff fun email => by
        simp only [Unattested, Attesting, or_self]

omit [Libraries] in
/-- A body that VK accepts attests what the identity read from it carries as attested: the
email of a user that VK has marked as verified. -/
theorem publicInfo_attesting {url clientId idToken : String} {status : Nat}
    {body : Option VkPublicInfo} (answered : status < 500) {user : VkUser}
    {providerUserId : String} (accepted : body.bind VkPublicInfo.accepted =
      some (user, providerUserId)) (email : String) :
    Attesting ⟨.vkPublicInfo url clientId idToken, .response status body⟩ email ↔
      (VkOAuthVerifierService.identityOf user providerUserId).attested = some email := by
  obtain ⟨body, rfl, clean⟩ := Option.bind_eq_some_iff.mp accepted
  unfold VkPublicInfo.accepted at clean
  split at clean
  · cases clean
  rename_i faultless
  obtain ⟨found, present, identified⟩ := Option.bind_eq_some_iff.mp clean
  obtain ⟨id, rendered, same⟩ := Option.map_eq_some_iff.mp identified
  cases same
  simp only [Attesting, answered, Option.not_isSome_iff_eq_none.mp faultless, present, rendered,
    Option.some.injEq, exists_eq_left', Option.isSome_some, true_and,
    VkOAuthVerifierService.identityOf, OAuthIdentity.attested, Bool.and_eq_true, decide_eq_true_eq]
  constructor
  · rintro ⟨addressed, truthful, verified⟩
    have kept := truthy_eq_some.mpr ⟨addressed, truthful⟩
    simp only [kept, Option.isSome_some, verified, and_self, ↓reduceIte]
    exact truthy_eq_some.mpr ⟨rfl, truthful⟩
  · intro attested
    split at attested
    · rename_i verified
      obtain ⟨addressed, truthful⟩ := truthy_eq_some.mp (truthy_eq_some.mp attested).1
      exact ⟨addressed, truthful, verified.2⟩
    · cases attested

omit [Libraries] in
/-- A body VK rejects attests nothing. -/
theorem not_publicInfo_attesting {url clientId idToken : String} {status : Nat}
    {body : Option VkPublicInfo} (rejected : body.bind VkPublicInfo.accepted = none)
    (email : String) :
    ¬Attesting ⟨.vkPublicInfo url clientId idToken, .response status body⟩ email := by
  cases body with
  | none => exact id
  | some body =>
      rintro ⟨_, faultless, user, present, identified, _⟩
      obtain ⟨id, rendered⟩ := Option.isSome_iff_exists.mp identified
      simp only [Option.bind_some, VkPublicInfo.accepted, faultless, Option.isSome_none,
        Bool.false_eq_true, ↓reduceIte, present, rendered, Option.map_some,
        reduceCtorEq] at rejected

/-- The id token flow follows its replies, whichever of the client ids VK accepts the token
for. -/
theorem tryClientIds_follows (config : OAuthConfig) (idToken : String)
    (clientIds : List String) :
    Follows Unattested (VkOAuthVerifierService.tryClientIds config idToken clientIds) := by
  induction clientIds with
  | nil => exact .fail _
  | cons clientId rest ih =>
      simp only [VkOAuthVerifierService.tryClientIds, VkOAuthVerifierService.tryPublicInfo,
        Program.bind_assoc]
      refine .fetch fun reply => ?_
      cases reply with
      | networkError message => exact .fail _
      | response status body =>
          simp only
          split
          · exact .fail _
          · rename_i answered
            cases accepted : body.bind VkPublicInfo.accepted with
            | none =>
                refine ih.of_iff fun email => ?_
                simp only [Unattested, not_publicInfo_attesting accepted, or_self]
            | some found =>
                refine .ret fun email => ?_
                rw [publicInfo_attesting (Nat.lt_of_not_le answered) accepted]
                exact or_iff_right id

/-- A VK sign-in follows what VK attests, in either of its two flows. -/
theorem vk_follows (config : OAuthConfig) (platform : Option Platform) (token : String) :
    Follows Unattested (VkOAuthVerifierService.verify config platform token) := by
  unfold VkOAuthVerifierService.verify VkOAuthVerifierService.verifyIdToken
  split
  · exact .fail _
  · split
    · simp only
      split
      · exact .fail _
      · exact tryClientIds_follows config token _
    · exact verifyAccessToken_follows config token

/-- The response `verify` ends up with attests what the identity read from it
carries as attested. -/
theorem readInfo_follows (url token : String) (status : Nat) (body : Option YandexInfo) :
    Follows (Attesting ⟨.yandexInfo url token, .response status body⟩)
      (YandexOAuthVerifierService.readInfo status body) := by
  unfold YandexOAuthVerifierService.readInfo
  split
  · exact .fail _
  · split
    · exact .fail _
    · split
      · exact .fail _
      rename_i succeeded
      cases read : body.bind fun body => (truthy body.id).map fun id => (body, id) with
      | none => exact .fail _
      | some found =>
          obtain ⟨body, rfl, identified⟩ := Option.bind_eq_some_iff.mp read
          obtain ⟨id, present, rfl⟩ := Option.map_eq_some_iff.mp identified
          refine .ret fun email => ?_
          simp only [Decidable.not_not] at succeeded
          simp only [Attesting, succeeded, present, Option.isSome_some, true_and,
            YandexOAuthVerifierService.identityOf, OAuthIdentity.attested, ← truthy_eq_some]
          constructor
          · intro attested
            simp only [attested, Option.isSome_some, ↓reduceIte]
          · intro attested
            cases addressed : truthy body.defaultEmail with
            | none =>
                simp only [addressed, Option.isSome_none, Option.some.injEq, Bool.false_eq_true,
                  ↓reduceIte, reduceCtorEq] at attested
            | some value =>
                simpa only [addressed, Option.isSome_some, ↓reduceIte] using attested

/-- A Yandex sign-in follows what Yandex attests. -/
theorem yandex_follows (config : OAuthConfig) (token : String) :
    Follows Unattested (YandexOAuthVerifierService.verify config token) := by
  unfold YandexOAuthVerifierService.verify
  split
  · exact .fail _
  · refine .fetch fun reply => ?_
    cases reply with
    | networkError message => exact .fail _
    | response status body =>
        simp only
        split
        · refine .fetch fun reply => ?_
          cases reply with
          | networkError message => exact .fail _
          | response retried body' =>
              rename_i failed
              refine (readInfo_follows (config.yandexUserInfoUrl.getD
                YandexOAuthVerifierService.defaultUserInfoUrl) token retried body').of_iff
                fun email => or_iff_right ?_
              rintro (none | attesting)
              · exact none
              · cases body with
                | none => exact attesting
                | some body => exact absurd attesting.2.1 (by omega)
        · exact (readInfo_follows _ token status body).of_iff fun email => or_iff_right id

/-- Every provider's verifier follows what its provider attests: nothing is attested before
it is called, and the identity carries exactly what the replies attest. -/
theorem OAuthVerifier.verify_follows (config : OAuthConfig) (platform : Option Platform)
    (token : String) (verifier : OAuthVerifier) :
    Follows Unattested (verifier.verify config platform token) := by
  cases verifier with
  | vk => exact vk_follows config platform token
  | yandex => exact yandex_follows config token
  | inherited name => exact .fail _

/-! ## What a sign-in does to the store -/

open AuthService

/-- A successful verification attests what the providers' replies attest, and does nothing
but consult them. -/
theorem verifyOAuthToken_run (config : OAuthConfig) (platform : Option Platform)
    (provider token : String) (world : OAuthWorld) :
    ∃ seen, ((verifyOAuthToken config platform provider token).run OAuthWorld.exec world).1 =
        { world with log := world.log ++ seen } ∧
      ∀ verifier identity,
        ((verifyOAuthToken config platform provider token).run OAuthWorld.exec world).2 =
          .ok (verifier, identity) →
        ∀ email, (∃ entry ∈ seen, Attesting entry email) ↔ identity.attested = some email := by
  unfold verifyOAuthToken
  split
  · exact ⟨[], by rw [List.append_nil]; rfl, fun _ _ => nofun⟩
  · cases OAuthVerifierFactory.verifierFor provider with
    | error error => exact ⟨[], by rw [List.append_nil]; rfl, fun _ _ => nofun⟩
    | ok verifier =>
        simp only [Program.ofExcept_ok, Program.ret_bind]
        obtain ⟨seen, left, faithful⟩ := verifier.verify_follows config platform token world
        cases ran : (verifier.verify config platform token).run OAuthWorld.exec world with
        | mk after outcome =>
            rw [ran] at left faithful
            refine ⟨seen, ?_⟩
            cases outcome with
            | error error =>
                rw [Program.run_bind_of_error _ ran]
                exact ⟨left, fun _ _ => nofun⟩
            | ok identity =>
                rw [Program.run_bind_of_ok _ ran]
                refine ⟨left, fun verifier' identity' same email => ?_⟩
                cases same
                rw [← faithful identity rfl email]
                exact (or_iff_right id).symm

omit [Libraries] in
/-- Only an attested email can merge, whatever the client sends along. -/
theorem oauthPayload_mergeEmail (verifier : OAuthVerifier) (identity : OAuthIdentity)
    (dto : OAuthDto) : (oauthPayload verifier identity dto).mergeEmail = identity.attested := by
  simp only [OAuthPayload.mergeEmail, oauthPayload, OAuthIdentity.attested, Option.some.injEq,
    Bool.and_eq_true, decide_eq_true_eq]
  cases email : identity.email with
  | none => simp only [truthy, Option.filter_none, Option.isSome_none, Bool.false_eq_true,
      false_and, ↓reduceIte, ite_self]
  | some value =>
      by_cases verified : identity.emailVerified = some true
      · cases present : truthy (some value) with
        | none => simp only [Option.isSome_none, Bool.false_eq_true, false_and,
            ↓reduceIte, verified]
        | some kept => simp only [Option.isSome_some, verified, and_self, ↓reduceIte,
            Option.some_or, present]
      · simp only [verified, and_false, ↓reduceIte]

/-- The request to the user service leaves the log alone and serves the message
or nothing; an account is returned only when it was served. -/
theorem findOrCreate_run (payload : OAuthPayload) (world : OAuthWorld) :
    let ran := (findOrCreate payload).run OAuthWorld.exec world
    let served := serve (.findOrCreateOAuthUser payload) world.backend
    ran.1.log = world.log ∧
      (ran.1.backend = world.backend ∧ (∃ error, ran.2 = .error error) ∨
        ran.1.backend = served.1) ∧
      ∀ result, ran.2 = .ok result ↔
        world.delivery = .answered ∧ served.2 = .ok (.identity result) := by
  obtain ⟨replies, log, delivery, backend⟩ := world
  dsimp only
  cases delivery with
  | lost failure => exact ⟨rfl, .inl ⟨rfl, _, rfl⟩, fun result => ⟨nofun, nofun⟩⟩
  | unanswered failure => exact ⟨rfl, .inr rfl, fun result => ⟨nofun, nofun⟩⟩
  | answered =>
      simp only [findOrCreate, Program.perform_bind, Program.run_call, OAuthWorld.exec,
        RpcClientService.user, RpcClientService.unwrap]
      cases (serve (.findOrCreateOAuthUser payload) backend).2 with
      | error error => exact ⟨rfl, .inr rfl, fun result => ⟨nofun, nofun⟩⟩
      | ok answer =>
          cases answer with
          | identity result =>
              refine ⟨rfl, .inr rfl, fun other => ⟨fun same => ?_, fun same => ?_⟩⟩
              · cases same
                exact ⟨trivial, rfl⟩
              · cases same.2
                rfl
          | _ => exact ⟨rfl, .inr rfl, fun result => ⟨nofun, nofun⟩⟩

/-- A live account that holds the link is what the user service answers. -/
theorem serve_oauthKnown {payload : OAuthPayload} {store : Backend} {user : User}
    (up : store.databaseUp = true)
    (found : store.users.find?
      (UserFilter.byLinkLive payload.provider payload.providerUserId).accepts = some user) :
    (serve (.findOrCreateOAuthUser payload) store).2 = .ok (.identity user.identity) := by
  rw [serve, UsersController.handle, UsersService.findOrCreateOAuthUser, Program.bind_assoc,
    runIn_findUser up]
  simp only [found, Program.pure_eq, Program.ret_bind, runIn_ret]

/-- Without an attested email, no stored account changes, and the account answered
held the link or is new. -/
theorem serve_of_unattested {payload : OAuthPayload} {store : Backend}
    (unattested : payload.mergeEmail = none) :
    (∀ user ∈ store.users, user ∈ (serve (.findOrCreateOAuthUser payload) store).1.users) ∧
      ∀ result, (serve (.findOrCreateOAuthUser payload) store).2 = .ok (.identity result) →
        (∃ user ∈ store.users, user.hasLink payload.provider payload.providerUserId = true ∧
          result = user.identity) ∨
        ∃ user ∈ (serve (.findOrCreateOAuthUser payload) store).1.users,
          (∀ other ∈ store.users, other.id ≠ user.id) ∧ result = user.identity := by
  have ends := serve_ends (.findOrCreateOAuthUser payload) store
  generalize (serve (.findOrCreateOAuthUser payload) store).1.users = users at ends ⊢
  generalize (serve (.findOrCreateOAuthUser payload) store).2 = outcome at ends ⊢
  cases ends with
  | failed =>
      refine ⟨fun _ member => member, fun result same => ?_⟩
      cases same
  | silent none =>
      refine ⟨fun _ member => member, fun result same => ?_⟩
      cases same
      cases none
  | oauthKnown _ found =>
      refine ⟨fun _ member => member, fun result same => .inl ?_⟩
      cases same
      have accepted := UserFilter.accepts_byLinkLive.mp (List.find?_some found)
      exact ⟨_, List.mem_of_find?_eq_some found, accepted.1, rfl⟩
  | oauthMerged _ _ attested => cases unattested.symm.trans attested
  | oauthCreated _ _ _ fresh =>
      refine ⟨fun _ member => List.mem_append_left _ member, fun result same => .inr ?_⟩
      cases same
      exact ⟨_, List.mem_append_right _ (List.mem_singleton.mpr rfl), fetch_eq_none.mp fresh, rfl⟩

/-- A stored account that changes carries the attested email. -/
theorem email_of_changed {payload : OAuthPayload} {store : Backend} (distinct : DistinctIds store)
    {user : User} (member : user ∈ store.users)
    (changed : user ∉ (serve (.findOrCreateOAuthUser payload) store).1.users) :
    ∃ email, payload.mergeEmail = some email ∧ user.email = some email := by
  have ends := serve_ends (.findOrCreateOAuthUser payload) store
  generalize (serve (.findOrCreateOAuthUser payload) store).1.users = users at ends changed
  generalize (serve (.findOrCreateOAuthUser payload) store).2 = outcome at ends
  cases ends with
  | @oauthMerged _ _ email loaded _ _ attested found =>
      have accepted := UserFilter.accepts_byEmailLive.mp (List.find?_some found)
      by_cases same : user.id = loaded.id
      · rw [distinct.unique member (List.mem_of_find?_eq_some found) same]
        exact ⟨email, attested, accepted.1⟩
      · exact (changed (mem_modifyAt_of_ne member same)).elim
  | oauthCreated => exact (changed (List.mem_append_left _ member)).elim
  | _ => exact (changed member).elim

/-- A sign-in, run alone. -/
def signedIn (config : OAuthConfig) (platform : Option Platform) (provider : String)
    (dto : OAuthDto) (world : OAuthWorld) : OAuthWorld × Except GatewayError IdentityResult :=
  (oauthLogin config platform provider dto).run OAuthWorld.exec world

/-- A provider has attested the email in what it replied. -/
def OAuthWorld.Attested (world : OAuthWorld) (email : String) : Prop :=
  ∃ entry ∈ world.log, Attesting entry email

/-- The stored account is the one returned. -/
def Returns (outcome : Except GatewayError IdentityResult) (user : User) : Prop :=
  ∃ result, outcome = .ok result ∧ result.id = user.hexId

/-- A sign-in either fails while verifying, or asks the user service for the
account of what it verified. -/
theorem signedIn_cases (config : OAuthConfig) (platform : Option Platform) (provider : String)
    (token : String) (world : OAuthWorld) :
    (∃ after error, after.backend = world.backend ∧ ∀ dto, presented dto = token →
      signedIn config platform provider dto world = (after, .error error)) ∨
    ∃ verifier identity between, between.backend = world.backend ∧
      between.delivery = world.delivery ∧
      (world.log = [] → ∀ email, between.Attested email ↔ identity.attested = some email) ∧
      ((verifyOAuthToken config platform provider token).run OAuthWorld.exec world).2 =
        .ok (verifier, identity) ∧
      ∀ dto, presented dto = token → signedIn config platform provider dto world =
        (findOrCreate (oauthPayload verifier identity dto)).run OAuthWorld.exec between := by
  obtain ⟨seen, left, faithful⟩ :=
    verifyOAuthToken_run config platform provider token world
  cases ran : (verifyOAuthToken config platform provider token).run OAuthWorld.exec world with
  | mk between outcome =>
      rw [ran] at left faithful
      change between = _ at left
      subst left
      cases outcome with
      | error error =>
          refine .inl ⟨{ world with log := world.log ++ seen }, error, rfl, ?_⟩
          rintro dto rfl
          exact Program.run_bind_of_error _ ran _
      | ok verified =>
          obtain ⟨verifier, identity⟩ := verified
          refine .inr ⟨verifier, identity, { world with log := world.log ++ seen }, rfl, rfl,
            fun fresh email => ?_, rfl, ?_⟩
          · rw [← faithful verifier identity rfl email, OAuthWorld.Attested, fresh,
              List.nil_append]
          · rintro dto rfl
            exact Program.run_bind_of_ok _ ran _

/-- An email the provider does not attest reaches no stored account, and an
attested one only the accounts that carry it. -/
structure Confined (config : OAuthConfig) (platform : Option Platform) (provider : String)
    (dto : OAuthDto) (world : OAuthWorld) : Prop where
  unattested : (∀ email, ¬(signedIn config platform provider dto world).1.Attested email) →
    (∀ user ∈ world.backend.users,
      user ∈ (signedIn config platform provider dto world).1.backend.users) ∧
    ∀ result, (signedIn config platform provider dto world).2 = .ok result →
      ∃ verifier identity,
        ((verifyOAuthToken config platform provider (presented dto)).run
          OAuthWorld.exec world).2 = .ok (verifier, identity) ∧
        ((∃ user ∈ world.backend.users,
            user.hasLink (providerOf verifier) identity.providerUserId = true ∧
              result = user.identity) ∨
          ∃ user ∈ (signedIn config platform provider dto world).1.backend.users,
            (∀ other ∈ world.backend.users, other.id ≠ user.id) ∧ result = user.identity)
  attested : ∀ email, (signedIn config platform provider dto world).1.Attested email →
    ∀ user ∈ world.backend.users,
      user ∉ (signedIn config platform provider dto world).1.backend.users →
      user.email = some email
  blind : ∀ email, ∀ user ∈ world.backend.users,
    (Returns (signedIn config platform provider dto world).2 user ↔
      Returns (signedIn config platform provider { dto with email } world).2 user)

/-- The existing account that is returned does not depend on the client's email: two
requests that differ only in it return the same one. -/
theorem Returns.blind {config : OAuthConfig} {platform : Option Platform} {provider : String}
    {dto other : OAuthDto} {world : OAuthWorld} {user : User}
    (returns : Returns (signedIn config platform provider dto world).2 user)
    (same : presented other = presented dto) (name : other.name = dto.name)
    (member : user ∈ world.backend.users) :
    Returns (signedIn config platform provider other world).2 user := by
  obtain ⟨result, ran, identified⟩ := returns
  rcases signedIn_cases config platform provider (presented dto) world with
    ⟨after, error, _, failed⟩ | ⟨verifier, identity, between, backend, _, _, _, continued⟩
  · rw [failed dto rfl] at ran
    cases ran
  rw [continued dto rfl, (findOrCreate_run _ between).2.2] at ran
  obtain ⟨delivered, served⟩ := ran
  refine ⟨result, ?_, identified⟩
  rw [continued other same, (findOrCreate_run _ between).2.2]
  refine ⟨delivered, ?_⟩
  rw [← backend] at member
  have ends := serve_ends (.findOrCreateOAuthUser (oauthPayload verifier identity dto))
    between.backend
  rw [served] at ends
  generalize (serve (.findOrCreateOAuthUser (oauthPayload verifier identity dto))
    between.backend).1.users = users at ends
  generalize answered : (Except.ok (Answer.identity result) : Except ServiceError Answer) =
    outcome at ends
  cases ends with
  | failed => cases answered
  | silent none =>
      cases answered
      cases none
  | oauthKnown up found =>
      cases answered
      exact serve_oauthKnown up found
  | oauthMerged _ _ attested =>
      -- an attested email leaves no room for the client's
      have sameAsked : oauthPayload verifier identity other =
          oauthPayload verifier identity dto := by
        rw [oauthPayload_mergeEmail, OAuthIdentity.attested] at attested
        split at attested
        · rw [oauthPayload, oauthPayload, (truthy_eq_some.mp attested).1, name]
          rfl
        · cases attested
      rw [sameAsked, served]
      exact answered
  | oauthCreated _ _ _ fresh =>
      cases answered
      have recovered := congrArg Libraries.ofHexString identified
      rw [User.hexId, Libraries.ofHexString_toHexString] at recovered
      have equal := Option.some.inj
        ((Libraries.ofHexString_toHexString between.backend.nextObjectId).symm.trans recovered)
      exact (fetch_eq_none.mp fresh user member equal.symm).elim

/-- Whatever the provider replies and the client sends along, a sign-in is
confined. -/
theorem signedIn_confined (config : OAuthConfig) (platform : Option Platform)
    (provider : String) (dto : OAuthDto)
    (replies : (request : ProviderRequest) → Nat → ProviderReply request) (delivery : Delivery)
    {backend : Backend} (distinct : DistinctIds backend) :
    Confined config platform provider dto { replies, delivery, backend } := by
  refine ⟨?_, ?_, fun email user member =>
    ⟨fun returns => returns.blind rfl rfl member, fun returns => returns.blind rfl rfl member⟩⟩
  all_goals
    rcases signedIn_cases config platform provider (presented dto)
      { replies, delivery, backend } with
      ⟨after, error, unchanged, failed⟩ |
      ⟨verifier, identity, between, unchanged, _, faithful, verified, continued⟩
  · rw [failed dto rfl]
    exact fun _ => ⟨fun user member => unchanged ▸ member, fun _ => nofun⟩
  · obtain ⟨log, moved, answers⟩ :=
      findOrCreate_run (oauthPayload verifier identity dto) between
    rw [continued dto rfl]
    intro bare
    have seen : ∀ email, identity.attested ≠ some email := fun email attested =>
      bare email (by rw [OAuthWorld.Attested, log]; exact (faithful rfl email).mpr attested)
    have unattested : (oauthPayload verifier identity dto).mergeEmail = none := by
      rw [oauthPayload_mergeEmail]
      exact Option.eq_none_iff_forall_ne_some.mpr seen
    obtain ⟨spared, held⟩ := serve_of_unattested unattested
    rcases moved with ⟨stayed, error, failed⟩ | served
    · rw [stayed, unchanged, failed]
      exact ⟨fun user member => member, fun result => nofun⟩
    · rw [served]
      refine ⟨fun user member => spared user (unchanged ▸ member), fun result returned =>
        ⟨verifier, identity, verified, ?_⟩⟩
      have answered := held result ((answers result).mp returned).2
      rwa [unchanged] at answered ⊢
  · rw [failed dto rfl]
    exact fun email _ user member changed => (changed (unchanged ▸ member)).elim
  · obtain ⟨log, moved, answers⟩ :=
      findOrCreate_run (oauthPayload verifier identity dto) between
    rw [continued dto rfl]
    intro email attested user member changed
    have carried : identity.attested = some email :=
      (faithful rfl email).mp (by rwa [OAuthWorld.Attested, log] at attested)
    rcases moved with ⟨stayed, _⟩ | served
    · rw [stayed, unchanged] at changed
      exact (changed member).elim
    · rw [served, unchanged] at changed
      obtain ⟨merging, merged, addressed⟩ := email_of_changed distinct member changed
      rw [oauthPayload_mergeEmail, carried] at merged
      exact addressed.trans merged.symm

end Law

/-! ## A client that names another's email -/

section ClientEmail

open scoped Plain

/-- An account that carries an email. -/
def addressedStore : Backend :=
  { users := [{ UsersService.autoregUser 0 0 with email := some "owner@mail" }], nextObjectId := 1 }

/-- Providers that accept every token and name no email. -/
def emailless : (request : ProviderRequest) → Nat → ProviderReply request
  | .vkPublicInfo _ _ _, _ => .response 200 (some { user := some { userId := some (.number 7) } })
  | .vkUserInfo _ _, _ => .response 200 (some { response := some (.inr [{ id := some 7 }]) })
  | .yandexInfo _ _, _ => .response 200 (some { id := some "7" })

/-- The premises are met by a sign-in whose client names an email that the provider does
not: the account it reaches is not the one of that email. -/
theorem signedIn_confined_clientEmail :
    Confined {} none "yandex" { accessToken := some "token", email := some "owner@mail" }
      { replies := emailless, delivery := .answered, backend := addressedStore } :=
  signedIn_confined _ _ _ _ _ _ (List.nodup_singleton _)

end ClientEmail

end NestMonorepo
