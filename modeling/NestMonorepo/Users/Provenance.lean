import NestMonorepo.Database.ObjectIds
import NestMonorepo.Users.Issuing

/-! # Where an account's email and credentials came from

A run keeps the history of its calls. From it one reads, for every account, which
call stored its email and which calls attached its password and its links. Only
provider-attested identities and reset tokens prove control of an email; the
email of an upgrade, or of a provider that attests nothing, is taken as sent.
-/

namespace NestMonorepo

open Collections Concurrency Handler UsersService

section Law

variable [Libraries] {Principal : Type}

/-- A message served, on whose behalf, and the store it met. -/
structure Call (Principal : Type) where
  principal : Principal
  operation : UserOperation
  before : Backend

/-- The users a call left. -/
def Call.left (call : Call Principal) : List User := (serve call.operation call.before).1.users

/-- The histories of messages served one after another, from the empty store. -/
inductive Recorded : List (Call Principal) → Backend → Prop
  | start : Recorded [] {}
  | serve {calls store} (principal : Principal) (operation : UserOperation) :
      Recorded calls store →
      Recorded (calls ++ [⟨principal, operation, store⟩]) (serve operation store).1
  | environment {calls store} (event : Backend.Event) : Recorded calls store →
      Recorded calls (Backend.environment event store)

/-- A recorded history leads to a store that served messages lead to. -/
theorem Recorded.served {calls : List (Call Principal)} {store : Backend}
    (recorded : Recorded calls store) : Served {} store := by
  induction recorded with
  | start => exact .start
  | serve principal operation _ ih => exact .serve operation ih
  | environment event _ ih => exact .environment event ih

/-! ## Credentials and proofs -/

/-- A way into an account. -/
inductive Credential where
  | password (passwordHash : String)
  | link (provider : OAuthProvider) (providerUserId : String)

omit [Libraries] in
/-- The account can be entered with the credential. -/
def User.Holds (user : User) : Credential → Prop
  | .password passwordHash => user.passwordHash = some passwordHash
  | .link provider providerUserId => user.hasLink provider providerUserId = true

omit [Libraries] in
/-- Two versions with the same password and links are entered the same way. -/
theorem User.Holds.of_same {user version : User} {credential : Credential}
    (holds : version.Holds credential) (password : version.passwordHash = user.passwordHash)
    (links : version.oauthLinks = user.oauthLinks) : user.Holds credential := by
  cases credential with
  | password passwordHash => exact password.symm.trans holds
  | link provider providerUserId =>
      change user.hasLink provider providerUserId = true
      rw [User.hasLink, ← links]
      exact holds

namespace Call

variable (call : Call Principal) (calls : List (Call Principal)) (id : ObjectId)
  (email : String)

/-- The call put the email on the account. -/
def StoresEmail : Prop :=
  (∀ user ∈ call.before.users, user.id = id → user.email ≠ some email) ∧
    ∃ user ∈ call.left, user.id = id ∧ user.email = some email

/-- The call put the credential on the account. -/
def Attaches (credential : Credential) : Prop :=
  (∀ user ∈ call.before.users, user.id = id → ¬user.Holds credential) ∧
    ∃ user ∈ call.left, user.id = id ∧ user.Holds credential

/-- The call presents a provider identity whose provider attests the email. -/
def Attests : Prop :=
  ∃ payload, call.operation = .findOrCreateOAuthUser payload ∧
    payload.mergeEmail = some email

/-- The call redeems, on the account, a reset token that was requested for the
email. -/
def Redeems : Prop :=
  ∃ token newPassword, call.operation = .resetPassword token newPassword ∧
    (∃ user ∈ call.before.users, user.id = id ∧
      user.resetPasswordToken = some (hashResetToken token)) ∧
    ∃ request ∈ calls, request.operation = .forgotPassword email ∧
      hashResetToken (Libraries.randomHex request.before.randomDraws) = hashResetToken token

/-- The call proves control of the email. -/
def Proves : Prop := call.Attests email ∨ call.Redeems calls id email

/-- The call takes the email as its sender gives it. -/
def TakesUnproven : Prop :=
  (∃ userId payload, call.operation = .upgradeAccount userId payload) ∨
    ∃ payload, call.operation = .findOrCreateOAuthUser payload ∧ payload.email = some email ∧
      payload.emailVerified ≠ some true

end Call

/-- The account's email was attested when it was stored, or a reset token for it
was redeemed. -/
def EmailProven (calls : List (Call Principal)) (id : ObjectId) (email : String) : Prop :=
  (∃ origin ∈ calls, origin.StoresEmail id email ∧ origin.Attests email) ∨
    ∃ reset ∈ calls, reset.Redeems calls id email

/-- The principal proved control of the email in some call. -/
def HasProved (calls : List (Call Principal)) (principal : Principal) (email : String) : Prop :=
  ∃ call ∈ calls, call.principal = principal ∧ ∃ id, call.Proves calls id email

/-- The message adds a link to a stored user; `version` is what it leaves. -/
def LinksInto (payload : OAuthPayload) (store : Backend) (user version : User) : Prop :=
  user ∈ store.users ∧ version ∈ (serve (.findOrCreateOAuthUser payload) store).1.users ∧
    version.id = user.id ∧ version.oauthLinks ≠ user.oauthLinks

/-! ## The account invariant -/

/-- How an account is accounted for by the history. -/
structure Accounted (calls : List (Call Principal)) (user : User) : Prop where
  anonymous : user.accountType = .autoreg → user.email = none ∧
    (∀ credential, ¬user.Holds credential) ∧ user.resetPasswordToken = none
  owned : ∀ email, user.email = some email → ∃ origin ∈ calls,
    origin.StoresEmail user.id email ∧
      ∀ credential, user.Holds credential → ∃ call ∈ calls,
        call.Attaches user.id credential ∧ (call = origin ∨ call.Proves calls user.id email)
  requested : ∀ email tokenHash, user.email = some email →
    user.resetPasswordToken = some tokenHash → ∃ request ∈ calls,
      request.operation = .forgotPassword email ∧
        hashResetToken (Libraries.randomHex request.before.randomDraws) = tokenHash

section Accounted

variable {calls more : List (Call Principal)} {call : Call Principal} {user loaded : User}
  {email : String} {id : ObjectId}

/-- A proof of an email in a history is one in every longer history. -/
theorem Call.Proves.mono (proves : call.Proves calls id email) (longer : calls ⊆ more) :
    call.Proves more id email := by
  rcases proves with attests | ⟨token, newPassword, operated, stored, request, member, requested⟩
  · exact .inl attests
  · exact .inr ⟨token, newPassword, operated, stored, request, longer member, requested⟩

/-- A user accounted for by a history is accounted for by every longer one. -/
theorem Accounted.mono (accounted : Accounted calls user) (longer : calls ⊆ more) :
    Accounted more user where
  anonymous := accounted.anonymous
  owned email addressed := by
    obtain ⟨origin, member, stores, attached⟩ := accounted.owned email addressed
    refine ⟨origin, longer member, stores, fun credential holds => ?_⟩
    obtain ⟨call, included, attaches, proved⟩ := attached credential holds
    exact ⟨call, longer included, attaches, proved.imp_right (·.mono longer)⟩
  requested email tokenHash addressed stored := by
    obtain ⟨request, member, issued⟩ := accounted.requested email tokenHash addressed stored
    exact ⟨request, longer member, issued⟩

omit [Libraries] in
/-- A user without a password and links holds no credential. -/
theorem not_holds_of_bare (unset : user.passwordHash = none) (unlinked : user.oauthLinks = [])
    (credential : Credential) : ¬user.Holds credential := by
  intro holds
  cases credential with
  | password passwordHash => cases unset.symm.trans holds
  | link provider providerUserId =>
      rw [User.Holds, User.hasLink, unlinked] at holds
      cases holds

/-- An account without an email is accounted for once it is bare while anonymous. -/
theorem accounted_of_unaddressed (unaddressed : user.email = none)
    (bare : user.accountType = .autoreg →
      (∀ credential, ¬user.Holds credential) ∧ user.resetPasswordToken = none) :
    Accounted calls user where
  anonymous anonymous := ⟨unaddressed, bare anonymous⟩
  owned email addressed := by cases unaddressed.symm.trans addressed
  requested email tokenHash addressed _ := by cases unaddressed.symm.trans addressed

/-- What one call may do to an account it rewrites: every credential it adds is
added with a proof. -/
theorem Accounted.owned_of_rewrite (accounted : Accounted calls loaded)
    (distinct : DistinctIds call.before) (member : loaded ∈ call.before.users)
    (present : user ∈ call.left) (same : user.id = loaded.id) (kept : user.email = loaded.email)
    (proved : ∀ credential, user.Holds credential → ¬loaded.Holds credential →
      ∀ email, loaded.email = some email → call.Proves (calls ++ [call]) user.id email) :
    ∀ email, user.email = some email → ∃ origin ∈ calls ++ [call],
      origin.StoresEmail user.id email ∧
        ∀ credential, user.Holds credential → ∃ attaching ∈ calls ++ [call],
          attaching.Attaches user.id credential ∧
            (attaching = origin ∨ attaching.Proves (calls ++ [call]) user.id email) := by
  intro email addressed
  rw [kept] at addressed
  obtain ⟨origin, included, stores, attached⟩ := accounted.owned email addressed
  rw [← same] at stores attached
  refine ⟨origin, List.mem_append_left _ included, stores, fun credential holds => ?_⟩
  by_cases held : loaded.Holds credential
  · obtain ⟨attaching, earlier, attaches, proves⟩ := attached credential held
    exact ⟨attaching, List.mem_append_left _ earlier, attaches,
      proves.imp_right (·.mono (List.subset_append_left _ _))⟩
  · refine ⟨call, List.mem_append_right _ (List.mem_singleton.mpr rfl), ⟨?_, user, present, rfl,
      holds⟩, .inr (proved credential holds held email addressed)⟩
    intro other inside equal
    rwa [distinct.unique inside member (equal.trans same)]

/-- A call that puts an email on an account without credentials is its origin,
and attached all it holds. -/
theorem owned_of_origin (present : user ∈ call.left)
    (bare : ∀ other ∈ call.before.users, other.id = user.id →
      other.email = none ∧ ∀ credential, ¬other.Holds credential) :
    ∀ email, user.email = some email → ∃ origin ∈ calls ++ [call],
      origin.StoresEmail user.id email ∧
        ∀ credential, user.Holds credential → ∃ attaching ∈ calls ++ [call],
          attaching.Attaches user.id credential ∧
            (attaching = origin ∨ attaching.Proves (calls ++ [call]) user.id email) := by
  intro email addressed
  have last : call ∈ calls ++ [call] := List.mem_append_right _ (List.mem_singleton.mpr rfl)
  refine ⟨call, last, ⟨fun other inside equal => ?_, user, present, rfl, addressed⟩,
    fun credential holds => ⟨call, last, ⟨fun other inside equal => (bare other inside equal).2
      credential, user, present, rfl, holds⟩, .inl rfl⟩⟩
  rw [(bare other inside equal).1]
  exact (Option.some_ne_none _).symm

end Accounted

/-- However a call ends, the credentials and the email of each record are accounted for by
the calls so far. -/
theorem Ends.accounted {calls : List (Call Principal)} {call : Call Principal}
    {operation : UserOperation} {store : Backend} {users : List User}
    {outcome : Except ServiceError Answer} (ends : Ends operation store users outcome)
    (operated : call.operation = operation) (met : call.before = store)
    (left : call.left = users) (distinct : DistinctIds store)
    (accounted : ∀ user ∈ store.users, Accounted calls user) :
    ∀ user ∈ users, Accounted (calls ++ [call]) user := by
  have last : call ∈ calls ++ [call] := List.mem_append_right _ (List.mem_singleton.mpr rfl)
  have old : ∀ user ∈ store.users, Accounted (calls ++ [call]) user := fun user member =>
    (accounted user member).mono (List.subset_append_left _ _)
  have rewriting : ∀ {loaded current : User}, loaded ∈ store.users →
      (∀ user ∈ rewritten store loaded current, user =
        { current with id := loaded.id, createdAt := loaded.createdAt, updatedAt := store.clock } →
        Accounted (calls ++ [call]) user) →
      ∀ user ∈ rewritten store loaded current, Accounted (calls ++ [call]) user := by
    intro loaded current member copy user present
    rcases mem_rewritten distinct member present with kept | same
    · exact old user kept
    · exact copy user present same
  subst met
  cases ends with
  | created =>
      intro user member
      rcases List.mem_append.mp member with kept | fresh
      · exact old user kept
      · rw [List.mem_singleton.mp fresh]
        exact accounted_of_unaddressed rfl fun _ => ⟨not_holds_of_bare rfl rfl, rfl⟩
  | upgraded _ _ stored _ anonymous credentials =>
      have member := fetch_some_mem stored
      obtain ⟨unaddressed, bare, unrequested⟩ := (accounted _ member).anonymous anonymous
      refine rewriting member ?_
      rintro user present rfl
      rw [← left] at present
      refine ⟨fun anonymous => ?_, owned_of_origin present fun other inside same => ?_,
        fun _ _ _ token => ?_⟩
      · cases anonymous
      · rw [distinct.unique inside member same]
        exact ⟨unaddressed, bare⟩
      · cases (credentials.resetPasswordToken.trans unrequested).symm.trans token
  | @oauthMerged _ _ email _ _ _ attested found =>
      have member := List.mem_of_find?_eq_some found
      have accepted := UserFilter.accepts_byEmailLive.mp (List.find?_some found)
      refine rewriting member ?_
      rintro user present rfl
      rw [← left] at present
      refine ⟨fun anonymous => ?_, (accounted _ member).owned_of_rewrite distinct member present rfl
        rfl fun _ _ _ email' addressed => ?_, (old _ member).requested⟩
      · cases ((accounted _ member).anonymous anonymous).1.symm.trans accepted.1
      · cases accepted.1.symm.trans addressed
        exact .inl ⟨_, operated, attested⟩
  | oauthCreated _ _ _ fresh =>
      intro user member
      rcases List.mem_append.mp member with kept | added
      · exact old user kept
      · rw [← left] at member
        have same := List.mem_singleton.mp added
        refine ⟨fun anonymous => ?_, owned_of_origin member fun other inside equal => ?_,
          fun _ _ _ token => ?_⟩
        · rw [same] at anonymous
          cases anonymous
        · rw [same] at equal
          exact (fetch_eq_none.mp fresh other inside equal).elim
        · rw [same] at token
          cases token
  | @resetRequested email _ _ found =>
      have member := List.mem_of_find?_eq_some found
      have accepted := UserFilter.accepts_byEmailLive.mp (List.find?_some found)
      refine rewriting member ?_
      rintro user present rfl
      rw [← left] at present
      refine ⟨fun anonymous => ?_, (accounted _ member).owned_of_rewrite distinct member present rfl
        rfl fun credential holds lacks => ?_, fun email' tokenHash addressed stored => ?_⟩
      · cases ((accounted _ member).anonymous anonymous).1.symm.trans accepted.1
      · exact (lacks (holds.of_same rfl rfl)).elim
      · cases accepted.1.symm.trans addressed
        exact ⟨call, last, operated, Option.some.inj stored⟩
  | @passwordReset token newPassword _ loaded found =>
      have member := List.mem_of_find?_eq_some found
      have accepted := UserFilter.accepts_byResetTokenLive.mp (List.find?_some found)
      refine rewriting member ?_
      rintro user present rfl
      rw [← left] at present
      refine ⟨fun anonymous => ?_, (accounted _ member).owned_of_rewrite distinct member present rfl
        rfl fun _ _ _ email addressed => ?_, fun _ _ _ token => by cases token⟩
      · cases ((accounted _ member).anonymous anonymous).2.2.symm.trans accepted.1
      · obtain ⟨request, earlier, requested⟩ :=
          (old _ member).requested email _ addressed accepted.1
        exact .inr ⟨token, newPassword, operated, ⟨loaded, member, rfl, accepted.1⟩, request,
          earlier, requested⟩
  | profile _ stored =>
      have member := fetch_some_mem stored
      refine rewriting member ?_
      rintro user present rfl
      rw [← left] at present
      refine ⟨fun anonymous => ?_, (accounted _ member).owned_of_rewrite distinct member present rfl
        rfl fun credential holds lacks => ?_, (old _ member).requested⟩
      · obtain ⟨unaddressed, bare, unrequested⟩ := (accounted _ member).anonymous anonymous
        exact ⟨unaddressed, fun credential holds => bare credential (holds.of_same rfl rfl),
          unrequested⟩
      · exact (lacks (holds.of_same rfl rfl)).elim
  | deleted _ stored =>
      have member := fetch_some_mem stored
      refine rewriting member ?_
      rintro user - rfl
      refine accounted_of_unaddressed rfl fun anonymous => ⟨fun credential => ?_, rfl⟩
      have bare := ((accounted _ member).anonymous anonymous).2.1
      cases credential with
      | password passwordHash => exact fun holds => by cases holds
      | link provider providerUserId => exact bare (.link provider providerUserId)
  | _ => exact old

/-- Every account of every run is accounted for. -/
theorem Recorded.accounted {calls : List (Call Principal)} {store : Backend}
    (recorded : Recorded calls store) : ∀ user ∈ store.users, Accounted calls user := by
  induction recorded with
  | start => exact fun _ none => nomatch none
  | serve principal operation recorded ih =>
      exact (serve_ends operation _).accounted rfl rfl rfl
        (recorded.served.distinct List.nodup_nil) ih
  | environment event _ ih =>
      rw [(environment_frame event _).1]
      exact ih

/-! ## Merging by email -/

/-- Each call of a history met a store of the same run. -/
theorem Recorded.met {calls : List (Call Principal)} {store : Backend}
    (recorded : Recorded calls store) : ∀ call ∈ calls,
      ∃ earlier : List (Call Principal), Recorded earlier call.before := by
  induction recorded with
  | start => exact fun _ none => nomatch none
  | @serve calls store principal operation recorded ih =>
      intro call member
      rcases List.mem_append.mp member with earlier | last
      · exact ih call earlier
      · rw [List.mem_singleton.mp last]
        exact ⟨calls, recorded⟩
  | environment event _ ih => exact ih

/-- An email comes onto a record by one of the routes: it was attested, or it was taken
unproven. -/
theorem Call.StoresEmail.route {call : Call Principal} {id : ObjectId} {email : String}
    (stores : call.StoresEmail id email) (distinct : DistinctIds call.before)
    (present : email ≠ "") : call.Attests email ∨ call.TakesUnproven email := by
  obtain ⟨absent, user, member, same, addressed⟩ := stores
  have ends := serve_ends call.operation call.before
  change Ends _ _ call.left _ at ends
  generalize (serve call.operation call.before).2 = outcome at ends
  -- a rewritten account keeps its email or loses it
  have rewriting : ∀ {loaded current : User}, user ∈ rewritten call.before loaded current →
      loaded ∈ call.before.users →
      (∀ kept, current.email = some kept → loaded.email = some kept) → False := by
    intro loaded current present inside kept
    rcases mem_rewritten distinct inside present with old | rfl
    · exact absent user old same addressed
    · exact absent loaded inside same (kept email addressed)
  generalize operated : call.operation = operation at ends
  generalize call.left = users at ends member
  generalize met : call.before = store at ends absent distinct rewriting
  cases ends with
  | created =>
      rcases List.mem_append.mp member with old | fresh
      · exact (absent user old same addressed).elim
      · rw [List.mem_singleton.mp fresh] at addressed
        cases addressed
  | upgraded => exact .inr (.inl ⟨_, _, operated⟩)
  | oauthMerged _ _ _ found =>
      exact (rewriting member (List.mem_of_find?_eq_some found) fun _ kept => kept).elim
  | @oauthCreated payload =>
      rcases List.mem_append.mp member with old | fresh
      · exact (absent user old same addressed).elim
      · rw [List.mem_singleton.mp fresh] at addressed
        change payload.email = some email at addressed
        by_cases verified : payload.emailVerified = some true
        · refine .inl ⟨payload, operated, ?_⟩
          simp only [OAuthPayload.mergeEmail, verified, ↓reduceIte, addressed, truthy,
            Option.filter_some, ne_eq, present, not_false_eq_true, decide_true]
        · exact .inr (.inr ⟨payload, operated, addressed, verified⟩)
  | resetRequested found =>
      exact (rewriting member (List.mem_of_find?_eq_some found) fun _ kept => kept).elim
  | passwordReset found =>
      exact (rewriting member (List.mem_of_find?_eq_some found) fun _ kept => kept).elim
  | profile _ stored =>
      exact (rewriting member (fetch_some_mem stored) fun _ kept => kept).elim
  | deleted _ stored =>
      exact (rewriting member (fetch_some_mem stored) fun _ kept => by cases kept).elim
  | _ => exact (absent user member same addressed).elim

/-- A link is added to a stored account only by an attested email equal to the
account's own, and nothing else changes hands. -/
theorem LinksInto.attested {payload : OAuthPayload} {store : Backend} {user version : User}
    (links : LinksInto payload store user version) (distinct : DistinctIds store) :
    ∃ email, payload.mergeEmail = some email ∧ user.email = some email ∧
      ∀ credential, version.Holds credential →
        user.Holds credential ∨ credential = .link payload.provider payload.providerUserId := by
  obtain ⟨member, present, same, added⟩ := links
  have ends := serve_ends (.findOrCreateOAuthUser payload) store
  have unchanged : version ∉ store.users := fun old =>
    added (congrArg User.oauthLinks (distinct.unique old member same))
  generalize (serve (.findOrCreateOAuthUser payload) store).1.users = users at ends present
  generalize (serve (.findOrCreateOAuthUser payload) store).2 = outcome at ends
  cases ends with
  | oauthMerged _ _ attested found =>
      have accepted := UserFilter.accepts_byEmailLive.mp (List.find?_some found)
      rcases mem_rewritten distinct (List.mem_of_find?_eq_some found) present with old | rfl
      · exact (unchanged old).elim
      · obtain rfl := distinct.unique member (List.mem_of_find?_eq_some found) same.symm
        refine ⟨_, attested, accepted.1, fun credential holds => ?_⟩
        cases credential with
        | password passwordHash => exact .inl holds
        | link provider providerUserId =>
            change List.any (_ ++ _) _ = true at holds
            simp only [List.any_append, List.any_cons, List.any_nil, Bool.or_false,
              Bool.or_eq_true, decide_eq_true_eq] at holds
            rcases holds with old | ⟨rfl, rfl⟩
            · exact .inl old
            · exact .inr rfl
  | oauthCreated _ _ _ fresh =>
      rcases List.mem_append.mp present with old | new
      · exact (unchanged old).elim
      · rw [List.mem_singleton.mp new] at same
        exact (fetch_eq_none.mp fresh user member same.symm).elim
  | _ => exact (unchanged present).elim

/-- Whenever a provider identity is linked into a stored account, the provider
attested the account's own email; that email was attested when it was stored or
taken unproven; and each password or link on the account was attached by a call
that proved control of the email, or by the very call that stored it unproven. -/
theorem merge_accounted {calls : List (Call Principal)} {store : Backend}
    (recorded : Recorded calls store) {payload : OAuthPayload} {user version : User}
    (links : LinksInto payload store user version) :
    ∃ email, payload.mergeEmail = some email ∧ user.email = some email ∧
      ∃ origin ∈ calls, origin.StoresEmail user.id email ∧
        (origin.Attests email ∨ origin.TakesUnproven email) ∧
        ∀ credential, version.Holds credential →
          credential = .link payload.provider payload.providerUserId ∨
          ∃ call ∈ calls, call.Attaches user.id credential ∧
            (call.Proves calls user.id email ∨ call = origin ∧ origin.TakesUnproven email) := by
  have distinct := recorded.served.distinct List.nodup_nil
  obtain ⟨email, attested, addressed, holdings⟩ := links.attested distinct
  obtain ⟨origin, member, stores, attached⟩ :=
    (recorded.accounted user links.1).owned email addressed
  have truthful : email ≠ "" := by
    unfold OAuthPayload.mergeEmail truthy at attested
    split at attested
    · exact of_decide_eq_true (Option.filter_eq_some_iff.mp attested).2
    · cases attested
  obtain ⟨earlier, met⟩ := recorded.met origin member
  have route := stores.route (met.served.distinct List.nodup_nil) truthful
  refine ⟨email, attested, addressed, origin, member, stores, route, fun credential holds => ?_⟩
  rcases holdings credential holds with held | new
  · obtain ⟨call, included, attaches, rfl | proves⟩ := attached credential held
    · exact .inr ⟨call, included, attaches, route.imp .inl fun unproven => ⟨rfl, unproven⟩⟩
    · exact .inr ⟨call, included, attaches, .inl proves⟩
  · exact .inl new

/-- No account pre-hijacking: an account that is merged into by email had its
email proven before, and all who can enter it have proved control of that email. -/
def NoPreHijack (Principal : Type) : Prop :=
  ∀ (calls : List (Call Principal)) (store : Backend), Recorded calls store →
    ∀ (principal : Principal) payload user version email,
      LinksInto payload store user version → user.email = some email →
      EmailProven calls user.id email ∧
        ∀ credential, user.Holds credential → ∃ call ∈ calls, call.Attaches user.id credential ∧
          HasProved (calls ++ [⟨principal, .findOrCreateOAuthUser payload, store⟩])
            call.principal email

end Law

/-! ## A planted email -/

section Planted

open scoped Plain

/-- Two principals: one who upgrades an anonymous account with the other's email,
and the owner of that email. -/
inductive Party where
  | intruder
  | owner

def intrudersUpgrade : UpgradePayload where
  method := .email
  email := some "owner@mail"
  password := some "secret"

/-- The owner's provider identity, whose email the provider attests. -/
def ownersIdentity : OAuthPayload where
  provider := .vk
  providerUserId := "owner"
  email := some "owner@mail"
  emailVerified := some true

/-- The intruder's anonymous account. -/
def registered : Backend := (serve (.createAutoregUser { fingerprint := "f" }) {}).1

/-- The intruder's account once it carries the owner's email. -/
def planted : Backend :=
  (serve (.upgradeAccount (ObjectIds.toHexString 0) intrudersUpgrade) registered).1

def plantedCalls : List (Call Party) :=
  [⟨.intruder, .createAutoregUser { fingerprint := "f" }, {}⟩,
    ⟨.intruder, .upgradeAccount (ObjectIds.toHexString 0) intrudersUpgrade, registered⟩]

/-- The calls that plant the email lead to the store of the example. -/
theorem planted_recorded : Recorded plantedCalls planted :=
  .serve Party.intruder (.upgradeAccount (ObjectIds.toHexString 0) intrudersUpgrade)
    (.serve Party.intruder (.createAutoregUser { fingerprint := "f" }) .start)

/-- The intruder's user document. -/
def plantedUser : User :=
  upgraded (withPassword (autoregUser 0 0) "owner@mail" (Libraries.argon2Hash 0 "secret"))
    intrudersUpgrade 0

/-- The owner's first login by provider lands in the intruder's account. -/
theorem planted_links :
    LinksInto ownersIdentity planted plantedUser (merged plantedUser ownersIdentity 0) :=
  ⟨List.mem_of_getElem? (i := 0) rfl, List.mem_of_getElem? (i := 0) rfl, rfl, by decide⟩

/-- The premises are met by an account that took the email unproven: it is merged with the
owner's sign-in, and every credential it then holds is accounted for. -/
theorem merge_accounted_planted :
    ∃ email, ownersIdentity.mergeEmail = some email ∧ plantedUser.email = some email ∧
      ∃ origin ∈ plantedCalls, origin.StoresEmail plantedUser.id email ∧
        (origin.Attests email ∨ origin.TakesUnproven email) ∧
        ∀ credential, (merged plantedUser ownersIdentity 0).Holds credential →
          credential = .link ownersIdentity.provider ownersIdentity.providerUserId ∨
          ∃ call ∈ plantedCalls, call.Attaches plantedUser.id credential ∧
            (call.Proves plantedCalls plantedUser.id email ∨
              call = origin ∧ origin.TakesUnproven email) :=
  merge_accounted planted_recorded planted_links

/-- The merge asks nothing of the stored email: the intruder keeps a password on
the account the owner is logged into. -/
theorem not_noPreHijack_of_plantedEmail : ¬NoPreHijack Party := by
  intro safe
  obtain ⟨proven, _⟩ := safe plantedCalls planted planted_recorded .owner ownersIdentity
    plantedUser _ "owner@mail" planted_links rfl
  rcases proven with ⟨origin, member, _, payload, operated, _⟩ |
    ⟨reset, member, token, newPassword, operated, _⟩
  · rcases List.mem_pair.mp member with rfl | rfl <;> cases operated
  · rcases List.mem_pair.mp member with rfl | rfl <;> cases operated

end Planted

end NestMonorepo
