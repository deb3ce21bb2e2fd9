import NestMonorepo.Users.DrawnIds
import NestMonorepo.Users.Ownership

/-! # The first sign-in of an identity

An email that the provider does not vouch for merges nothing, so the identity
gets an account of its own. The account is stored with that very email, which
the unique index refuses if any other account has it.
-/

namespace NestMonorepo

open Collections Concurrency Handler UsersService

section Law

variable [Libraries] {store : Backend} {payload : OAuthPayload}

/-- The sign-in creates an account and, repeated with any unattested email, answers
that account again. -/
def SignsIn (store : Backend) (payload : OAuthPayload) : Prop :=
  ∃ user, (∀ old ∈ store.users, old.id ≠ user.id) ∧
    (serve (.findOrCreateOAuthUser payload) store).1.users = store.users ++ [user] ∧
    (serve (.findOrCreateOAuthUser payload) store).2 = .ok (.identity user.identity) ∧
    ∀ again : OAuthPayload, again.provider = payload.provider →
      again.providerUserId = payload.providerUserId → again.mergeEmail = none →
      (serve (.findOrCreateOAuthUser again)
        (serve (.findOrCreateOAuthUser payload) store).1).2 = .ok (.identity user.identity)

/-- Some stored account, deleted or not, has the email; the empty one counts. -/
def EmailInUse (store : Backend) (email : Option String) : Prop :=
  ∃ value, email = some value ∧ ∃ user ∈ store.users, user.email = some value

omit [Libraries] in
/-- For an id that is still to be drawn an email is taken exactly when some stored user uses
it. -/
theorem emailTaken_of_drawn (ids : ∀ user ∈ store.users, user.id < store.nextObjectId)
    (email : Option String) :
    emailTaken store.users store.nextObjectId email = true ↔ EmailInUse store email := by
  cases email with
  | none =>
      constructor
      · intro taken
        cases taken
      · intro inUse
        obtain ⟨value, same, -⟩ := inUse
        cases same
  | some value =>
      simp only [emailTaken, Option.isSome_some, Bool.true_and, List.any_eq_true,
        decide_eq_true_eq]
      constructor
      · intro taken
        obtain ⟨user, member, -, same⟩ := taken
        exact ⟨value, rfl, user, member, same⟩
      · intro inUse
        obtain ⟨other, named, user, member, same⟩ := inUse
        cases named
        exact ⟨user, member, (ids user member).ne, same⟩

/-! ## Step 3 -/

omit [Libraries] in
/-- Where no live user holds the identity, the lookup by link finds nobody. -/
theorem find?_link_eq_none {provider : OAuthProvider} {providerUserId : String}
    (unheld : ¬HeldLive store provider providerUserId) :
    store.users.find? (UserFilter.byLinkLive provider providerUserId).accepts = none := by
  rw [List.find?_eq_none]
  intro user member accepted
  exact unheld ⟨user, member, UserFilter.accepts_byLinkLive.mp accepted⟩

omit [Libraries] in
/-- An id that is not drawn yet and a free email violate no index. -/
theorem violation_oauthUser (ids : ∀ user ∈ store.users, user.id < store.nextObjectId)
    (free : ¬EmailInUse store payload.email) (createdAt : Millis) :
    Backend.violation { store with nextObjectId := store.nextObjectId + 1 }
      (.insertUser (oauthUser payload store.nextObjectId createdAt)) = none := by
  have fresh : fetch User.id store.nextObjectId store.users = none :=
    fetch_eq_none.mpr fun user member => (ids user member).ne
  have untaken : emailTaken store.users store.nextObjectId payload.email = false :=
    eq_false_of_ne_true fun taken => free ((emailTaken_of_drawn ids _).mp taken)
  simp only [Backend.violation, oauthUser, fresh, untaken, Option.isSome_none,
    Bool.false_eq_true, ↓reduceIte]

/-- The store once the identity has its account. -/
def withOAuthUser (store : Backend) (payload : OAuthPayload) : Backend :=
  { store with
    nextObjectId := store.nextObjectId + 1
    users := store.users ++ [oauthUser payload store.nextObjectId store.clock] }

/-- Nothing stands in the way of the insert. -/
theorem serve_created (ids : ∀ user ∈ store.users, user.id < store.nextObjectId)
    (up : store.databaseUp = true)
    (unheld : ¬HeldLive store payload.provider payload.providerUserId)
    (unattested : payload.mergeEmail = none) (free : ¬EmailInUse store payload.email) :
    serve (.findOrCreateOAuthUser payload) store = (withOAuthUser store payload,
      .ok (.identity (oauthUser payload store.nextObjectId store.clock).identity)) := by
  have created : (createOAuthUser payload).runIn store = (withOAuthUser store payload,
      .ok (oauthUser payload store.nextObjectId store.clock).identity) := by
    rw [createOAuthUser, runIn_now, runIn_newObjectId]
    exact runIn_flushEmail_of_clean _ up (violation_oauthUser ids free store.clock)
  have signedIn : (UsersService.findOrCreateOAuthUser payload).runIn store =
      (withOAuthUser store payload,
        .ok (oauthUser payload store.nextObjectId store.clock).identity) := by
    rw [UsersService.findOrCreateOAuthUser, runIn_findUser up, find?_link_eq_none unheld]
    simp only [unattested]
    exact created
  rw [serve, UsersController.handle, runIn_bind_of_ok signedIn]
  rfl

/-- From then on step 1 finds the account. -/
theorem serve_known {again : OAuthPayload} (up : store.databaseUp = true)
    (unheld : ¬HeldLive store payload.provider payload.providerUserId)
    (provider : again.provider = payload.provider)
    (providerUserId : again.providerUserId = payload.providerUserId) :
    (serve (.findOrCreateOAuthUser again) (withOAuthUser store payload)).2 =
      .ok (.identity (oauthUser payload store.nextObjectId store.clock).identity) := by
  have found : (withOAuthUser store payload).users.find?
      (UserFilter.byLinkLive again.provider again.providerUserId).accepts =
        some (oauthUser payload store.nextObjectId store.clock) := by
    have accepted : (UserFilter.byLinkLive payload.provider payload.providerUserId).accepts
        (oauthUser payload store.nextObjectId store.clock) = true := by
      simp only [UserFilter.accepts, User.hasLink, oauthUser, List.any_cons, List.any_nil,
        and_self, decide_true, Bool.or_false, Bool.true_and, User.Live]
    rw [provider, providerUserId, withOAuthUser, List.find?_append, find?_link_eq_none unheld,
      Option.none_or, List.find?_cons, accepted]
  have answers : (withOAuthUser store payload).databaseUp = true := up
  rw [serve, UsersController.handle, UsersService.findOrCreateOAuthUser, Program.bind_assoc,
    runIn_findUser answers, found]
  rfl

/-- A sign-in that creates an account was answered by the database and met no
account with its email. -/
theorem free_of_created (ids : ∀ user ∈ store.users, user.id < store.nextObjectId)
    (unheld : ¬HeldLive store payload.provider payload.providerUserId)
    (unattested : payload.mergeEmail = none) {result : IdentityResult}
    (answered : (serve (.findOrCreateOAuthUser payload) store).2 = .ok (.identity result)) :
    store.databaseUp = true ∧ ¬EmailInUse store payload.email := by
  have ends := serve_ends (.findOrCreateOAuthUser payload) store
  rw [answered] at ends
  generalize (serve (.findOrCreateOAuthUser payload) store).1.users = users at ends
  cases ends with
  | silent unissued => cases unissued
  | oauthKnown up found =>
      rw [find?_link_eq_none unheld] at found
      cases found
  | oauthMerged _ _ attested =>
      rw [unattested] at attested
      cases attested
  | oauthCreated up _ _ _ free =>
      refine ⟨up, fun inUse => ?_⟩
      rw [(emailTaken_of_drawn ids _).mpr inUse] at free
      cases free

/-! ## Every reachable store -/

/-- Every identity that no account has, deleted or not, signs in whatever
unattested email comes with it. -/
def AlwaysSignsIn : Prop :=
  ∀ pool : ServicePool, userService.Reaches (fun _ _ => True) ⟨{}, []⟩ pool →
    pool.shared.databaseUp = true → ∀ payload : OAuthPayload,
      ¬Held pool.shared payload.provider payload.providerUserId → payload.mergeEmail = none →
        SignsIn pool.shared payload

/-- A sign-in with an identity that nobody holds and an unattested email is answered with an
account exactly if the database answers and no account, deleted or not, has the email. -/
theorem signsIn_iff {pool : ServicePool}
    (reached : userService.Reaches (fun _ _ => True) ⟨{}, []⟩ pool)
    (unheld : ¬HeldLive pool.shared payload.provider payload.providerUserId)
    (unattested : payload.mergeEmail = none) :
    SignsIn pool.shared payload ↔
      pool.shared.databaseUp = true ∧ ¬EmailInUse pool.shared payload.email := by
  have ids := ids_drawn (fun _ stored => (List.not_mem_nil stored).elim) reached
  constructor
  · intro signsIn
    obtain ⟨user, -, -, answered, -⟩ := signsIn
    exact free_of_created ids unheld unattested answered
  · intro conditions
    obtain ⟨up, free⟩ := conditions
    have created := serve_created ids up unheld unattested free
    refine ⟨oauthUser payload pool.shared.nextObjectId pool.shared.clock,
      fun old member => (ids old member).ne, congrArg (·.1.users) created,
      congrArg (·.2) created, fun again provider providerUserId _ => ?_⟩
    rw [created]
    exact serve_known up unheld provider providerUserId

end Law

/-! ## Two identities, one email -/

section SharedEmail

open scoped Plain

/-- An identity whose account is to have the email `email`. -/
def newcomer (providerUserId email : String) : OAuthPayload :=
  { provider := .vk, providerUserId, email := some email }

/-- The service once a first identity has signed in. -/
def afterNewcomer : ServicePool :=
  userService.schedule ⟨{}, []⟩ (.spawn (.findOrCreateOAuthUser (newcomer "1" "a@example.org")) ::
    List.replicate 6 (.step 0))

/-- Nobody holds the second identity. -/
theorem not_held_afterNewcomer : ¬Held afterNewcomer.shared .vk "2" := by
  intro held
  obtain ⟨user, member, linked⟩ := held
  have unlinked : ∀ user ∈ afterNewcomer.shared.users, user.hasLink .vk "2" = false := by decide
  rw [unlinked user member] at linked
  cases linked

/-- The premises are met by a second newcomer, who signs in exactly when the database
answers and the email is not in use. -/
theorem signsIn_iff_afterNewcomer :
    SignsIn afterNewcomer.shared (newcomer "2" "b@example.org") ↔
      afterNewcomer.shared.databaseUp = true ∧
        ¬EmailInUse afterNewcomer.shared (newcomer "2" "b@example.org").email :=
  signsIn_iff (.of_schedule _) (fun live => not_held_afterNewcomer (by
    obtain ⟨user, member, linked, -⟩ := live
    exact ⟨user, member, linked⟩)) rfl

/-- Two identities of one provider have the same email, unattested. The first gets an
account, and the second is refused for good. -/
theorem not_alwaysSignsIn_of_sharedEmail : ¬AlwaysSignsIn := by
  intro always
  obtain ⟨user, -, -, answered, -⟩ := always afterNewcomer (.of_schedule _) rfl
    (newcomer "2" "a@example.org") not_held_afterNewcomer rfl
  have refused : (serve (.findOrCreateOAuthUser (newcomer "2" "a@example.org"))
      afterNewcomer.shared).2 = .error (.microservice emailTakenException) := rfl
  rw [refused] at answered
  cases answered

end SharedEmail

end NestMonorepo
