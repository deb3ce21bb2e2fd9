import NestMonorepo.Users.Anonymous
import NestMonorepo.Users.Issuing

/-! # Who owns an OAuth identity

An upgrade refuses an identity that any other account carries, a login goes on
with the live account that carries it. The two lookups differ in the filter
`deletedAt: null`, which only the second one has.
-/

namespace NestMonorepo

open Collections Concurrency Handler UsersService

section Law

variable [Libraries]

/-! ## The two answers -/

/-- The upgrade of the account by the identity. -/
def upgradeWith (provider : OAuthProvider) (providerUserId : String) (rest : UpgradePayload) :
    UpgradePayload :=
  { rest with method := .oauth provider, providerUserId := some providerUserId }

/-- The login with the identity and without an email. -/
def loginWith (provider : OAuthProvider) (providerUserId : String) (rest : OAuthPayload) :
    OAuthPayload :=
  { rest with provider, providerUserId, email := none }

/-- The upgrade is refused because another account has the identity. -/
def RefusedAsOwned (store : Backend) (userId : String) (payload : UpgradePayload) : Prop :=
  ∃ owner, (serve (.upgradeAccount userId payload) store).2 =
    .error (.microservice (oauthCollision owner))

/-- The login returns an account that was there before. -/
def ReturnsExisting (store : Backend) (payload : OAuthPayload) : Prop :=
  ∃ result, (serve (.findOrCreateOAuthUser payload) store).2 = .ok (.identity result) ∧
    ∃ user ∈ store.users, Libraries.ofHexString result.id = some user.id

/-- Both paths agree on whether the identity has an owner. -/
def AgreeOnOwner (store : Backend) (userId : String) (provider : OAuthProvider)
    (providerUserId : String) : Prop :=
  ∀ upgrade login, RefusedAsOwned store userId (upgradeWith provider providerUserId upgrade) ↔
    ReturnsExisting store (loginWith provider providerUserId login)

/-- Some account carries the identity, deleted or not. -/
def Held (store : Backend) (provider : OAuthProvider) (providerUserId : String) : Prop :=
  ∃ user ∈ store.users, user.hasLink provider providerUserId = true

/-- Some live account does. -/
def HeldLive (store : Backend) (provider : OAuthProvider) (providerUserId : String) : Prop :=
  ∃ user ∈ store.users, user.hasLink provider providerUserId = true ∧ user.Live

section Answers

variable {store : Backend} {provider : OAuthProvider} {providerUserId userId : String}

/-- A login without an email returns an existing account exactly if a live one has
the identity. -/
theorem returnsExisting_iff (payload : OAuthPayload) :
    ReturnsExisting store (loginWith provider providerUserId payload) ↔
      store.databaseUp = true ∧ HeldLive store provider providerUserId := by
  have ends := serve_ends (.findOrCreateOAuthUser (loginWith provider providerUserId payload)) store
  constructor
  · rintro ⟨result, answered, user, member, parsed⟩
    rw [answered] at ends
    generalize (serve (.findOrCreateOAuthUser (loginWith provider providerUserId payload))
      store).1.users = users at ends
    cases ends with
    | silent unissued => cases unissued
    | oauthKnown up found =>
        have accepted := UserFilter.accepts_byLinkLive.mp (List.find?_some found)
        exact ⟨up, _, List.mem_of_find?_eq_some found, accepted.1, accepted.2⟩
    | oauthMerged _ _ attested =>
        rw [OAuthPayload.mergeEmail] at attested
        split at attested <;> cases attested
    | oauthCreated _ _ _ fresh =>
        rw [User.identity, User.hexId, Libraries.ofHexString_toHexString] at parsed
        exact (fetch_eq_none.mp fresh user member (Option.some.inj parsed).symm).elim
  · rintro ⟨up, user, member, linked, live⟩
    have accepted := UserFilter.accepts_byLinkLive.mpr ⟨linked, live⟩
    obtain ⟨owner, found⟩ := Option.isSome_iff_exists.mp
      (List.find?_isSome.mpr ⟨user, member, accepted⟩)
    refine ⟨owner.identity, ?_, owner, List.mem_of_find?_eq_some found,
      Libraries.ofHexString_toHexString _⟩
    rw [serve, UsersController.handle, UsersService.findOrCreateOAuthUser, Program.bind_assoc,
      runIn_findUser up]
    simp only [loginWith, found]
    rfl

/-- An error that names no owner. -/
def NamesNoOwner (error : ServiceError) : Prop :=
  ∀ owner, error ≠ .microservice (oauthCollision owner)

omit [Libraries] in
/-- An error of the database names no owner of an identity. -/
theorem namesNoOwner_mongo (error : MongoError) : NamesNoOwner (.mongo error) := fun _ => nofun

omit [Libraries] in
/-- Nor does an exception with another code than the collision's. -/
theorem namesNoOwner_of_code {exception : MicroserviceException}
    (other : exception.code ≠ "oauth_collision") : NamesNoOwner (.microservice exception) := by
  rintro owner same
  cases same
  exact other rfl

omit [Libraries] in
/-- Nothing that a flush with the email guard throws names an owner. -/
theorem flushEmail_namesNoOwner (writes : List Write) :
    (flushEmail writes).Throws NamesNoOwner := by
  unfold flushEmail
  refine (flush_throws namesNoOwner_mongo writes).attempt_bind (fun _ => trivial) ?_
  intro error named
  cases error with
  | mongo error =>
      simp only
      split
      · exact namesNoOwner_of_code (by decide)
      · exact namesNoOwner_mongo error
  | _ => exact named

omit [Libraries] in
/-- Past the lookup of the identity, an upgrade no longer refuses it. -/
theorem upgrade_namesNoOwner (user current : User) (payload : UpgradePayload) :
    (now >>= fun upgradedAt =>
      flushEmail (user.update (upgraded current payload upgradedAt)) >>= fun updatedAt =>
      nativeDeleteDevices (.byUserId user.id) >>= fun _ =>
        (pure (.upgraded { upgraded current payload upgradedAt with updatedAt }) :
          Handler Answer)).Throws NamesNoOwner := by
  apply Program.Throws.bind (Program.throws_perform _)
  intro upgradedAt
  apply Program.Throws.bind (flushEmail_namesNoOwner _)
  intro updatedAt
  exact (nativeDeleteDevices_throws namesNoOwner_mongo _).bind fun _ => trivial

/-- A user that carries no links and a holder of an identity are two. -/
theorem hexId_ne_of_bare {user holder : User} (bare : user.oauthLinks = [])
    (parsed : Libraries.ofHexString userId = some user.id) (distinct : DistinctIds store)
    (member : user ∈ store.users) (held : holder ∈ store.users)
    (linked : holder.hasLink provider providerUserId = true) : holder.hexId ≠ userId := by
  rintro rfl
  rw [User.hexId, Libraries.ofHexString_toHexString] at parsed
  rw [distinct.unique held member (Option.some.inj parsed), User.hasLink, bare] at linked
  cases linked

/-- An identity that another account carries ends the upgrade. -/
theorem upgradeCredentials_held {user holder : User} {payload : UpgradePayload}
    {next : User → Handler Answer} (up : store.databaseUp = true)
    (method : payload.method = .oauth provider)
    (identity : truthy payload.providerUserId = some providerUserId)
    (found : store.users.find? (UserFilter.byLink provider providerUserId).accepts = some holder)
    (other : holder.hexId ≠ userId) :
    (upgradeCredentials userId user payload >>= next).runIn store =
      (store, .error (.microservice (oauthCollision holder.hexId))) := by
  rw [upgradeCredentials, method]
  simp only [identity, Program.bind_assoc]
  rw [runIn_findUser up, found]
  simp only [other, ne_eq, not_false_eq_true, ↓reduceIte]
  rfl

/-- An identity that no account carries is attached. -/
theorem upgradeCredentials_unheld {user : User} {payload : UpgradePayload}
    {next : User → Handler Answer} (up : store.databaseUp = true)
    (method : payload.method = .oauth provider)
    (identity : truthy payload.providerUserId = some providerUserId)
    (found : store.users.find? (UserFilter.byLink provider providerUserId).accepts = none) :
    (upgradeCredentials userId user payload >>= next).runIn store =
      (next (withLink user provider providerUserId payload.email store.clock)).runIn store := by
  rw [upgradeCredentials, method]
  simp only [identity, Program.bind_assoc]
  rw [runIn_findUser up, found]
  rfl

/-- An upgrade of an anonymous account by an identity is refused exactly if the
account is live and some account, in whatever state, carries the identity. -/
theorem refusedAsOwned_iff (payload : UpgradePayload) (up : store.databaseUp = true)
    (distinct : DistinctIds store) {user : User} (member : user ∈ store.users)
    (anonymous : user.accountType = .autoreg) (bare : user.oauthLinks = [])
    (parsed : Libraries.ofHexString userId = some user.id) :
    RefusedAsOwned store userId (upgradeWith provider providerUserId payload) ↔
      (user.Live ∧ providerUserId ≠ "") ∧ Held store provider providerUserId := by
  have stored : fetch User.id user.id store.users = some user := fetch_of_mem distinct member
  simp only [RefusedAsOwned, serve, UsersController.handle, UsersService.upgradeAccount,
    Program.bind_assoc]
  by_cases live : user.Live
  swap
  · have gone : (findById userId).runIn store = (store, .error (.microservice userNotFound)) := by
      have found : store.users.find? (UserFilter.byId user.id).accepts = some user := stored
      simp only [findById, parsed, runIn_findUser up, found,
        Option.isSome_iff_ne_none.mpr live, ↓reduceIte, runIn_throw]
    rw [runIn_bind_of_error gone]
    constructor
    · rintro ⟨owner, same⟩
      exact (namesNoOwner_of_code (by decide) owner (Except.error.inj same)).elim
    · rintro ⟨⟨alive, -⟩, -⟩
      exact (live alive).elim
  rw [runIn_bind_of_ok (runIn_findById_of_live up parsed stored live)]
  simp only [anonymous, ne_eq, not_true_eq_false, ↓reduceIte, Program.bind_assoc]
  by_cases named : providerUserId = ""
  · subst named
    constructor
    · rintro ⟨owner, same⟩
      exact (namesNoOwner_of_code (by decide) owner (Except.error.inj same)).elim
    · rintro ⟨⟨-, nonempty⟩, -⟩
      exact (nonempty rfl).elim
  have identity : truthy (upgradeWith provider providerUserId payload).providerUserId =
      some providerUserId := truthy_eq_some.mpr ⟨rfl, named⟩
  cases found : store.users.find? (UserFilter.byLink provider providerUserId).accepts with
  | none =>
      rw [upgradeCredentials_unheld up rfl identity found]
      constructor
      · rintro ⟨owner, same⟩
        exact ((upgrade_namesNoOwner user _ _).run same owner rfl).elim
      · rintro ⟨-, holder, held, linked⟩
        exact (List.find?_eq_none.mp found holder held linked).elim
  | some holder =>
      have linked : (UserFilter.byLink provider providerUserId).accepts holder = true :=
        List.find?_some found
      have held := List.mem_of_find?_eq_some found
      have other := hexId_ne_of_bare bare parsed distinct member held linked
      rw [upgradeCredentials_held up rfl identity found other]
      exact ⟨fun _ => ⟨⟨live, named⟩, holder, held, linked⟩, fun _ => ⟨holder.hexId, rfl⟩⟩

/-- Without the database nothing is refused as owned. -/
theorem not_refusedAsOwned_of_down (payload : UpgradePayload) (down : store.databaseUp = false)
    {id : ObjectId} (parsed : Libraries.ofHexString userId = some id) :
    ¬RefusedAsOwned store userId payload := by
  rintro ⟨owner, same⟩
  have gone : (findById userId).runIn store = (store, .error (.mongo unavailableError)) := by
    rw [findById, parsed]
    exact runIn_findUser_down down _ _
  simp only [serve, UsersController.handle, UsersService.upgradeAccount, Program.bind_assoc,
    runIn_bind_of_error gone] at same
  cases same

end Answers

/-! ## Every reachable state -/

/-- In every state of the service, whatever overlaps, both paths agree on every
identity for every anonymous account. -/
def OwnersAgree : Prop :=
  ∀ pool : ServicePool, userService.Reaches (fun _ _ => True) ⟨{}, []⟩ pool →
    ∀ user ∈ pool.shared.users, user.accountType = .autoreg →
      ∀ userId, Libraries.ofHexString userId = some user.id →
        ∀ provider providerUserId, AgreeOnOwner pool.shared userId provider providerUserId

/-- The paths agree, as long as the database answers, if the upgrading account is
live and the identity has a live holder or none at all, or if neither applies. -/
theorem agreeOnOwner_iff {pool : ServicePool}
    (reached : userService.Reaches (fun _ _ => True) ⟨{}, []⟩ pool) {user : User}
    (member : user ∈ pool.shared.users) (anonymous : user.accountType = .autoreg)
    {userId : String} (parsed : Libraries.ofHexString userId = some user.id)
    (provider : OAuthProvider) (providerUserId : String) :
    AgreeOnOwner pool.shared userId provider providerUserId ↔
      (pool.shared.databaseUp = true →
        if user.Live ∧ providerUserId ≠ "" then
          HeldLive pool.shared provider providerUserId ∨ ¬Held pool.shared provider providerUserId
        else ¬HeldLive pool.shared provider providerUserId) := by
  obtain ⟨distinct, bare⟩ := anonymous_bare reached
  have held : HeldLive pool.shared provider providerUserId →
      Held pool.shared provider providerUserId := by
    rintro ⟨holder, inside, linked, -⟩
    exact ⟨holder, inside, linked⟩
  cases up : pool.shared.databaseUp with
  | false =>
      refine ⟨fun _ => nofun, fun _ upgrade login => ?_⟩
      rw [returnsExisting_iff, up]
      exact ⟨fun refused => (not_refusedAsOwned_of_down _ up parsed refused).elim,
        fun returns => nomatch returns.1⟩
  | true =>
      have links := (bare user member anonymous).links
      have agree_iff : AgreeOnOwner pool.shared userId provider providerUserId ↔
          ((user.Live ∧ providerUserId ≠ "") ∧ Held pool.shared provider providerUserId ↔
            HeldLive pool.shared provider providerUserId) := by
        constructor
        · intro agree
          have same := agree { method := .email } { provider, providerUserId }
          rwa [refusedAsOwned_iff _ up distinct member anonymous links parsed,
            returnsExisting_iff, up, eq_self, true_and] at same
        · intro same upgrade login
          rwa [refusedAsOwned_iff _ up distinct member anonymous links parsed,
            returnsExisting_iff, up, eq_self, true_and]
      rw [agree_iff]
      by_cases upgradable : user.Live ∧ providerUserId ≠ ""
      · rw [if_pos upgradable]
        constructor
        · intro same _
          by_cases holder : Held pool.shared provider providerUserId
          · exact .inl (same.mp ⟨upgradable, holder⟩)
          · exact .inr holder
        · intro either
          rcases either rfl with live | unheld
          · exact ⟨fun _ => live, fun _ => ⟨upgradable, held live⟩⟩
          · exact ⟨fun refused => (unheld refused.2).elim, fun live => (unheld (held live)).elim⟩
      · rw [if_neg upgradable]
        constructor
        · intro same _ live
          exact upgradable (same.mpr live).1
        · intro unheld
          exact ⟨fun refused => (upgradable refused.1).elim, fun live => (unheld rfl live).elim⟩

end Law

/-! ## An identity whose holder is gone -/

section DeletedHolder

open scoped Plain

/-- A provider identity signs in and its account is deleted; then a device signs in. -/
def deletedHolder : List ServiceLabel :=
  [.spawn (.findOrCreateOAuthUser { provider := .google, providerUserId := "g" })] ++
    List.replicate 6 (.step 0) ++ [.spawn (.deleteUser (ObjectIds.toHexString 0))] ++
    List.replicate 9 (.step 1) ++ [.spawn (.createAutoregUser { fingerprint := "f" })] ++
    List.replicate 9 (.step 2)

/-- The service after these calls. -/
def afterDeletedHolder : ServicePool := userService.schedule ⟨{}, []⟩ deletedHolder

/-- The premises are met in the store of a run that has linked the identity, deleted its
holder and registered another user. -/
theorem agreeOnOwner_iff_afterDeletedHolder :
    AgreeOnOwner afterDeletedHolder.shared (ObjectIds.toHexString 2) .google "h" ↔
      (afterDeletedHolder.shared.databaseUp = true →
        if User.Live (afterDeletedHolder.shared.users.getLast (by decide)) ∧ "h" ≠ "" then
          HeldLive afterDeletedHolder.shared .google "h" ∨
            ¬Held afterDeletedHolder.shared .google "h"
        else ¬HeldLive afterDeletedHolder.shared .google "h") :=
  agreeOnOwner_iff (.of_schedule deletedHolder) (List.getLast_mem (by decide)) (by decide) rfl
    .google "h"

/-- The device's account cannot take the identity, which no account answers to any
more. -/
theorem not_ownersAgree_of_deletedHolder : ¬OwnersAgree := by
  intro agree
  have same := agree _ (.of_schedule deletedHolder) _ (List.mem_of_getElem? (i := 1) rfl) rfl
    (ObjectIds.toHexString 2) rfl .google "g" { method := .email }
    { provider := .google, providerUserId := "g" }
  obtain ⟨-, holder, member, linked, live⟩ :=
    (returnsExisting_iff _).mp (same.mp ⟨ObjectIds.toHexString 0, rfl⟩)
  have gone : ∀ holder ∈ afterDeletedHolder.shared.users,
      holder.hasLink .google "g" = true → ¬holder.Live := by decide
  exact gone holder member linked live

end DeletedHolder

end NestMonorepo
