import NestMonorepo.Users.Detached

/-! # Anonymous accounts

Until it is upgraded, an account has neither an email nor a way to be entered,
and its token version is zero as long as it lives. An upgrade ends this for good
and leaves a token version above zero, whatever it overlaps with.
-/

namespace NestMonorepo

open Collections Concurrency Handler UsersService

/-- What an anonymous account is without. -/
structure Bare (user : User) : Prop where
  email : user.email = none
  links : user.oauthLinks = []
  resetPasswordToken : user.resetPasswordToken = none
  retired : 0 < user.tokenVersion → ¬user.Live

/-- How the versions of an account follow each other. -/
structure Succeeds (before after : User) : Prop where
  full : before.accountType = .user → after.accountType = .user
  upgraded : before.accountType = .autoreg → after.accountType = .autoreg ∨ 0 < after.tokenVersion
  bumped : 0 < before.tokenVersion → 0 < after.tokenVersion
  deleted : ¬before.Live → ¬after.Live

namespace Succeeds

/-- A user succeeds themselves. -/
theorem refl (user : User) : Succeeds user user := ⟨id, .inl, id, id⟩

/-- A successor's successor is a successor. -/
theorem trans {first second third : User} (left : Succeeds first second)
    (right : Succeeds second third) : Succeeds first third where
  full of := right.full (left.full of)
  upgraded of := by
    rcases left.upgraded of with still | bumped
    · exact right.upgraded still
    · exact .inr (right.bumped bumped)
  bumped of := right.bumped (left.bumped of)
  deleted of := right.deleted (left.deleted of)

end Succeeds

/-- No anonymous account has anything to be entered with. -/
def AnonymousBare (store : Backend) : Prop :=
  ∀ user ∈ store.users, user.accountType = .autoreg → Bare user

section Law

variable [Libraries]

/-- Anonymous accounts stay bare and full accounts full. -/
def anonymity : ServiceContract where
  rely := Carried Succeeds
  refl _ := .of_users_eq Succeeds.refl rfl
  trans := Carried.trans Succeeds.trans
  keeps store := DistinctIds store ∧ AnonymousBare store
  permitted _ _ := True

/-! ## What a flush may do to an account -/

section Updates

variable {contract : ServiceContract} {operation : UserOperation} {read : Backend}
  {id : ObjectId} {changes : UserChanges} {after : Option Command}

/-- Token versions are only ever counted up. -/
theorem WriteOf.tokenVersion_ne_zero
    (issues : WriteOf contract operation read (.updateUser id changes) after) :
    changes.tokenVersion ≠ some 0 := by
  have counted : ∀ version : Nat, changed version (version + 1) ≠ some 0 := by
    intro version
    rw [changed_of_ne (Nat.succ_ne_self version).symm]
    exact fun zero => Nat.succ_ne_zero version (Option.some.inj zero)
  have kept : ∀ version : Nat, changed version version ≠ some 0 := by
    intro version
    rw [changed_self]
    exact nofun
  cases issues with
  | @upgrade _ _ _ _ loaded current upgradedAt _ _ _ _ credentials =>
      change changed loaded.tokenVersion (current.tokenVersion + 1) ≠ some 0
      rw [credentials.tokenVersion]
      exact counted _
  | reset => exact counted _
  | deletionStaged => exact counted _
  | deletionBeforeRow => exact counted _
  | _ => exact kept _

/-- Whoever makes an account a full one bumps its token version. -/
theorem WriteOf.tokenVersion_of_accountType
    (issues : WriteOf contract operation read (.updateUser id changes) after)
    (full : changes.accountType = some .user) : ∃ version, changes.tokenVersion = some version := by
  have kept : ∀ kind : AccountType, changed kind kind ≠ some .user := by
    intro kind
    rw [changed_self]
    exact nofun
  cases issues with
  | upgrade upgradedAt _ _ _ _ credentials =>
      refine ⟨_, changed_of_ne (?_ : _ ≠ _)⟩
      rw [← credentials.tokenVersion]
      exact (Nat.succ_ne_self _).symm
  | _ => exact (kept _ full).elim

/-- Every flush leaves a version that succeeds the stored one. Whether it changes the
account's type decides the cases. -/
theorem WriteOf.succeeds
    (issues : WriteOf contract operation read (.updateUser id changes) after) (user : User)
    (at_ : Millis) : Succeeds user (user.apply changes at_) where
  full full := by
    change changes.accountType.getD user.accountType = .user
    cases kind : changes.accountType with
    | none => exact full
    | some value =>
        cases value with
        | user => rfl
        | autoreg => exact (issues.accountType_ne_autoreg kind).elim
  upgraded anonymous := by
    change changes.accountType.getD user.accountType = .autoreg ∨
      0 < changes.tokenVersion.getD user.tokenVersion
    cases kind : changes.accountType with
    | none => exact .inl anonymous
    | some value =>
        cases value with
        | autoreg => exact .inl rfl
        | user =>
            obtain ⟨version, bumped⟩ := issues.tokenVersion_of_accountType kind
            refine .inr (Nat.pos_of_ne_zero fun zero => issues.tokenVersion_ne_zero ?_)
            rw [bumped] at zero ⊢
            exact congrArg some zero
  bumped positive := by
    change 0 < changes.tokenVersion.getD user.tokenVersion
    cases counted : changes.tokenVersion with
    | none => exact positive
    | some version =>
        refine Nat.pos_of_ne_zero fun zero => issues.tokenVersion_ne_zero ?_
        rw [counted]
        exact congrArg some zero
  deleted dead live := dead (User.live_of_apply issues.never_revives live).1

omit [Libraries] in
/-- A field that a deletion clears. -/
theorem getD_changed_none {α : Type} [DecidableEq α] (old : Option α) :
    (changed old none).getD none = none := by
  unfold changed
  split <;> rfl

omit [Libraries] in
/-- A deletion of a bare account leaves it bare. -/
theorem Bare.softDeleted {user loaded : User} (bare : Bare user) (live : loaded.Live)
    (deletedAt at_ : Millis) :
    Bare (user.apply (loaded.changes (UsersService.softDeleted loaded deletedAt)) at_) where
  email := by
    change (changed loaded.email none).getD user.email = none
    rw [bare.email, getD_changed_none]
  links := by
    change (changed loaded.oauthLinks loaded.oauthLinks).getD user.oauthLinks = []
    rw [changed_self, Option.getD_none, bare.links]
  resetPasswordToken := by
    change (changed loaded.resetPasswordToken none).getD user.resetPasswordToken = none
    rw [bare.resetPasswordToken, getD_changed_none]
  retired _ alive := by
    rw [User.Live, apply_softDeleted live] at alive
    cases alive

/-- An account that is anonymous after a flush was bare before it and is bare still: no
operation gives credentials to an account that it leaves anonymous. -/
theorem WriteOf.bare (issues : WriteOf anonymity operation read (.updateUser id changes) after)
    (kept : anonymity.keeps read) {user : User} (bare : user.accountType = .autoreg → Bare user)
    (succeeds : ∀ loaded ∈ read.users, loaded.id = id → Succeeds loaded user) {at_ : Millis}
    (anonymous : (user.apply changes at_).accountType = .autoreg) :
    Bare (user.apply changes at_) := by
  obtain ⟨untyped, former⟩ := issues.untyped anonymous
  have own := bare former
  -- the document the flush was computed from was anonymous as well
  have loadedBare : ∀ loaded ∈ read.users, loaded.id = id → Bare loaded := by
    intro loaded member same
    apply kept.2 loaded member
    cases kind : loaded.accountType with
    | autoreg => rfl
    | user => exact nomatch former.symm.trans ((succeeds loaded member same).full kind)
  cases issues with
  | @upgrade _ _ _ _ loaded _ _ _ _ _ typed =>
      change changed loaded.accountType .user = none at untyped
      rw [typed, changed_of_ne (by decide)] at untyped
      cases untyped
  | merge linkedAt member live addressed =>
      exact nomatch (loadedBare _ member rfl).email.symm.trans addressed
  | resetRequest token requestedAt member live addressed =>
      exact nomatch (loadedBare _ member rfl).email.symm.trans addressed
  | reset passwordHash member live requested =>
      exact nomatch (loadedBare _ member rfl).resetPasswordToken.symm.trans requested
  | @profile _ data _ _ loaded =>
      have same : (user.apply (loaded.changes (data.applyTo loaded)) at_) = { user.apply
          (loaded.changes (data.applyTo loaded)) at_ with
            email := user.email, oauthLinks := user.oauthLinks,
            resetPasswordToken := user.resetPasswordToken, tokenVersion := user.tokenVersion,
            deletedAt := user.deletedAt } := by
        simp only [User.apply, User.changes, UpdateUserInput.applyTo, changed_self,
          Option.getD_none]
      rw [same]
      exact ⟨own.email, own.links, own.resetPasswordToken, own.retired⟩
  | deletionStaged deletedAt live => exact own.softDeleted live deletedAt at_
  | deletionBeforeRow deletedAt _ _ live => exact own.softDeleted live deletedAt at_

end Updates

/-- Anonymity is a tame contract: a grounded write leaves a successor of the stored record,
and a bare one where the account stays anonymous. -/
theorem anonymity_tame : Tame anonymity where
  persist relies user member := by
    obtain ⟨later, present, same, _⟩ := relies user member
    exact ⟨later, present, same⟩
  plain command store plain _ kept := by
    have same := (plain.frame store).1
    refine ⟨?_, Carried.of_users_eq Succeeds.refl same⟩
    change DistinctIds (Backend.exec command store).1 ∧ AnonymousBare (Backend.exec command store).1
    rw [DistinctIds, AnonymousBare, same]
    exact kept
  writes := by
    intro operation write at_ after store grounded _ kept applies
    obtain ⟨read, moved, keptRead, issues⟩ := grounded
    refine ⟨⟨kept.1.stored applies at_, ?_⟩, Carried.stored Succeeds.refl write at_ ?_⟩
    · intro user member anonymous
      rcases mem_stored_users member with ⟨present, _⟩ | rfl | ⟨old, present, changes, rfl, rfl⟩
      · exact kept.2 user present anonymous
      · cases issues with
        | autoregUser => exact ⟨rfl, rfl, rfl, fun positive => absurd positive (Nat.lt_irrefl 0)⟩
        | oauthUser => cases anonymous
      · refine issues.bare keptRead (kept.2 old present) (fun loaded inside same => ?_) anonymous
        obtain ⟨version, found, equal, succeeds⟩ := moved loaded inside
        rwa [kept.1.unique found present (equal.trans same)] at succeeds
    · rintro id changes rfl user _ _
      exact issues.succeeds user at_

/-- Every run respects anonymity, as the environment leaves the users alone. -/
theorem anonymity_respects : userService.Respects anonymity fun _ _ => True where
  permits _ _ _ := trivial
  environment {event pool} _ kept := by
    have same := (environment_frame event pool.shared).1
    refine ⟨?_, Carried.of_users_eq Succeeds.refl same⟩
    change DistinctIds (Backend.environment event pool.shared) ∧
      AnonymousBare (Backend.environment event pool.shared)
    rw [DistinctIds, AnonymousBare, same]
    exact kept

/-- In every state of the service the anonymous accounts are bare. -/
theorem anonymous_bare {pool : ServicePool}
    (reached : userService.Reaches (fun _ _ => True) ⟨{}, []⟩ pool) :
    DistinctIds pool.shared ∧ AnonymousBare pool.shared := by
  have initial : ServiceSound anonymity ⟨{}, []⟩ :=
    .initial ⟨List.nodup_nil, fun _ none => nomatch none⟩
  exact (initial.reaches anonymity_tame anonymity_respects reached).1.keeps

end Law

end NestMonorepo
