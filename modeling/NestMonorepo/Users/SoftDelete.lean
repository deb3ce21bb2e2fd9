import NestMonorepo.Database.ObjectIds
import NestMonorepo.Users.Purge
import NestMonorepo.Users.Records

/-! # A deleted account stays as it is

Every lookup that leads to a write asks for a live user, so a soft-deleted record
is out of reach until the purge task removes it. Its reset token is cleared, and
every other account's token comes from another draw.
-/

namespace NestMonorepo

open Collections Concurrency Handler UsersService

section Law

variable [Libraries] {operation : UserOperation} {store later : Backend} {users : List User}
  {outcome : Except ServiceError Answer} {user version : User} {tokenHash : String}

/-! ## The frozen record -/

/-- No message touches a soft-deleted record. -/
theorem Ends.keeps_deleted (ends : Ends operation store users outcome)
    (distinct : DistinctIds store) (member : user ∈ store.users) (deleted : ¬user.Live) :
    user ∈ users := by
  rcases ends.keeps_or_rewrites distinct member with kept | ⟨current, live, _⟩
  · exact kept
  · exact (deleted live).elim

/-- A purge run only removes users. -/
theorem purge_users_subset (store : Backend) :
    ∀ user ∈ (Activity.purge.apply store).users, user ∈ store.users := by
  intro user member
  rw [Activity.apply, purge_run] at member
  split at member
  · exact (List.mem_filter.mp member).1
  · exact member

/-- Every activity keeps the ids distinct. -/
theorem Activity.distinct (activity : Activity) (distinct : DistinctIds store) :
    DistinctIds (activity.apply store) := by
  cases activity with
  | message operation => exact (serve_ends operation store).nodup distinct
  | purge =>
      rw [Activity.apply, purge_run]
      split
      · exact nodup_keys_filter distinct _
      · exact distinct
  | environment event =>
      rw [DistinctIds, Activity.apply, (environment_frame event store).1]
      exact distinct

/-- So they are wherever activities lead. -/
theorem Maintained.distinct {allowed : Activity → Backend → Prop} {start : Backend}
    (maintained : Maintained allowed start store) (initial : DistinctIds start) :
    DistinctIds store :=
  maintained.invariant DistinctIds initial fun activity _ distinct _ => activity.distinct distinct

/-- The purge task removed the record somewhere between two stores. -/
def PurgedBetween (user : User) (store later : Backend) : Prop :=
  ∃ middle, Maintained AnyActivity store middle ∧ user ∈ middle.users ∧
    user ∉ (Activity.purge.apply middle).users ∧
    Maintained AnyActivity (Activity.purge.apply middle) later

/-- A soft-deleted record is as it was left, or has been purged. -/
theorem frozen_or_purged (distinct : DistinctIds store) (member : user ∈ store.users)
    (deleted : ¬user.Live) (maintained : Maintained AnyActivity store later) :
    user ∈ later.users ∨ PurgedBetween user store later := by
  induction maintained with
  | start => exact .inl member
  | @step middle activity reached _ ih =>
      rcases ih with kept | ⟨purging, before, present, removed, after⟩
      · cases activity with
        | message operation =>
            exact .inl ((serve_ends operation middle).keeps_deleted (reached.distinct distinct)
              kept deleted)
        | purge =>
            by_cases spared : user ∈ (Activity.purge.apply middle).users
            · exact .inl spared
            · exact .inr ⟨middle, reached, kept, spared, .start⟩
        | environment event =>
            refine .inl ?_
            rw [Activity.apply, (environment_frame event middle).1]
            exact kept
      · exact .inr ⟨purging, before, present, removed, after.step activity trivial⟩

/-! ## Reset tokens -/

/-- Some draw before this moment hashes to the token. -/
def Backend.Drawn (store : Backend) (tokenHash : String) : Prop :=
  ∃ draw < store.randomDraws, hashResetToken (Libraries.randomHex draw) = tokenHash

/-- The token was drawn, and only records of its owners carry it. -/
def Backend.HeldBy (store : Backend) (tokenHash : String) (owner : ObjectId → Prop) : Prop :=
  store.Drawn tokenHash ∧
    ∀ user ∈ store.users, user.resetPasswordToken = some tokenHash → owner user.id

/-- Every stored token was drawn for one account. -/
def TokensDrawn (store : Backend) : Prop :=
  ∀ user ∈ store.users, ∀ tokenHash, user.resetPasswordToken = some tokenHash →
    store.HeldBy tokenHash fun id => id = user.id

/-- Random draws are never taken back: no effect of a command lowers their counter. -/
theorem runIn_randomDraws {α : Type} (program : Handler α) (store : Backend) :
    store.randomDraws ≤ (program.runIn store).1.randomDraws := by
  refine Program.run_relation Backend.exec
    (fun before after => before.randomDraws ≤ after.randomDraws) (fun _ => le_refl _)
    (fun first second => le_trans first second) (fun command before => ?_) program store
  have effect := Backend.exec_effect command before
  generalize (Backend.exec command before).1 = after at effect ⊢
  cases effect with
  | @stored write => cases write <;> exact le_refl _
  | drewRandom | published => exact Nat.le_succ _
  | _ => exact le_refl _

/-- No activity takes a random draw back. -/
theorem Activity.randomDraws (activity : Activity) (store : Backend) :
    store.randomDraws ≤ (activity.apply store).randomDraws := by
  cases activity with
  | message operation => exact runIn_randomDraws (UsersController.handle operation) store
  | purge => exact runIn_randomDraws UserPurgeTask.run store
  | environment event => cases event <;> exact le_refl _

/-- A request for an account uses up a draw. -/
theorem forgotPassword_draws {email : String} (up : store.databaseUp = true)
    (found : store.users.find? (UserFilter.byEmailLive email).accepts = some user) :
    store.randomDraws < (serve (.forgotPassword email) store).1.randomDraws := by
  rw [serve, UsersController.handle, UsersService.forgotPassword]
  simp only [Program.bind_assoc]
  rw [runIn_findUser up]
  simp only [found, Program.bind_assoc]
  rw [runIn_randomBytes]
  exact lt_of_lt_of_le (Nat.lt_succ_self _)
    (runIn_randomDraws _ { store with randomDraws := store.randomDraws + 1 })

/-- A token found on a record was on it before, or has just been drawn for it by a request
for a reset. -/
theorem Ends.token_origin (ends : Ends operation store users outcome)
    (distinct : DistinctIds store) (member : version ∈ users)
    (carried : version.resetPasswordToken = some tokenHash) :
    (∃ user ∈ store.users, user.id = version.id ∧ user.resetPasswordToken = some tokenHash) ∨
    ∃ email loaded, operation = .forgotPassword email ∧
      store.users.find? (UserFilter.byEmailLive email).accepts = some loaded ∧
      loaded.id = version.id ∧
      tokenHash = hashResetToken (Libraries.randomHex store.randomDraws) := by
  rcases ends.record_cases distinct member with
    old | ⟨adds, _⟩ | ⟨loaded, current, inside, _, rewrites, rfl⟩
  · exact .inl ⟨version, old, rfl, carried⟩
  · cases adds <;> cases carried
  · change current.resetPasswordToken = some tokenHash at carried
    cases rewrites with
    | upgraded _ _ credentials =>
        exact .inl ⟨loaded, inside, rfl, credentials.resetPasswordToken.symm.trans carried⟩
    | merged => exact .inl ⟨loaded, inside, rfl, carried⟩
    | resetRequested found => exact .inr ⟨_, loaded, rfl, found, rfl,
        (Option.some.inj carried).symm⟩
    | passwordReset => cases carried
    | profile => exact .inl ⟨loaded, inside, rfl, carried⟩
    | deleted => cases carried

/-- Reset tokens are unguessable: no two draws hash to one value. -/
def DistinctTokenHashes : Prop :=
  Function.Injective fun draw => hashResetToken (Libraries.randomHex draw)

/-- A message to a silent database changes no user. -/
theorem runIn_users_of_down {α : Type} (program : Handler α) {store : Backend}
    (down : store.databaseUp = false) : (program.runIn store).1.users = store.users := by
  have silent : store.databaseUp = false → (program.runIn store).1.databaseUp = false ∧
      (program.runIn store).1.users = store.users := by
    refine Program.run_relation Backend.exec
      (fun before after => before.databaseUp = false → after.databaseUp = false ∧
        after.users = before.users) (fun _ down => ⟨down, rfl⟩)
      (fun first second down => ⟨(second (first down).1).1,
        (second (first down).1).2.trans (first down).2⟩)
      (fun command before down => ?_) program store
    refine ⟨(runIn_databaseUp (.call command fun _ => .ret ()) before).trans down, ?_⟩
    cases command with
    | write write at_ => rw [Backend.exec_write_of_not_applies (by simp [Backend.Applies, down])]
    | deleteUser id => simp only [Backend.exec, down, Bool.false_eq_true, ↓reduceIte]
    | deleteDevices filter => simp only [Backend.exec, down, Bool.false_eq_true, ↓reduceIte]
    | _ => exact ((Command.Plain.frame (by trivial) before).1)
  exact (silent down).2

section Tokens

variable {owner : ObjectId → Prop} (distinctHashes : DistinctTokenHashes)
include distinctHashes

/-- A token that was drawn is never drawn again, so it finds no new owner. -/
theorem Backend.HeldBy.apply (held : store.HeldBy tokenHash owner) (distinct : DistinctIds store)
    (activity : Activity) : (activity.apply store).HeldBy tokenHash owner := by
  obtain ⟨⟨draw, earlier, hashed⟩, owned⟩ := held
  refine ⟨⟨draw, lt_of_lt_of_le earlier (activity.randomDraws store), hashed⟩, ?_⟩
  intro version member carried
  cases activity with
  | message operation =>
      rcases (serve_ends operation store).token_origin distinct member carried with
        ⟨user, inside, same, before⟩ | ⟨email, loaded, _, _, _, fresh⟩
      · rw [← same]
        exact owned user inside before
      · have again : draw = store.randomDraws := distinctHashes (hashed.trans fresh)
        omega
  | purge => exact owned version (purge_users_subset store version member) carried
  | environment event =>
      rw [Activity.apply, (environment_frame event store).1] at member
      exact owned version member carried

/-- A token that was drawn for certain owners is never carried by a record of anyone else,
whatever activities follow. -/
theorem Backend.HeldBy.maintained (held : store.HeldBy tokenHash owner)
    (distinct : DistinctIds store) (maintained : Maintained AnyActivity store later) :
    later.HeldBy tokenHash owner := by
  induction maintained with
  | start => exact held
  | step activity reached _ ih => exact ih.apply distinctHashes (reached.distinct distinct) activity

/-- Every activity keeps each token with one account: the new ones are drawn for one, and
none is copied. -/
theorem TokensDrawn.apply (drawn : TokensDrawn store) (distinct : DistinctIds store)
    (activity : Activity) : TokensDrawn (activity.apply store) := by
  intro version member tokenHash carried
  have old : ∀ user ∈ store.users, user.id = version.id →
      user.resetPasswordToken = some tokenHash →
      (activity.apply store).HeldBy tokenHash fun id => id = version.id := by
    intro user inside same before
    rw [← same]
    exact (drawn user inside tokenHash before).apply distinctHashes distinct activity
  cases activity with
  | purge => exact old version (purge_users_subset store version member) rfl carried
  | environment event =>
      have same := (environment_frame event store).1
      rw [Activity.apply, same] at member
      exact old version member rfl carried
  | message operation =>
      rcases (serve_ends operation store).token_origin distinct member carried with
        ⟨user, inside, same, before⟩ | ⟨email, loaded, rfl, found, owned, fresh⟩
      · exact old user inside same before
      cases up : store.databaseUp with
      | false =>
          have unchanged := runIn_users_of_down (UsersController.handle (.forgotPassword email)) up
          change (serve (.forgotPassword email) store).1.users = store.users at unchanged
          rw [Activity.apply, unchanged] at member
          exact old version member rfl carried
      | true =>
          refine ⟨⟨store.randomDraws, forgotPassword_draws up found, fresh.symm⟩, ?_⟩
          intro other present alike
          rcases (serve_ends (.forgotPassword email) store).token_origin distinct present alike with
            ⟨user, inside, _, before⟩ | ⟨email', loaded', operated, found', owned', _⟩
          · obtain ⟨⟨draw, earlier, hashed⟩, _⟩ := drawn user inside tokenHash before
            have again : draw = store.randomDraws := distinctHashes (hashed.trans fresh)
            omega
          · cases operated
            cases found.symm.trans found'
            exact owned'.symm.trans owned

/-- From the empty store on every stored token was drawn for the account whose record
carries it. -/
theorem Maintained.tokensDrawn (maintained : Maintained AnyActivity {} store) :
    TokensDrawn store := by
  induction maintained with
  | start => exact fun _ none => nomatch none
  | step activity reached _ ih =>
      exact ih.apply distinctHashes (reached.distinct List.nodup_nil) activity

end Tokens

/-! ## Deletion -/

/-- A successful deletion has marked its user. -/
theorem deleteUser_marks {userId : String} {answer : Answer}
    (deleted : (serve (.deleteUser userId) store).2 = .ok answer) :
    ∃ loaded, Libraries.ofHexString userId = some loaded.id ∧
      fetch User.id loaded.id store.users = some loaded ∧ loaded.Live ∧
      (serve (.deleteUser userId) store).1.users =
        rewritten store loaded (softDeleted loaded store.clock) := by
  have wrapped : serve (.deleteUser userId) store =
      (((UsersService.deleteUser userId).runIn store).1,
        ((UsersService.deleteUser userId).runIn store).2.map fun _ => .acknowledged) :=
    serve_eq rfl
  rcases deleteUser_cases store userId with marked | ⟨_, error, failed⟩
  · rw [wrapped]
    exact marked
  · rw [wrapped, failed] at deleted
    cases deleted

/-- The account's record has carried the token at some earlier time of the run. -/
def IssuedBefore (token : String) (id : ObjectId) (store : Backend) : Prop :=
  ∃ earlier, Maintained AnyActivity {} earlier ∧ Maintained AnyActivity earlier store ∧
    ∃ user ∈ earlier.users, user.id = id ∧
      user.resetPasswordToken = some (hashResetToken token)

/-- Deletion is final: from a successful deletion on the record stays exactly as
it was left until the purge task removes it, and no reset token issued for it
before is accepted. -/
def DeletionFinal : Prop :=
  ∀ store userId answer, Maintained AnyActivity {} store →
    (serve (.deleteUser userId) store).2 = .ok answer →
    ∃ user ∈ (serve (.deleteUser userId) store).1.users,
      Libraries.ofHexString userId = some user.id ∧ ¬user.Live ∧
      ∀ later, Maintained AnyActivity (serve (.deleteUser userId) store).1 later →
        (user ∈ later.users ∨ PurgedBetween user (serve (.deleteUser userId) store).1 later) ∧
        ∀ token, IssuedBefore token user.id store → ∀ newPassword answer,
          (serve (.resetPassword token newPassword) later).2 ≠ .ok answer

/-- Deletion is final. From a successful deletion on no message, sweep or other activity
changes the record until the purge removes it, and no reset token issued for it before is
accepted; only that two random draws never hash to one value is assumed of the library. -/
theorem deletionFinal_of_distinctTokenHashes (distinctHashes : DistinctTokenHashes) :
    DeletionFinal := by
  intro store userId answer reached deleted
  have distinct : DistinctIds store := reached.distinct List.nodup_nil
  obtain ⟨loaded, parsed, stored, live, users⟩ := deleteUser_marks deleted
  have left : DistinctIds (serve (.deleteUser userId) store).1 :=
    (serve_ends (.deleteUser userId) store).nodup distinct
  have marked : written store loaded (softDeleted loaded store.clock) ∈
      (serve (.deleteUser userId) store).1.users := by
    rw [users]
    exact written_mem_rewritten (fetch_some_mem stored)
  have dead : ¬(written store loaded (softDeleted loaded store.clock)).Live := nofun
  refine ⟨_, marked, parsed, dead, fun later maintained =>
    ⟨frozen_or_purged left marked dead maintained, ?_⟩⟩
  rintro token ⟨earlier, began, onward, user, member, owned, carried⟩ newPassword answer accepted
  -- up to the deletion only this account carries the token, from it on none does
  have before := ((began.tokensDrawn distinctHashes user member _ carried).maintained
    distinctHashes (began.distinct List.nodup_nil) onward)
  have cleared : (serve (.deleteUser userId) store).1.HeldBy (hashResetToken token)
      fun _ => False := by
    refine ⟨(before.apply distinctHashes distinct (.message (.deleteUser userId))).1, ?_⟩
    intro version present carries
    rw [users] at present
    rcases mem_modifyAt present with ⟨old, differ⟩ | ⟨old, inside, same, rfl⟩
    · exact differ ((before.2 version old carries).trans owned)
    · rw [distinct.unique inside (fetch_some_mem stored) same, User.apply_changes] at carries
      cases carries
  have none := cleared.maintained distinctHashes left maintained
  rcases resetPassword_cases later token newPassword with
    ⟨error, failed, _⟩ | ⟨holder, found, _⟩
  · rw [serve_eq rfl, failed] at accepted
    cases accepted
  · have matched := UserFilter.accepts_byResetTokenLive.mp (List.find?_some found)
    exact none.2 holder (List.mem_of_find?_eq_some found) matched.1

end Law

section Deleted

open scoped Plain

/-- The plain libraries draw tokens whose hashes are distinct. -/
theorem plain_distinctTokenHashes : DistinctTokenHashes := by
  intro first second same
  exact ObjectIds.toHexString_injective ((String.append_right_inj "sha256:").mp same)

/-- An account with a password, and a reset token mailed to its address. -/
def resetMailed : Backend :=
  performAll [.message (.createAutoregUser { fingerprint := "f" }),
    .message (.upgradeAccount (ObjectIds.toHexString 0)
      { method := .email, email := some "a@b", password := some "p" }),
    .message (.forgotPassword "a@b")] {}

/-- The account is deleted, and its token, address and identifier are tried. -/
def triedAfterwards : Backend :=
  performAll [.message (.resetPassword (ObjectIds.toHexString 1) "q"), .message (.login "a@b" "p"),
    .message (.forgotPassword "a@b"),
    .message (.updateUser (ObjectIds.toHexString 0) { name := some (some "n") }),
    .message (.deleteUser (ObjectIds.toHexString 0))]
    (serve (.deleteUser (ObjectIds.toHexString 0)) resetMailed).1

/-- The mailed token is the account's, the deletion succeeds, the record outlives what
is tried, and the token is refused after it. -/
theorem deletionFinal_plain :
    IssuedBefore (ObjectIds.toHexString 1) 0 resetMailed ∧
    (serve (.deleteUser (ObjectIds.toHexString 0)) resetMailed).2 = .ok .acknowledged ∧
    (∃ user ∈ (serve (.deleteUser (ObjectIds.toHexString 0)) resetMailed).1.users, ¬user.Live ∧
      (user ∈ triedAfterwards.users ∨ PurgedBetween user
        (serve (.deleteUser (ObjectIds.toHexString 0)) resetMailed).1 triedAfterwards)) ∧
    (serve (.resetPassword (ObjectIds.toHexString 1) "q") triedAfterwards).2 ≠
      .ok .acknowledged := by
  have reached : Maintained AnyActivity {} resetMailed := Maintained.start.of_performAll _
  have issued : IssuedBefore (ObjectIds.toHexString 1) 0 resetMailed :=
    ⟨resetMailed, reached, .start, _, List.mem_of_getElem? (i := 0) rfl, rfl, rfl⟩
  have deleted : (serve (.deleteUser (ObjectIds.toHexString 0)) resetMailed).2 =
    .ok .acknowledged := rfl
  obtain ⟨user, member, parsed, dead, final⟩ :=
    deletionFinal_of_distinctTokenHashes plain_distinctTokenHashes _ _ _ reached deleted
  obtain ⟨kept, refused⟩ := final triedAfterwards (Maintained.start.of_performAll _)
  have first : 0 = user.id := Option.some.inj parsed
  exact ⟨issued, deleted, ⟨user, member, dead, kept⟩, refused _ (first ▸ issued) _ _⟩

end Deleted

end NestMonorepo
