import NestMonorepo.Users.Provenance

/-! # Which reset tokens are good

A history of calls determines, for every live account, the one reset token that is
outstanding: the one of the latest request for it, unless it has been redeemed. The
account's record holds its hash and its expiry and nothing else.
-/

namespace NestMonorepo

open Collections Concurrency Handler UsersService

section Law

variable [Libraries] {Principal : Type}

/-! ## Requests and their tokens -/

namespace Call

variable (call : Call Principal)

/-- The account a call of `forgotPassword` generates a token for. -/
def requested : Option ObjectId :=
  match call.operation with
  | .forgotPassword email =>
      if call.before.databaseUp then
        (call.before.users.find? (UserFilter.byEmailLive email).accepts).map User.id
      else none
  | _ => none

/-- The token the call would generate. -/
def resetToken : String := Libraries.randomHex call.before.randomDraws

/-- The token the call generates. -/
def generated : Option String := call.requested.map fun _ => call.resetToken

/-- The call is a reset with the token that succeeds. -/
def Spends (token : String) : Prop :=
  ∃ newPassword answer, call.operation = .resetPassword token newPassword ∧
    (serve call.operation call.before).2 = .ok answer

end Call

/-- The request is the latest one for the account, and its token has not been
redeemed since. -/
def Outstanding (calls : List (Call Principal)) (id : ObjectId) (request : Call Principal) : Prop :=
  ∃ earlier later, calls = earlier ++ request :: later ∧ request.requested = some id ∧
    ∀ call ∈ later, call.requested ≠ some id ∧ ¬call.Spends request.resetToken

/-- The token has been generated or presented. -/
def Used (calls : List (Call Principal)) (token : String) : Prop :=
  ∃ call ∈ calls, call.generated = some token ∨
    ∃ newPassword, call.operation = .resetPassword token newPassword

/-- Hashes tell the used tokens apart, and no token is generated twice. -/
structure TokensApart (calls : List (Call Principal)) : Prop where
  hashes : Set.InjOn hashResetToken (Used calls)
  generated : (calls.filterMap Call.generated).Nodup

/-! ## Histories -/

section Histories

variable {calls more : List (Call Principal)} {call request other : Call Principal}
  {id : ObjectId} {token : String}

omit [Libraries] in
/-- Elements with one image under an injective listing are one element. -/
theorem eq_of_nodup_filterMap {α β : Type} {image : α → Option β} {items : List α}
    (distinct : (items.filterMap image).Nodup) {first second : α} (left : first ∈ items)
    (right : second ∈ items) {value : β} (one : image first = some value)
    (two : image second = some value) : first = second := by
  induction items with
  | nil => cases left
  | cons item rest ih =>
      have rest_distinct : (rest.filterMap image).Nodup := by
        cases listed : image item with
        | none => rwa [List.filterMap_cons_none listed] at distinct
        | some value =>
            rw [List.filterMap_cons_some listed] at distinct
            exact (List.nodup_cons.mp distinct).2
      have apart : ∀ later ∈ rest, image item = some value → image later ≠ some value := by
        intro later member listed same
        rw [List.filterMap_cons_some listed] at distinct
        exact (List.nodup_cons.mp distinct).1 (List.mem_filterMap.mpr ⟨later, member, same⟩)
      rcases List.mem_cons.mp left with rfl | inside
      · rcases List.mem_cons.mp right with rfl | inside
        · rfl
        · exact (apart second inside one two).elim
      · rcases List.mem_cons.mp right with rfl | also
        · exact (apart first inside two one).elim
        · exact ih rest_distinct inside also

/-- Tokens that are apart over a history are apart over its beginning. -/
theorem TokensApart.of_append (apart : TokensApart (calls ++ more)) : TokensApart calls where
  hashes := by
    apply apart.hashes.mono
    rintro token ⟨call, member, used⟩
    exact ⟨call, List.mem_append_left _ member, used⟩
  generated := by
    have distinct := apart.generated
    rw [List.filterMap_append] at distinct
    exact distinct.of_append_left

/-- A call that requests a reset for an account generates its token. -/
theorem Call.generated_of_requested (requested : call.requested = some id) :
    call.generated = some call.resetToken := by
  rw [Call.generated, requested, Option.map_some]

/-- An outstanding request is one of the calls. -/
theorem Outstanding.member (outstanding : Outstanding calls id request) : request ∈ calls := by
  obtain ⟨earlier, later, rfl, _⟩ := outstanding
  exact List.mem_append_right _ List.mem_cons_self

/-- An outstanding request was made for its account. -/
theorem Outstanding.requested (outstanding : Outstanding calls id request) :
    request.requested = some id := by
  obtain ⟨_, _, _, requested, _⟩ := outstanding
  exact requested

/-- The token of an outstanding request has been used, as it was generated. -/
theorem Outstanding.used (outstanding : Outstanding calls id request) :
    Used calls request.resetToken :=
  ⟨request, outstanding.member, .inl (Call.generated_of_requested outstanding.requested)⟩

/-- Outstanding tokens with one hash are one, and so are their requests. -/
theorem Outstanding.unique {id' : ObjectId} (apart : TokensApart calls)
    (first : Outstanding calls id request) (second : Outstanding calls id' other)
    (same : hashResetToken request.resetToken = hashResetToken other.resetToken) :
    request = other := by
  have tokens : request.resetToken = other.resetToken :=
    apart.hashes first.used second.used same
  apply eq_of_nodup_filterMap apart.generated first.member second.member
    (Call.generated_of_requested first.requested)
  rw [Call.generated_of_requested second.requested, tokens]

/-- What is outstanding after one more call: the call itself if it is a request, or what was
so before and is neither replaced nor spent. -/
theorem outstanding_snoc : Outstanding (calls ++ [call]) id request ↔
    (request = call ∧ call.requested = some id) ∨
      (Outstanding calls id request ∧ call.requested ≠ some id ∧
        ¬call.Spends request.resetToken) := by
  constructor
  · rintro ⟨earlier, later, split, requested, since⟩
    rcases List.eq_nil_or_concat later with rfl | ⟨rest, last, rfl⟩
    · obtain ⟨rfl, same⟩ := List.append_inj' split rfl
      obtain rfl := List.singleton_inj.mp same
      exact .inl ⟨rfl, requested⟩
    · rw [List.concat_eq_append] at since
      rw [List.concat_eq_append, ← List.cons_append, ← List.append_assoc] at split
      obtain ⟨rfl, same⟩ := List.append_inj' split rfl
      obtain rfl := List.singleton_inj.mp same
      refine .inr ⟨⟨earlier, rest, rfl, requested, fun other member => ?_⟩, ?_⟩
      · exact since other (List.mem_append_left _ member)
      · exact since call (List.mem_append_right _ (List.mem_singleton.mpr rfl))
  · rintro (⟨rfl, requested⟩ | ⟨⟨earlier, later, rfl, requested, since⟩, calm⟩)
    · exact ⟨calls, [], rfl, requested, fun _ none => nomatch none⟩
    · refine ⟨earlier, later ++ [call], by rw [List.append_assoc]; rfl, requested, ?_⟩
      intro other member
      rcases List.mem_append.mp member with inside | last
      · exact since other inside
      · rw [List.mem_singleton.mp last]
        exact calm

/-- A call that neither requests a token for the account nor spends one changes
nothing. -/
theorem outstanding_of_calm (unrequested : call.requested ≠ some id)
    (unspent : ∀ token, ¬call.Spends token) :
    Outstanding (calls ++ [call]) id request ↔ Outstanding calls id request := by
  rw [outstanding_snoc]
  constructor
  · rintro (⟨-, requested⟩ | ⟨outstanding, -⟩)
    · exact (unrequested requested).elim
    · exact outstanding
  · exact fun outstanding => .inr ⟨outstanding, unrequested, unspent _⟩

end Histories

/-! ## What a record holds -/

/-- The record holds the outstanding token of its account and its expiry. -/
structure TokenTracked (calls : List (Call Principal)) (user : User) : Prop where
  issued : ∀ tokenHash, user.resetPasswordToken = some tokenHash →
    ∃ request, Outstanding calls user.id request ∧
      tokenHash = hashResetToken request.resetToken ∧
      user.resetPasswordExpiry = some (request.before.clock + resetWindow)
  stored : ∀ request, Outstanding calls user.id request →
    user.resetPasswordToken = some (hashResetToken request.resetToken)

section TokenTracked

variable {calls : List (Call Principal)} {call : Call Principal} {user version : User}

/-- A version with the same reset fields is tracked after a calm call. -/
theorem TokenTracked.of_same (tracked : TokenTracked calls user) (same : version.id = user.id)
    (token : version.resetPasswordToken = user.resetPasswordToken)
    (expiry : version.resetPasswordExpiry = user.resetPasswordExpiry)
    (calm : ∀ request, Outstanding (calls ++ [call]) user.id request ↔
      Outstanding calls user.id request) : TokenTracked (calls ++ [call]) version where
  issued tokenHash holds := by
    obtain ⟨request, outstanding, hashed, until_⟩ := tracked.issued tokenHash (token ▸ holds)
    exact ⟨request, same ▸ (calm request).mpr outstanding, hashed, expiry.trans until_⟩
  stored request outstanding := by
    rw [same, calm] at outstanding
    rw [token, tracked.stored request outstanding]

/-- A record that has just been given a token. -/
theorem TokenTracked.of_requested (requested : call.requested = some user.id)
    (token : user.resetPasswordToken = some (hashResetToken call.resetToken))
    (expiry : user.resetPasswordExpiry = some (call.before.clock + resetWindow)) :
    TokenTracked (calls ++ [call]) user where
  issued tokenHash holds := by
    refine ⟨call, outstanding_snoc.mpr (.inl ⟨rfl, requested⟩), ?_, expiry⟩
    exact Option.some.inj (holds.symm.trans token)
  stored request outstanding := by
    rcases outstanding_snoc.mp outstanding with ⟨rfl, -⟩ | ⟨-, differ, -⟩
    · exact token
    · exact (differ requested).elim

/-- A record without a token, of an account without an outstanding one. -/
theorem TokenTracked.of_none (token : user.resetPasswordToken = none)
    (settled : ∀ request, ¬Outstanding calls user.id request) : TokenTracked calls user where
  issued _ holds := nomatch token.symm.trans holds
  stored request outstanding := (settled request outstanding).elim

end TokenTracked

/-! ## One call -/

section Step

variable {calls : List (Call Principal)} {store : Backend} {user version : User}

/-- Serving a request for a reset link is running its handler, with an acknowledgement for
an answer. -/
theorem serve_forgotPassword (email : String) : serve (.forgotPassword email) store =
    (((UsersService.forgotPassword email).runIn store).1,
      ((UsersService.forgotPassword email).runIn store).2.map fun _ => .acknowledged) :=
  serve_eq rfl

/-- Serving a reset is running its handler, with an acknowledgement for an answer. -/
theorem serve_resetPassword (token newPassword : String) :
    serve (.resetPassword token newPassword) store =
      (((UsersService.resetPassword token newPassword).runIn store).1,
        ((UsersService.resetPassword token newPassword).runIn store).2.map
          fun _ => .acknowledged) :=
  serve_eq rfl

/-- A request that finds a live account flushes its modified copy, unless the very
token and expiry are stored already. -/
theorem forgotPassword_found {email : String} (up : store.databaseUp = true)
    (found : store.users.find? (UserFilter.byEmailLive email).accepts = some user)
    {current : User}
    (modified : current = resetRequested user (Libraries.randomHex store.randomDraws) store.clock) :
    (serve (.forgotPassword email) store).1.users = rewritten store user current ∨
      (serve (.forgotPassword email) store).1.users = store.users ∧ user.changes current = {} := by
  have mailed : ∀ middle : Backend,
      ((await (.sendPasswordReset email (Libraries.randomHex store.randomDraws)) >>= fun _ =>
        (pure () : Handler Unit)).runIn middle).1.users = middle.users := by
    intro middle
    obtain ⟨after, users, ran⟩ :=
      runIn_sendPasswordReset middle email (Libraries.randomHex store.randomDraws)
    rw [ran, users]
  rw [serve_forgotPassword, UsersService.forgotPassword, runIn_findUser up, found]
  dsimp only
  rw [runIn_randomBytes, runIn_now, runIn_flush, User.update, ← modified]
  by_cases unchanged : user.changes current = {}
  · rw [if_pos unchanged]
    exact .inr ⟨mailed _, unchanged⟩
  · have clean : Backend.violation { store with randomDraws := store.randomDraws + 1 }
        (.updateUser user.id (user.changes current)) = none := by
      apply Backend.violation_of_email
      rw [modified]
      exact changed_self _
    rw [if_neg unchanged, runIn_writeAll_cons]
    · rw [clean]
      exact .inl (mailed _)
    · exact up

/-- What a request leaves of each record: the account's has the new token, the
others are as they were. -/
theorem forgotPassword_version (distinct : DistinctIds store) {email : String}
    (up : store.databaseUp = true)
    (found : store.users.find? (UserFilter.byEmailLive email).accepts = some user)
    (member : version ∈ (serve (.forgotPassword email) store).1.users) :
    (version.id = user.id ∧
      version.resetPasswordToken =
        some (hashResetToken (Libraries.randomHex store.randomDraws)) ∧
      version.resetPasswordExpiry = some (store.clock + resetWindow)) ∨
    version ∈ store.users ∧ version.id ≠ user.id := by
  have inside := List.mem_of_find?_eq_some found
  rcases forgotPassword_found up found rfl with users | ⟨users, unchanged⟩
  · rw [users] at member
    rcases mem_modifyAt member with ⟨old, differ⟩ | ⟨old, present, same, rfl⟩
    · exact .inr ⟨old, differ⟩
    · rw [distinct.unique present inside same, User.apply_changes]
      exact .inl ⟨rfl, rfl, rfl⟩
  · rw [users] at member
    by_cases same : version.id = user.id
    · obtain rfl := distinct.unique member inside same
      have token := congrArg UserChanges.resetPasswordToken unchanged
      have expiry := congrArg UserChanges.resetPasswordExpiry unchanged
      refine .inl ⟨rfl, ?_, ?_⟩
      · exact eq_of_changed_eq_none token
      · exact eq_of_changed_eq_none expiry
    · exact .inr ⟨member, same⟩

/-- A reset that finds an unexpired token rewrites its account, and nothing else: password,
token, expiry, version and stamp. -/
theorem resetPassword_accepted {token newPassword : String} (up : store.databaseUp = true)
    (hashing : store.hashingUp = true)
    (found : store.users.find? (UserFilter.byResetTokenLive (hashResetToken token)).accepts =
      some user)
    (unexpired : user.resetPasswordExpiry.all (fun expiry => expiry < store.clock) = false) :
    serve (.resetPassword token newPassword) store =
      ({ store with
          users := rewritten store user
            (passwordReset user (Libraries.argon2Hash store.randomDraws newPassword))
          randomDraws := store.randomDraws + 1 }, .ok .acknowledged) := by
  have bumped : (passwordReset user
      (Libraries.argon2Hash store.randomDraws newPassword)).tokenVersion ≠ user.tokenVersion :=
    Nat.succ_ne_self _
  have clean : Backend.violation { store with randomDraws := store.randomDraws + 1 }
      (.updateUser user.id (user.changes
        (passwordReset user (Libraries.argon2Hash store.randomDraws newPassword)))) = none :=
    Backend.violation_of_email (changed_self _)
  rw [serve_resetPassword, UsersService.resetPassword, runIn_findUser up, found]
  dsimp only
  rw [runIn_now, unexpired, if_neg Bool.false_ne_true, runIn_hashPassword_up hashing,
    User.update_of_tokenVersion bumped, runIn_flush, runIn_writeAll_cons]
  · rw [clean]
    rfl
  · exact up

/-- A reset without such a token, or without its services, answers an error and changes
nothing. -/
theorem resetPassword_rejected {token newPassword : String}
    (rejected : store.databaseUp = true → store.hashingUp = true →
      ∀ user, store.users.find? (UserFilter.byResetTokenLive (hashResetToken token)).accepts =
        some user →
      user.resetPasswordExpiry.all (fun expiry => expiry < store.clock) = true) :
    ∃ error, serve (.resetPassword token newPassword) store = (store, .error error) := by
  rw [serve_resetPassword, UsersService.resetPassword]
  cases up : store.databaseUp with
  | false =>
      rw [runIn_findUser_down up]
      exact ⟨_, rfl⟩
  | true =>
      rw [runIn_findUser up]
      cases found : store.users.find?
          (UserFilter.byResetTokenLive (hashResetToken token)).accepts with
      | none => exact ⟨_, rfl⟩
      | some user =>
          dsimp only
          rw [runIn_now]
          cases expired : user.resetPasswordExpiry.all (fun expiry => expiry < store.clock) with
          | true => exact ⟨_, rfl⟩
          | false =>
              cases hashing : store.hashingUp with
              | true =>
                  have late := rejected up hashing user found
                  rw [expired] at late
                  cases late
              | false =>
                  rw [if_neg Bool.false_ne_true, runIn_hashPassword_down hashing]
                  exact ⟨_, rfl⟩

/-- A request for an email that no live account has leaves all users as they are. -/
theorem forgotPassword_unfound {email : String} (unfound : store.databaseUp = true →
      store.users.find? (UserFilter.byEmailLive email).accepts = none) :
    (serve (.forgotPassword email) store).1.users = store.users := by
  rw [serve_forgotPassword, UsersService.forgotPassword]
  cases up : store.databaseUp with
  | false => rw [runIn_findUser_down up]
  | true =>
      rw [runIn_findUser up, unfound up]
      rfl

end Step

/-! ## Whole histories -/

section Run

variable {calls : List (Call Principal)} {store : Backend}

/-- The operations other than those of the reset flow. -/
def UserOperation.Unrelated (operation : UserOperation) : Prop :=
  (∀ email, operation ≠ .forgotPassword email) ∧
    ∀ token newPassword, operation ≠ .resetPassword token newPassword

omit [Libraries] in
/-- Only `forgotPassword` requests a token. -/
theorem Call.requested_eq_none {call : Call Principal}
    (other : ∀ email, call.operation ≠ .forgotPassword email) : call.requested = none := by
  unfold Call.requested
  split
  · rename_i email operated
    exact (other email operated).elim
  · rfl

/-- Only `resetPassword` spends a token. -/
theorem Call.not_spends {call : Call Principal}
    (other : ∀ token newPassword, call.operation ≠ .resetPassword token newPassword)
    (token : String) : ¬call.Spends token := by
  rintro ⟨newPassword, answer, operated, -⟩
  exact other token newPassword operated

/-- The other operations leave the reset fields alone, or delete the account. -/
theorem Rewrites.reset_fields {operation : UserOperation} {loaded current : User}
    (rewrites : Rewrites operation store loaded current) (other : operation.Unrelated) :
    current.resetPasswordToken = loaded.resetPasswordToken ∧
      current.resetPasswordExpiry = loaded.resetPasswordExpiry ∨ ¬current.Live := by
  cases rewrites with
  | upgraded _ _ credentials => cases credentials <;> exact .inl ⟨rfl, rfl⟩
  | merged => exact .inl ⟨rfl, rfl⟩
  | resetRequested => exact (other.1 _ rfl).elim
  | passwordReset => exact (other.2 _ _ rfl).elim
  | profile => exact .inl ⟨rfl, rfl⟩
  | deleted => exact .inr nofun

/-- No message removes a user. -/
theorem serve_persists (distinct : DistinctIds store) (operation : UserOperation) {user : User}
    (member : user ∈ store.users) :
    ∃ version ∈ (serve operation store).1.users, version.id = user.id := by
  rcases (serve_ends operation store).keeps_or_rewrites distinct member with
    kept | ⟨current, -, -, written⟩
  · exact ⟨user, kept, rfl⟩
  · exact ⟨_, written, rfl⟩

/-- Tokens are generated for stored accounts, in every recorded history. The induction is on
the history. -/
theorem requested_stored (recorded : Recorded calls store) :
    ∀ call ∈ calls, ∀ id, call.requested = some id → ∃ user ∈ store.users, user.id = id := by
  induction recorded with
  | start => exact fun _ none => nomatch none
  | @serve calls store principal operation recorded ih =>
      have distinct := recorded.served.distinct List.nodup_nil
      have persists : ∀ id, (∃ user ∈ store.users, user.id = id) →
          ∃ user ∈ (serve operation store).1.users, user.id = id := by
        rintro id ⟨user, member, rfl⟩
        exact serve_persists distinct operation member
      intro call member id requested
      apply persists
      rcases List.mem_append.mp member with earlier | last
      · exact ih call earlier id requested
      · obtain rfl := List.mem_singleton.mp last
        unfold Call.requested at requested
        split at requested
        · split at requested
          · obtain ⟨user, found, rfl⟩ := Option.map_eq_some_iff.mp requested
            exact ⟨user, List.mem_of_find?_eq_some found, rfl⟩
          · cases requested
        · cases requested
  | environment event recorded ih =>
      rw [(environment_frame event _).1]
      exact ih

/-- A call outside of the reset flow keeps every live record tracked, since it does not
touch the reset fields. -/
theorem tracked_of_unrelated (recorded : Recorded calls store)
    (tracked : ∀ user ∈ store.users, user.Live → TokenTracked calls user) (principal : Principal)
    {operation : UserOperation} (other : operation.Unrelated) :
    ∀ user ∈ (serve operation store).1.users, user.Live →
      TokenTracked (calls ++ [⟨principal, operation, store⟩]) user := by
  have distinct := recorded.served.distinct List.nodup_nil
  have unrequested : (⟨principal, operation, store⟩ : Call Principal).requested = none :=
    Call.requested_eq_none other.1
  have calm : ∀ id request, Outstanding (calls ++ [⟨principal, operation, store⟩]) id request ↔
      Outstanding calls id request := fun id request =>
    outstanding_of_calm (by rw [unrequested]; exact nofun) (Call.not_spends other.2)
  intro user member live
  rcases (serve_ends operation store).record_cases distinct member with
    old | ⟨adds, fresh⟩ | ⟨loaded, current, inside, alive, rewrites, rfl⟩
  · exact (tracked user old live).of_same rfl rfl rfl (calm user.id)
  · have token : user.resetPasswordToken = none := by cases adds <;> rfl
    refine .of_none token fun request outstanding => ?_
    rw [calm] at outstanding
    obtain ⟨holder, present, same⟩ :=
      requested_stored recorded request outstanding.member _ outstanding.requested
    exact fetch_eq_none.mp fresh holder present same
  · rcases rewrites.reset_fields other with ⟨token, expiry⟩ | dead
    · exact (tracked loaded inside alive).of_same rfl token expiry (calm loaded.id)
    · exact (dead live).elim

/-- A request leaves the records tracked: its account's by the new token, and the others by
the old ones. -/
theorem tracked_of_forgotPassword (recorded : Recorded calls store)
    (tracked : ∀ user ∈ store.users, user.Live → TokenTracked calls user) (principal : Principal)
    (email : String) :
    ∀ user ∈ (serve (.forgotPassword email) store).1.users, user.Live →
      TokenTracked (calls ++ [⟨principal, .forgotPassword email, store⟩]) user := by
  have distinct := recorded.served.distinct List.nodup_nil
  have unspent : ∀ token,
      ¬(⟨principal, .forgotPassword email, store⟩ : Call Principal).Spends token :=
    Call.not_spends fun _ _ => nofun
  intro user member live
  by_cases finds : store.databaseUp = true ∧
      ∃ loaded, store.users.find? (UserFilter.byEmailLive email).accepts = some loaded
  · obtain ⟨up, loaded, found⟩ := finds
    have requested : (⟨principal, .forgotPassword email, store⟩ : Call Principal).requested =
        some loaded.id := by
      simp only [Call.requested, up, ↓reduceIte, found, Option.map_some]
    rcases forgotPassword_version distinct up found member with
      ⟨same, token, expiry⟩ | ⟨old, differ⟩
    · exact .of_requested (requested.trans (congrArg some same.symm)) token expiry
    · refine (tracked user old live).of_same rfl rfl rfl fun request =>
        outstanding_of_calm ?_ unspent
      rw [requested]
      exact fun same => differ (Option.some.inj same).symm
  · have unfound : store.databaseUp = true →
        store.users.find? (UserFilter.byEmailLive email).accepts = none := by
      intro up
      cases found : store.users.find? (UserFilter.byEmailLive email).accepts with
      | none => rfl
      | some loaded => exact (finds ⟨up, loaded, found⟩).elim
    rw [forgotPassword_unfound unfound] at member
    refine (tracked user member live).of_same rfl rfl rfl fun request =>
      outstanding_of_calm ?_ unspent
    cases up : store.databaseUp with
    | false =>
        simp only [Call.requested, up]
        exact nofun
    | true =>
        simp only [Call.requested, up, ↓reduceIte, unfound up]
        exact nofun

/-- So does a reset: the token it spends is the outstanding one of its account, and no other
record carries it. -/
theorem tracked_of_resetPassword (recorded : Recorded calls store)
    (tracked : ∀ user ∈ store.users, user.Live → TokenTracked calls user) (principal : Principal)
    (token newPassword : String)
    (apart : TokensApart (calls ++ [⟨principal, .resetPassword token newPassword, store⟩])) :
    ∀ user ∈ (serve (.resetPassword token newPassword) store).1.users, user.Live →
      TokenTracked (calls ++ [⟨principal, .resetPassword token newPassword, store⟩]) user := by
  have distinct := recorded.served.distinct List.nodup_nil
  generalize called : (⟨principal, .resetPassword token newPassword, store⟩ : Call Principal) =
    call at apart ⊢
  have operated : call.operation = .resetPassword token newPassword := by rw [← called]
  have unrequested : call.requested = none :=
    Call.requested_eq_none fun _ same => by cases operated.symm.trans same
  intro user member live
  by_cases accepted : store.databaseUp = true ∧ store.hashingUp = true ∧ ∃ loaded,
      store.users.find? (UserFilter.byResetTokenLive (hashResetToken token)).accepts =
        some loaded ∧
      loaded.resetPasswordExpiry.all (fun expiry => expiry < store.clock) = false
  · obtain ⟨up, hashing, loaded, found, unexpired⟩ := accepted
    have spends : call.Spends token := by
      refine ⟨newPassword, .acknowledged, operated, ?_⟩
      rw [← called, resetPassword_accepted up hashing found unexpired]
    have holds := UserFilter.accepts_byResetTokenLive.mp (List.find?_some found)
    have inside := List.mem_of_find?_eq_some found
    obtain ⟨request, outstanding, hashed, -⟩ :=
      (tracked loaded inside holds.2).issued _ holds.1
    rw [resetPassword_accepted up hashing found unexpired] at member
    rcases mem_modifyAt member with ⟨old, differ⟩ | ⟨old, present, same, rfl⟩
    · refine (tracked user old live).of_same rfl rfl rfl fun other => ?_
      rw [outstanding_snoc]
      constructor
      · rintro (⟨-, requested⟩ | ⟨still, -⟩)
        · cases unrequested.symm.trans requested
        · exact still
      · intro still
        refine .inr ⟨still, fun requested => ?_, ?_⟩
        · cases unrequested.symm.trans requested
        · rintro ⟨password, answer, again, -⟩
          rw [operated] at again
          cases again
          obtain rfl := still.unique apart.of_append outstanding hashed
          exact differ (Option.some.inj (still.requested.symm.trans outstanding.requested))
    · rw [distinct.unique present inside same, User.apply_changes]
      refine .of_none rfl fun other outstanding => ?_
      rcases outstanding_snoc.mp outstanding with ⟨-, requested⟩ | ⟨still, -, unspent⟩
      · cases unrequested.symm.trans requested
      · have stored := (tracked loaded inside holds.2).stored other still
        have tokens : other.resetToken = token := by
          apply apart.hashes
          · obtain ⟨issued, earlier, used⟩ := still.used
            exact ⟨issued, List.mem_append_left _ earlier, used⟩
          · exact ⟨call, List.mem_append_right _ (List.mem_singleton.mpr rfl),
              .inr ⟨newPassword, operated⟩⟩
          · exact Option.some.inj (stored.symm.trans holds.1)
        rw [tokens] at unspent
        exact unspent spends
  · have rejected : ∃ error,
        serve (.resetPassword token newPassword) store = (store, .error error) := by
      apply resetPassword_rejected
      intro up hashing loaded found
      by_contra unexpired
      exact accepted ⟨up, hashing, loaded, found, eq_false_of_ne_true unexpired⟩
    obtain ⟨error, failed⟩ := rejected
    rw [failed] at member
    refine (tracked user member live).of_same rfl rfl rfl fun request => outstanding_of_calm ?_ ?_
    · intro requested
      cases unrequested.symm.trans requested
    · rintro other ⟨password, answer, again, answered⟩
      rw [← called, failed] at answered
      cases answered

/-- In every run each live record holds what its history says. -/
theorem Recorded.tokenTracked (recorded : Recorded calls store) (apart : TokensApart calls) :
    ∀ user ∈ store.users, user.Live → TokenTracked calls user := by
  induction recorded with
  | start => exact fun _ none => nomatch none
  | @serve calls store principal operation recorded ih =>
      have before := ih apart.of_append
      cases operation with
      | forgotPassword email => exact tracked_of_forgotPassword recorded before principal email
      | resetPassword token newPassword =>
          exact tracked_of_resetPassword recorded before principal token newPassword apart
      | _ =>
          apply tracked_of_unrelated recorded before principal
          exact ⟨fun _ => nofun, fun _ _ => nofun⟩
  | environment event _ ih =>
      rw [(environment_frame event _).1]
      exact ih apart

end Run

/-! ## When a reset succeeds -/

section Reset

variable (calls : List (Call Principal)) (store : Backend) (token newPassword : String)

/-- The token is good for the account: it comes from the latest request for it, has
not been redeemed since, and is at most an hour old; and the account is live. -/
def GoodFor (user : User) : Prop :=
  user ∈ store.users ∧ user.Live ∧ ∃ request, Outstanding calls user.id request ∧
    request.resetToken = token ∧ store.clock ≤ request.before.clock + resetWindow

/-- A reset succeeds exactly with a good token and rewrites its account; otherwise
nothing changes. `stamp` is the time of the last update a rewritten record carries. -/
structure ResetLaw (stamp : User → Millis) : Prop where
  succeeds : (serve (.resetPassword token newPassword) store).2 = .ok .acknowledged ↔
    (store.databaseUp = true ∧ store.hashingUp = true) ∧ ∃ user, GoodFor calls store token user
  changes : (serve (.resetPassword token newPassword) store).2 = .ok .acknowledged →
    ∀ user, GoodFor calls store token user →
      (serve (.resetPassword token newPassword) store).1 =
        { store with
          users := modifyAt User.id user.id (fun _ =>
            { user with
              passwordHash := some (Libraries.argon2Hash store.randomDraws newPassword)
              resetPasswordToken := none
              resetPasswordExpiry := none
              tokenVersion := user.tokenVersion + 1
              updatedAt := stamp user }) store.users
          randomDraws := store.randomDraws + 1 }
  nothing : (serve (.resetPassword token newPassword) store).2 ≠ .ok .acknowledged →
    (serve (.resetPassword token newPassword) store).1 = store

variable {calls store token newPassword} {user : User}

/-- A good token is found on its account, since tokens that are apart have different hashes. -/
theorem GoodFor.found (good : GoodFor calls store token user)
    (recorded : Recorded calls store) (apart : TokensApart calls) :
    store.users.find? (UserFilter.byResetTokenLive (hashResetToken token)).accepts = some user ∧
      user.resetPasswordExpiry.all (fun expiry => expiry < store.clock) = false := by
  obtain ⟨member, live, request, outstanding, rfl, timely⟩ := good
  have tracked := recorded.tokenTracked apart
  have holds := (tracked user member live).stored request outstanding
  have accepted := UserFilter.accepts_byResetTokenLive.mpr ⟨holds, live⟩
  obtain ⟨other, found⟩ := Option.isSome_iff_exists.mp
    (List.find?_isSome.mpr ⟨user, member, accepted⟩)
  have also := UserFilter.accepts_byResetTokenLive.mp (List.find?_some found)
  have present := List.mem_of_find?_eq_some found
  obtain ⟨twin, again, hashed, expiry⟩ := (tracked other present also.2).issued _ also.1
  obtain rfl := outstanding.unique apart again hashed
  have same : user = other := (recorded.served.distinct List.nodup_nil).unique member present
    (Option.some.inj (outstanding.requested.symm.trans again.requested))
  subst same
  refine ⟨found, ?_⟩
  rw [expiry, Option.all_some, decide_eq_false_iff_not]
  exact Nat.not_lt.mpr timely

/-- A token that is found unexpired is good for the account. -/
theorem goodFor_of_found {principal : Principal} (recorded : Recorded calls store)
    (apart : TokensApart (calls ++ [⟨principal, .resetPassword token newPassword, store⟩]))
    (found : store.users.find? (UserFilter.byResetTokenLive (hashResetToken token)).accepts =
      some user)
    (unexpired : user.resetPasswordExpiry.all (fun expiry => expiry < store.clock) = false) :
    GoodFor calls store token user := by
  have holds := UserFilter.accepts_byResetTokenLive.mp (List.find?_some found)
  have member := List.mem_of_find?_eq_some found
  obtain ⟨request, outstanding, hashed, expiry⟩ :=
    (recorded.tokenTracked apart.of_append user member holds.2).issued _ holds.1
  refine ⟨member, holds.2, request, outstanding, ?_, ?_⟩
  · apply apart.hashes
    · obtain ⟨issued, earlier, used⟩ := outstanding.used
      exact ⟨issued, List.mem_append_left _ earlier, used⟩
    · exact ⟨_, List.mem_append_right _ (List.mem_singleton.mpr rfl), .inr ⟨newPassword, rfl⟩⟩
    · exact hashed.symm
  · rw [expiry, Option.all_some, decide_eq_false_iff_not] at unexpired
    exact Nat.not_lt.mp unexpired

/-- In every run of operations one after another, exactly the good tokens reset, and
exactly their accounts. -/
theorem resetLaw (recorded : Recorded calls store) (principal : Principal)
    (token newPassword : String)
    (apart : TokensApart (calls ++ [⟨principal, .resetPassword token newPassword, store⟩])) :
    ResetLaw calls store token newPassword fun _ => store.clock := by
  have good_found : ∀ {user}, GoodFor calls store token user → _ := fun good =>
    good.found recorded apart.of_append
  have rejected : ¬((store.databaseUp = true ∧ store.hashingUp = true) ∧
        ∃ user, GoodFor calls store token user) →
      ∃ error, serve (.resetPassword token newPassword) store = (store, .error error) := by
    intro refused
    apply resetPassword_rejected
    intro up hashing user found
    by_contra unexpired
    exact refused ⟨⟨up, hashing⟩, user,
      goodFor_of_found recorded apart found (eq_false_of_ne_true unexpired)⟩
  have succeeds : (serve (.resetPassword token newPassword) store).2 = .ok .acknowledged ↔
      (store.databaseUp = true ∧ store.hashingUp = true) ∧
        ∃ user, GoodFor calls store token user := by
    constructor
    · intro done
      by_contra refused
      obtain ⟨error, failed⟩ := rejected refused
      rw [failed] at done
      cases done
    · rintro ⟨⟨up, hashing⟩, user, good⟩
      obtain ⟨found, unexpired⟩ := good_found good
      rw [resetPassword_accepted up hashing found unexpired]
  refine ⟨succeeds, fun done user good => ?_, fun undone => ?_⟩
  · obtain ⟨⟨up, hashing⟩, -⟩ := succeeds.mp done
    obtain ⟨found, unexpired⟩ := good_found good
    have distinct := recorded.served.distinct List.nodup_nil
    have rewrote : rewritten store user
        (passwordReset user (Libraries.argon2Hash store.randomDraws newPassword)) =
          modifyAt User.id user.id (fun _ => written store user
            (passwordReset user (Libraries.argon2Hash store.randomDraws newPassword)))
            store.users := by
      apply List.map_congr_left
      intro stored member
      by_cases same : stored.id = user.id
      · rw [if_pos same, if_pos same, distinct.unique member good.1 same]
        exact User.apply_changes user _ store.clock
      · rw [if_neg same, if_neg same]
    rw [resetPassword_accepted up hashing found unexpired, rewrote]
    rfl
  · obtain ⟨error, failed⟩ := rejected fun accepted => undone (succeeds.mpr accepted)
    rw [failed]

end Reset

end Law

/-! ## A redeemed token -/

section Redeemed

open scoped Plain

/-- An account with an email, a reset token for it, and a second to pass. -/
def beforeReset : Backend :=
  Backend.environment (.tick 1000)
    (serve (.forgotPassword "a@b")
      (serve (.findOrCreateOAuthUser
        { provider := .google, providerUserId := "g", email := some "a@b" }) {}).1).1

/-- The calls that lead there. -/
def callsBeforeReset : List (Call Unit) :=
  [⟨(), .findOrCreateOAuthUser
      { provider := .google, providerUserId := "g", email := some "a@b" }, {}⟩,
    ⟨(), .forgotPassword "a@b", (serve (.findOrCreateOAuthUser
      { provider := .google, providerUserId := "g", email := some "a@b" }) {}).1⟩]

/-- The calls before the reset lead from the empty store to this one. -/
theorem recorded_beforeReset : Recorded callsBeforeReset beforeReset :=
  .environment _ (.serve () _ (.serve () _ .start))

/-- In this history there is only one token, so the tokens are apart. -/
theorem tokensApart_beforeReset : TokensApart (callsBeforeReset ++
    [⟨(), .resetPassword (ObjectIds.toHexString 0) "secret", beforeReset⟩]) where
  hashes := by
    have only : ∀ token, Used (callsBeforeReset ++
        [⟨(), .resetPassword (ObjectIds.toHexString 0) "secret", beforeReset⟩]) token →
          token = ObjectIds.toHexString 0 := by
      rintro token ⟨call, member, used⟩
      simp only [callsBeforeReset, List.cons_append, List.nil_append, List.mem_cons,
        List.not_mem_nil, or_false] at member
      rcases member with rfl | rfl | rfl
      · rcases used with generated | ⟨_, reset⟩
        · cases generated
        · cases reset
      · rcases used with generated | ⟨_, reset⟩
        · exact (Option.some.inj generated).symm
        · cases reset
      · rcases used with generated | ⟨_, reset⟩
        · cases generated
        · cases reset
          rfl
    intro first used second also _
    rw [only first used, only second also]
  generated := by decide

/-- The premises are met by a request for a reset, a wait and a reset with the generated
token. -/
theorem resetLaw_beforeReset : ResetLaw callsBeforeReset beforeReset (ObjectIds.toHexString 0)
    "secret" fun _ => beforeReset.clock :=
  resetLaw recorded_beforeReset () _ _ tokensApart_beforeReset

/-- The stamp of the record cannot be left out of the law: a reset also writes the time at
which it was performed. -/
theorem not_resetLaw_unstamped : ¬∀ (calls : List (Call Unit)) (store : Backend),
    Recorded calls store → ∀ token newPassword,
      TokensApart (calls ++ [⟨(), .resetPassword token newPassword, store⟩]) →
        ResetLaw calls store token newPassword User.updatedAt := by
  intro law
  have stamped := law _ _ recorded_beforeReset _ _ tokensApart_beforeReset
  have found : beforeReset.users.find? (UserFilter.byResetTokenLive
      (hashResetToken (ObjectIds.toHexString 0))).accepts =
      some (beforeReset.users.head (by decide)) :=
    rfl
  have good := goodFor_of_found recorded_beforeReset tokensApart_beforeReset found (by decide)
  have left := congrArg (fun store : Backend => store.users.map User.updatedAt)
    (stamped.changes rfl _ good)
  revert left
  decide

end Redeemed

end NestMonorepo
