import NestMonorepo.Users.Devices
import NestMonorepo.Users.Provenance

/-! # Login against the history of an account

The history of a run names the password an account was last given and how many
times its tokens were revoked. A stored record agrees with it: the hash is that
password's, and the token version counts the revocations.
-/

namespace NestMonorepo

open Collections Concurrency Handler UsersService

section Law

variable [Libraries] {Principal : Type}

/-! ## What a history says of an account -/

namespace Call

/-- The call was answered without an error. -/
def succeeded (call : Call Principal) : Bool :=
  match (serve call.operation call.before).2 with
  | .ok _ => true
  | .error _ => false

/-- The account an upgrade or a reset is about. -/
def subject (call : Call Principal) : Option ObjectId :=
  match call.operation with
  | .upgradeAccount userId _ => Libraries.ofHexString userId
  | .resetPassword token _ => (call.before.users.find?
      (UserFilter.byResetTokenLive (hashResetToken token)).accepts).map User.id
  | _ => none

omit [Libraries] in
/-- The password an upgrade by email or a reset sets. -/
def password (call : Call Principal) : Option String :=
  match call.operation with
  | .upgradeAccount _ payload => if payload.method = .email then payload.password else none
  | .resetPassword _ newPassword => some newPassword
  | _ => none

/-- A successful upgrade or reset of the account. -/
def revokes (call : Call Principal) (id : ObjectId) : Bool :=
  call.succeeded && decide (call.subject = some id)

end Call

/-- How often the account has been upgraded or reset. -/
def generation (calls : List (Call Principal)) (id : ObjectId) : Nat :=
  calls.countP (·.revokes id)

/-- The password the account was last given. -/
def currentPassword (calls : List (Call Principal)) (id : ObjectId) : Option String :=
  ((calls.filter (·.revokes id)).filterMap Call.password).getLast?

section History

variable {calls : List (Call Principal)} {call : Call Principal} {id : ObjectId}

/-- A further call raises an account's generation by one if it revokes that account's
tokens, and leaves it otherwise. -/
theorem generation_append (calls : List (Call Principal)) (call : Call Principal)
    (id : ObjectId) :
    generation (calls ++ [call]) id =
      generation calls id + if call.revokes id then 1 else 0 := by
  rw [generation, List.countP_append, List.countP_singleton, generation]

/-- A call that revokes nothing of the user leaves the current password. -/
theorem currentPassword_of_not_revokes (quiet : call.revokes id = false) :
    currentPassword (calls ++ [call]) id = currentPassword calls id := by
  simp only [currentPassword, List.filter_append, List.filter_singleton, quiet, cond_false,
    List.append_nil]

/-- A revoking call that sets a password makes it the current one. -/
theorem currentPassword_of_password {password : String} (revokes : call.revokes id = true)
    (set : call.password = some password) :
    currentPassword (calls ++ [call]) id = some password := by
  simp only [currentPassword, List.filter_append, List.filter_singleton, revokes, cond_true,
    List.filterMap_append, List.filterMap_cons, set, List.filterMap_nil, List.getLast?_concat]

/-- A call that sets no password leaves the current one. -/
theorem currentPassword_of_none (unset : call.password = none) :
    currentPassword (calls ++ [call]) id = currentPassword calls id := by
  simp only [currentPassword, List.filter_append, List.filterMap_append]
  cases revokes : call.revokes id with
  | false =>
      simp only [List.filter_singleton, revokes, cond_false, List.filterMap_nil, List.append_nil]
  | true =>
      simp only [List.filter_singleton, revokes, cond_true, List.filterMap_cons, unset,
        List.filterMap_nil, List.append_nil]

end History

/-! ## Records agree with the history -/

/-- A live record agrees with the history of its account. -/
structure Tracked (calls : List (Call Principal)) (user : User) : Prop where
  generation : user.tokenVersion = generation calls user.id
  password : (currentPassword calls user.id = none ∧ user.passwordHash = none) ∨
    ∃ draw password, currentPassword calls user.id = some password ∧
      user.passwordHash = some (Libraries.argon2Hash draw password)

/-- What every run keeps between its history and its store. -/
structure Ledger (calls : List (Call Principal)) (store : Backend) : Prop where
  tracked : ∀ user ∈ store.users, user.Live → Tracked calls user
  known : ∀ call ∈ calls, ∀ id, call.revokes id = true → ∃ user ∈ store.users, user.id = id
  emails : ∀ user ∈ store.users, ∀ other ∈ store.users, ∀ email,
    user.email = some email → other.email = some email → user.id = other.id

/-- An account without revocations so far. -/
theorem Ledger.fresh {calls : List (Call Principal)} {store : Backend} {id : ObjectId}
    (ledger : Ledger calls store) (fresh : fetch User.id id store.users = none) :
    generation calls id = 0 ∧ currentPassword calls id = none := by
  have quiet : ∀ call ∈ calls, ¬call.revokes id = true := by
    intro call member revokes
    obtain ⟨user, inside, same⟩ := ledger.known call member id revokes
    exact fetch_eq_none.mp fresh user inside same
  refine ⟨List.countP_eq_zero.mpr quiet, ?_⟩
  rw [currentPassword, List.filter_eq_nil_iff.mpr quiet]
  rfl

section Step

variable {calls : List (Call Principal)} {store : Backend} {user loaded current : User}
  {principal : Principal} {operation : UserOperation}

/-- A call that revokes nothing of the account leaves its record in agreement. -/
theorem Tracked.of_quiet {call : Call Principal} (tracked : Tracked calls loaded)
    (quiet : call.revokes loaded.id = false) (id : user.id = loaded.id)
    (version : user.tokenVersion = loaded.tokenVersion)
    (password : user.passwordHash = loaded.passwordHash) : Tracked (calls ++ [call]) user := by
  refine ⟨?_, ?_⟩
  · rw [generation_append, id, quiet, if_neg Bool.false_ne_true, version, tracked.generation,
      Nat.add_zero]
  · rw [id, currentPassword_of_not_revokes quiet, password]
    exact tracked.password

/-- An operation other than upgrade and reset revokes nothing. -/
theorem Call.revokes_of_subject {call : Call Principal} (none : call.subject = none)
    (id : ObjectId) : call.revokes id = false := by
  simp only [Call.revokes, none, reduceCtorEq, decide_false, Bool.and_false]

/-- A failed call revokes no account's tokens. -/
theorem Call.revokes_of_failed {call : Call Principal} {error : ServiceError}
    (failed : (serve call.operation call.before).2 = .error error) (id : ObjectId) :
    call.revokes id = false := by
  simp only [Call.revokes, Call.succeeded, failed, Bool.false_and]

/-- A successful upgrade or reset revokes the tokens of its own subject only. -/
theorem Call.revokes_of_ok (call : Call Principal) {answer : Answer} {subject : ObjectId}
    (ok : (serve call.operation call.before).2 = .ok answer)
    (about : call.subject = some subject) (id : ObjectId) :
    call.revokes id = decide (id = subject) := by
  simp only [Call.revokes, Call.succeeded, ok, about, Option.some.injEq, Bool.true_and,
    eq_comm (a := id)]

/-- A call that leaves the users alone and revokes nothing keeps the agreement. -/
theorem Ledger.of_users_eq {call : Call Principal} {after : Backend} (ledger : Ledger calls store)
    (same : after.users = store.users) (quiet : ∀ id, call.revokes id = false) :
    Ledger (calls ++ [call]) after := by
  refine ⟨fun user member live => ?_, fun other member id revokes => ?_, ?_⟩
  · rw [same] at member
    exact (ledger.tracked user member live).of_quiet (quiet _) rfl rfl rfl
  · rcases List.mem_append.mp member with old | new
    · rw [same]
      exact ledger.known other old id revokes
    · rw [List.mem_singleton.mp new, quiet id] at revokes
      cases revokes
  · rw [same]
    exact ledger.emails

/-- A call that adds an account without password and revokes nothing keeps the
agreement. -/
theorem Ledger.of_added {call : Call Principal} {after : Backend} {added : User}
    (ledger : Ledger calls store) (appended : after.users = store.users ++ [added])
    (fresh : fetch User.id added.id store.users = none) (quiet : ∀ id, call.revokes id = false)
    (version : added.tokenVersion = 0) (unset : added.passwordHash = none)
    (free : ∀ other ∈ store.users, ∀ email, added.email = some email →
      other.email ≠ some email) : Ledger (calls ++ [call]) after := by
  obtain ⟨unrevoked, unlocked⟩ := ledger.fresh fresh
  refine ⟨fun user member live => ?_, fun other member id revokes => ?_,
    fun user member other inside email addressed same => ?_⟩
  · rw [appended] at member
    rcases List.mem_append.mp member with old | new
    · exact (ledger.tracked user old live).of_quiet (quiet _) rfl rfl rfl
    · rw [List.mem_singleton.mp new]
      refine ⟨?_, .inl ⟨?_, unset⟩⟩
      · rw [generation_append, quiet, unrevoked, version]
        rfl
      · rw [currentPassword_of_not_revokes (quiet _), unlocked]
  · rcases List.mem_append.mp member with old | new
    · obtain ⟨user, present, same⟩ := ledger.known other old id revokes
      exact ⟨user, appended ▸ List.mem_append_left _ present, same⟩
    · rw [List.mem_singleton.mp new, quiet id] at revokes
      cases revokes
  · rw [appended] at member inside
    rcases List.mem_append.mp member with old | new
    · rcases List.mem_append.mp inside with old' | new'
      · exact ledger.emails user old other old' email addressed same
      · rw [List.mem_singleton.mp new'] at same
        exact (free user old email same addressed).elim
    · rw [List.mem_singleton.mp new] at addressed ⊢
      rcases List.mem_append.mp inside with old' | new'
      · exact (free other old' email addressed same).elim
      · rw [List.mem_singleton.mp new']

/-- A call that rewrites one account keeps the agreement if the rewritten record
agrees, no other account was revoked, and its email is its own. -/
theorem Ledger.of_rewritten {call : Call Principal} {after : Backend}
    (ledger : Ledger calls store) (distinct : DistinctIds store) (member : loaded ∈ store.users)
    (rewrote : after.users = rewritten store loaded current)
    (tracked : current.Live → Tracked (calls ++ [call]) (written store loaded current))
    (others : ∀ id, id ≠ loaded.id → call.revokes id = false)
    (own : ∀ other ∈ store.users, ∀ email, current.email = some email →
      other.email = some email → other.id = loaded.id) : Ledger (calls ++ [call]) after := by
  have cases_of : ∀ {user}, user ∈ after.users →
      user ∈ store.users ∧ user.id ≠ loaded.id ∨ user = written store loaded current := by
    intro user present
    rw [rewrote] at present
    rcases mem_modifyAt present with old | ⟨old, inside, same, rfl⟩
    · exact .inl old
    · rw [distinct.unique inside member same, User.apply_changes]
      exact .inr rfl
  refine ⟨fun user present live => ?_, fun other earlier id revokes => ?_,
    fun user present other inside email addressed same => ?_⟩
  · rcases cases_of present with ⟨old, differ⟩ | rfl
    · exact (ledger.tracked user old live).of_quiet (others _ differ) rfl rfl rfl
    · exact tracked live
  · suffices stored : id ∈ store.users.map User.id by
      rw [← rewritten_ids store loaded current, ← rewrote] at stored
      exact List.mem_map.mp stored
    rcases List.mem_append.mp earlier with old | new
    · exact List.mem_map.mpr (ledger.known other old id revokes)
    · by_cases same : id = loaded.id
      · exact List.mem_map.mpr ⟨loaded, member, same.symm⟩
      · rw [List.mem_singleton.mp new, others id same] at revokes
        cases revokes
  · rcases cases_of present with ⟨old, _⟩ | rfl
    · rcases cases_of inside with ⟨old', _⟩ | rfl
      · exact ledger.emails user old other old' email addressed same
      · exact own user old email same addressed
    · rcases cases_of inside with ⟨old', _⟩ | rfl
      · exact (own other old' email addressed same).symm
      · rfl

omit [Libraries] in
/-- An email the index lets through belongs to no other account. -/
theorem emailTaken_eq_false {id : ObjectId} {email : Option String}
    (free : emailTaken store.users id email = false) {other : User}
    (member : other ∈ store.users) {value : String} (wanted : email = some value)
    (same : other.email = some value) : other.id = id := by
  rw [wanted, emailTaken, Option.isSome_some, Bool.true_and, List.any_eq_false] at free
  by_contra differ
  exact free other member (decide_eq_true ⟨differ, same⟩)

/-- A call that neither upgrades nor resets keeps the ledger: an account that stays live
keeps its password and its token version, and no email moves. -/
theorem Ledger.of_calm (ledger : Ledger calls store) (distinct : DistinctIds store)
    {call : Call Principal} (met : call.before = store) (calm : call.subject = none) :
    Ledger (calls ++ [call]) (serve call.operation store).1 := by
  have quiet := Call.revokes_of_subject calm
  have rewrites_to : ∀ {loaded current : User}, loaded ∈ store.users →
      (serve call.operation store).1.users = rewritten store loaded current →
      current.email = loaded.email ∨ current.email = none →
      (current.Live → loaded.Live ∧ current.tokenVersion = loaded.tokenVersion ∧
        current.passwordHash = loaded.passwordHash) →
      Ledger (calls ++ [call]) (serve call.operation store).1 := by
    intro loaded current member rewrote email same
    apply ledger.of_rewritten distinct member rewrote
    · intro live
      obtain ⟨alive, version, password⟩ := same live
      exact (ledger.tracked loaded member alive).of_quiet (quiet _) rfl version password
    · exact fun id _ => quiet id
    · intro other inside value addressed taken
      rcases email with kept | cleared
      · exact ledger.emails other inside loaded member value taken (kept.symm.trans addressed)
      · exact nomatch cleared.symm.trans addressed
  have ends := serve_ends call.operation store
  generalize operated : call.operation = operation at ends rewrites_to ⊢
  rcases ends.shape with same | ⟨added, adds, fresh, appended⟩ |
    ⟨loaded, current, member, live, rewrites, rewrote⟩
  · exact ledger.of_users_eq same quiet
  · cases adds with
    | autoreg => exact ledger.of_added appended fresh quiet rfl rfl fun _ _ _ => nofun
    | oauth _ free =>
        apply ledger.of_added appended fresh quiet rfl rfl
        intro other member email addressed same
        have equal := emailTaken_eq_false free member addressed same
        exact fetch_eq_none.mp fresh other member equal
  · cases rewrites with
    | upgraded parsed =>
        rw [Call.subject, operated] at calm
        exact nomatch calm.symm.trans parsed
    | passwordReset found =>
        rw [Call.subject, operated, met] at calm
        rw [Option.map_eq_none_iff, found] at calm
        cases calm
    | merged => exact rewrites_to member rewrote (.inl rfl) fun _ => ⟨live, rfl, rfl⟩
    | resetRequested => exact rewrites_to member rewrote (.inl rfl) fun _ => ⟨live, rfl, rfl⟩
    | profile => exact rewrites_to member rewrote (.inl rfl) fun _ => ⟨live, rfl, rfl⟩
    | deleted => exact rewrites_to member rewrote (.inr rfl) nofun

/-- An upgrade keeps the ledger: its account is given the password of the call, and its
generation and its token version go up by one together. -/
theorem Ledger.of_upgrade (ledger : Ledger calls store) (distinct : DistinctIds store)
    (userId : String) (payload : UpgradePayload) :
    Ledger (calls ++ [⟨principal, .upgradeAccount userId payload, store⟩])
      (serve (.upgradeAccount userId payload) store).1 := by
  obtain ⟨outcome, ends, answered⟩ := upgradeAccount_message userId payload store
  generalize (serve (.upgradeAccount userId payload) store).1 = after at ends
  cases ends with
  | failed error =>
      exact ledger.of_users_eq rfl fun id => Call.revokes_of_failed answered id
  | @upgraded _ loaded current _ parsed stored live _ credentials clean hashes =>
      have member := fetch_some_mem stored
      have revokes := Call.revokes_of_ok (⟨principal, .upgradeAccount userId payload, store⟩ :
        Call Principal) answered parsed
      have revoked := (revokes loaded.id).trans (decide_eq_true rfl)
      apply ledger.of_rewritten distinct member rfl
      · intro _
        obtain ⟨counted, known⟩ := ledger.tracked loaded member live
        refine ⟨?_, ?_⟩
        · change current.tokenVersion + 1 = _
          rw [credentials.tokenVersion, counted, generation_append]
          exact congrArg _ (if_pos revoked).symm
        · cases credentials with
          | password passwordHash byEmail =>
              obtain ⟨password, given, hashed⟩ := hashes byEmail
              refine .inr ⟨store.randomDraws, password, ?_, hashed⟩
              exact currentPassword_of_password revoked ((if_pos byEmail).trans given)
          | link linkedAt byLink =>
              have unset : Call.password (⟨principal, .upgradeAccount userId payload, store⟩ :
                  Call Principal) = none :=
                if_neg fun byEmail : payload.method = .email => nomatch byLink.symm.trans byEmail
              change (currentPassword _ loaded.id = none ∧ _) ∨
                ∃ draw password, currentPassword _ loaded.id = _ ∧ _
              rw [currentPassword_of_none unset]
              exact known
      · exact fun id differ => (revokes id).trans (decide_eq_false differ)
      · intro other inside email addressed taken
        have free : emailTaken store.users loaded.id
            ((loaded.changes (upgraded current payload store.clock)).email.getD none) = false := by
          apply Backend.emailTaken_of_violation clean
          rw [stored, Option.isSome_some]
        by_cases same : loaded.email = (upgraded current payload store.clock).email
        · exact ledger.emails other inside loaded member email taken (same.trans addressed)
        · change emailTaken store.users loaded.id ((changed loaded.email _).getD none) =
          false at free
          rw [changed_of_ne same, Option.getD_some] at free
          exact emailTaken_eq_false free inside addressed taken

/-- So does a reset: the account that the token is found on is given the new password, and
both counts go up by one. -/
theorem Ledger.of_reset (ledger : Ledger calls store) (distinct : DistinctIds store)
    (token newPassword : String) :
    Ledger (calls ++ [⟨principal, .resetPassword token newPassword, store⟩])
      (serve (.resetPassword token newPassword) store).1 := by
  have wrapped : serve (.resetPassword token newPassword) store =
      (((UsersService.resetPassword token newPassword).runIn store).1,
        ((UsersService.resetPassword token newPassword).runIn store).2.map fun _ =>
          .acknowledged) := serve_eq rfl
  rcases resetPassword_cases store token newPassword with
    ⟨error, failed, users⟩ | ⟨loaded, found, _, users, done⟩
  · rw [failed] at wrapped
    rw [wrapped]
    apply ledger.of_users_eq users
    exact Call.revokes_of_failed (congrArg Prod.snd wrapped)
  · rw [done] at wrapped
    have member := List.mem_of_find?_eq_some found
    have accepted := UserFilter.accepts_byResetTokenLive.mp (List.find?_some found)
    have revokes := Call.revokes_of_ok (⟨principal, .resetPassword token newPassword, store⟩ :
      Call Principal) (congrArg Prod.snd wrapped) (congrArg (Option.map User.id) found)
    have revoked := (revokes loaded.id).trans (decide_eq_true rfl)
    rw [wrapped]
    apply ledger.of_rewritten distinct member users
    · intro _
      obtain ⟨counted, _⟩ := ledger.tracked loaded member accepted.2
      refine ⟨?_, .inr ⟨store.randomDraws, newPassword, currentPassword_of_password revoked rfl,
        rfl⟩⟩
      change loaded.tokenVersion + 1 = _
      rw [counted, generation_append]
      exact congrArg _ (if_pos revoked).symm
    · exact fun id differ => (revokes id).trans (decide_eq_false differ)
    · exact fun other inside email addressed taken =>
        ledger.emails other inside loaded member email taken addressed

/-- Every message keeps the agreement. -/
theorem Ledger.serve (ledger : Ledger calls store) (distinct : DistinctIds store)
    (principal : Principal) (operation : UserOperation) :
    Ledger (calls ++ [⟨principal, operation, store⟩]) (serve operation store).1 := by
  cases operation with
  | upgradeAccount userId payload => exact ledger.of_upgrade distinct userId payload
  | resetPassword token newPassword => exact ledger.of_reset distinct token newPassword
  | _ => exact ledger.of_calm distinct rfl rfl

end Step

/-- After every recorded history the ledger is balanced: each account's token version counts
the calls that revoked it. -/
theorem Recorded.ledger {calls : List (Call Principal)} {store : Backend}
    (recorded : Recorded calls store) : Ledger calls store := by
  induction recorded with
  | start => exact ⟨fun _ none => (nomatch none), fun _ none => (nomatch none),
      fun _ none => nomatch none⟩
  | serve principal operation recorded ih =>
      exact ih.serve (recorded.served.distinct List.nodup_nil) principal operation
  | @environment _ earlier event _ ih =>
      have same := (environment_frame event earlier).1
      refine ⟨?_, ?_, ?_⟩
      · rw [same]
        exact ih.tracked
      · rw [same]
        exact ih.known
      · rw [same]
        exact ih.emails

/-! ## Login -/

/-- What argon2 promises: a hash verifies exactly the password it was made from,
under any salt, and is never empty. -/
structure Argon2Law : Prop where
  verifies : ∀ draw password attempt,
    Libraries.argon2Verify (Libraries.argon2Hash draw password) attempt =
      .ok (decide (password = attempt))
  nonempty : ∀ draw password, Libraries.argon2Hash draw password ≠ ""

/-- The login succeeds for this account: it is live, has the email, and was last
given this password. -/
def Authenticates (calls : List (Call Principal)) (email password : String) (user : User) :
    Prop :=
  user.Live ∧ user.email = some email ∧ currentPassword calls user.id = some password

variable {calls : List (Call Principal)} {store : Backend}

/-- A login finds the account its email and password belong to, or none does and
it is refused. -/
theorem login_cases (law : Argon2Law) (recorded : Recorded calls store)
    (up : store.databaseUp = true) (email password : String) :
    (∃ user ∈ store.users, Authenticates calls email password user ∧
      serve (.login email password) store = (store, .ok (.identity
        ⟨user.hexId, user.accountType, generation calls user.id⟩))) ∨
    (∀ user ∈ store.users, ¬Authenticates calls email password user) ∧
      serve (.login email password) store = (store, .error (.microservice invalidCredentials)) := by
  have ledger := recorded.ledger
  rw [serve_eq rfl, UsersService.login, runIn_findUser up]
  cases found : store.users.find? (UserFilter.byEmailLive email).accepts with
  | none =>
      refine .inr ⟨fun user member authenticates => ?_, rfl⟩
      obtain ⟨live, addressed, -⟩ := authenticates
      apply List.find?_eq_none.mp found user member
      simp only [UserFilter.accepts, addressed, live, decide_true, Bool.and_self]
  | some user =>
      have member := List.mem_of_find?_eq_some found
      have accepted := UserFilter.accepts_byEmailLive.mp (List.find?_some found)
      obtain ⟨addressed, live⟩ := accepted
      have only : ∀ other ∈ store.users, Authenticates calls email password other →
          currentPassword calls user.id = some password := by
        intro other inside authenticates
        obtain ⟨-, same, current⟩ := authenticates
        rw [ledger.emails user member other inside email addressed same]
        exact current
      obtain ⟨counted, known⟩ := ledger.tracked user member live
      rcases known with ⟨unlocked, unset⟩ | ⟨draw, current, locked, hashed⟩
      · refine .inr ⟨fun other inside authenticates => ?_, ?_⟩
        · cases unlocked.symm.trans (only other inside authenticates)
        · simp only [unset, truthy, Option.filter_none, Option.isNone_none, Bool.true_or,
            ↓reduceIte, runIn_throw, Except.map]
      · have present : truthy user.passwordHash = some (Libraries.argon2Hash draw current) :=
          truthy_eq_some.mpr ⟨hashed, law.nonempty draw current⟩
        have verified : verifyPassword ((Option.bind (some user) User.passwordHash).getD
            dummyArgon2Hash) password = decide (current = password) := by
          simp only [Option.bind_some, hashed, Option.getD_some, verifyPassword, law.verifies]
        by_cases same : current = password
        · subst same
          refine .inl ⟨user, member, ⟨live, addressed, locked⟩, ?_⟩
          simp only [present, verified, Option.isNone_some, decide_true, Bool.not_true,
            Bool.or_self, Bool.false_eq_true, ↓reduceIte, Program.pure_eq, runIn_ret, Except.map,
            User.identity, counted]
        · refine .inr ⟨fun other inside authenticates => ?_, ?_⟩
          · exact same (Option.some.inj (locked.symm.trans (only other inside authenticates)))
          · simp only [present, verified, same, Option.isNone_some, decide_false, Bool.not_false,
              Bool.or_true, ↓reduceIte, runIn_throw, Except.map]

/-- Login means the current password and the current generation: it answers with
the live account that has the email and was last given the password, and with the
number of its upgrades and resets; in every other case the refusal is the same. -/
theorem login_current (law : Argon2Law) (recorded : Recorded calls store)
    (up : store.databaseUp = true) (email password : String) :
    (∀ user ∈ store.users, Authenticates calls email password user →
      serve (.login email password) store = (store, .ok (.identity
        ⟨user.hexId, user.accountType, generation calls user.id⟩))) ∧
    ((∀ user ∈ store.users, ¬Authenticates calls email password user) →
      serve (.login email password) store =
        (store, .error (.microservice invalidCredentials))) := by
  have distinct := recorded.served.distinct List.nodup_nil
  rcases login_cases law recorded up email password with
    ⟨found, member, authenticates, answered⟩ | ⟨nobody, answered⟩
  · refine ⟨fun user inside same => ?_, fun nobody => (nobody found member authenticates).elim⟩
    have equal := recorded.ledger.emails user inside found member email same.2.1
      authenticates.2.1
    rw [distinct.unique inside member equal]
    exact answered
  · exact ⟨fun user inside same => (nobody user inside same).elim, fun _ => answered⟩

end Law

section Salted

/-- Library functions whose password hashes carry a salt of the draw's length. -/
local instance saltedLibraries : Libraries :=
  { Plain.libraries with
    argon2Hash := fun draw password =>
      String.ofList (List.replicate draw 's' ++ '$' :: password.toList)
    argon2Verify := fun passwordHash password =>
      .ok (decide (String.ofList ((passwordHash.toList.dropWhile (· = 's')).drop 1) = password)) }

/-- The salted hash verifies exactly the password it was made from, and is never empty. -/
theorem salted_law : Argon2Law where
  verifies draw password attempt := by
    have unsalted : (List.replicate draw 's' ++ '$' :: password.toList).dropWhile
        (fun character => decide (character = 's')) = '$' :: password.toList := by
      induction draw with
      | zero => rfl
      | succ draw ih => exact ih
    change Except.ok (decide (String.ofList (List.drop 1 (List.dropWhile _
      (String.toList (String.ofList _)))) = attempt)) = _
    rw [String.toList_ofList, unsalted, List.drop_succ_cons, List.drop_zero, String.ofList_toList]
  nonempty draw password empty := by
    have texts : List.replicate draw 's' ++ '$' :: password.toList = [] :=
      String.toList_ofList.symm.trans (congrArg String.toList empty)
    exact List.append_ne_nil_of_right_ne_nil _ (List.cons_ne_nil _ _) texts

def emailUpgrade : UpgradePayload where
  method := .email
  email := some "a@b"
  password := some "p"

/-- An anonymous account. -/
def visitorStore : Backend := (serve (.createAutoregUser { fingerprint := "f" }) {}).1

/-- The account once it is upgraded by email. -/
def memberStore : Backend :=
  (serve (.upgradeAccount (ObjectIds.toHexString 0) emailUpgrade) visitorStore).1

def memberCalls : List (Call Unit) :=
  [⟨(), .createAutoregUser { fingerprint := "f" }, {}⟩,
    ⟨(), .upgradeAccount (ObjectIds.toHexString 0) emailUpgrade, visitorStore⟩]

/-- The calls of the example lead to its store. -/
theorem member_recorded : Recorded memberCalls memberStore :=
  .serve () (.upgradeAccount (ObjectIds.toHexString 0) emailUpgrade)
    (.serve () (.createAutoregUser { fingerprint := "f" }) .start)

/-- With the current password the member signs in, with another one they are refused; the
store is the same after both. -/
theorem login_current_member :
    serve (.login "a@b" "p") memberStore =
        (memberStore, .ok (.identity ⟨ObjectIds.toHexString 0, .user, 1⟩)) ∧
      serve (.login "a@b" "q") memberStore =
        (memberStore, .error (.microservice invalidCredentials)) := by
  constructor
  · exact (login_current salted_law member_recorded rfl "a@b" "p").1
      (upgraded (withPassword (autoregUser 0 0) "a@b" (Libraries.argon2Hash 0 "p")) emailUpgrade 0)
      (List.mem_of_getElem? (i := 0) rfl) ⟨rfl, rfl, rfl⟩
  · refine (login_current salted_law member_recorded rfl "a@b" "q").2 ?_
    intro user present ⟨_, _, current⟩
    have same : user.id = 0 := List.mem_singleton.mp (List.mem_map_of_mem (f := User.id) present)
    rw [same] at current
    exact absurd current (by decide)

end Salted

end NestMonorepo
