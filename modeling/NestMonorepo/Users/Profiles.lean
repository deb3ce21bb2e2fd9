import NestMonorepo.Users.Runs

/-! # Profile updates from any payload

Nothing checks the payload of `updateUser` on the user service's side: its fields may hold
any JSON value, and what is assigned is what is stored. A record whose profile fields are
JSON values shows this; on well-typed payloads it is the record the service works with.
-/

namespace NestMonorepo

open Collections Concurrency Handler

/-- A user document whose profile fields may hold any value, or be absent. -/
structure RawUser where
  id : ObjectId
  createdAt : Millis
  updatedAt : Millis
  accountType : AccountType
  email : Option String
  passwordHash : Option String
  tokenVersion : Nat
  oauthLinks : List OAuthLink
  upgradedAt : Option Millis
  resetPasswordToken : Option String
  resetPasswordExpiry : Option Millis
  deletedAt : Option Millis
  name : Option Json
  tz : Option Json
  locale : Option Json
  avatarUrl : Option Json
  onboardingCompleted : Option Json
  deriving DecidableEq

/-- The answer, likewise. -/
structure RawDto where
  id : String
  accountType : AccountType
  email : Option String
  name : Json
  tz : Option Json
  locale : Option Json
  avatarUrl : Json
  onboardingCompleted : Json
  createdAt : String
  updatedAt : String
  deriving DecidableEq

/-- `if (data[key] !== undefined) user[key] = data[key]`. -/
def assigned (data : Payload) (key : String) (stored : Option Json) : Option Json :=
  match data.lookup key with
  | none => stored
  | some value => some value

/-- `if (data[key] !== undefined) user[key] = data[key] ?? undefined`. -/
def assignedUnlessNull (data : Payload) (key : String) (stored : Option Json) : Option Json :=
  match data.lookup key with
  | none => stored
  | some .null => none
  | some value => some value

/-- `value ?? fallback`. -/
def orElse (value : Option Json) (fallback : Json) : Json :=
  match value with
  | none => fallback
  | some .null => fallback
  | some value => value

def Locale.json : Locale → Json
  | .ru => .string "ru"
  | .en => .string "en"

/-- The fields of `UpdateUserDto`, which are those of the allowlist. -/
inductive ProfileField where
  | name
  | tz
  | locale
  | avatarUrl
  | onboardingCompleted
  deriving DecidableEq

namespace ProfileField

def key : ProfileField → String
  | .name => "name"
  | .tz => "tz"
  | .locale => "locale"
  | .avatarUrl => "avatarUrl"
  | .onboardingCompleted => "onboardingCompleted"

def all : List ProfileField := [.name, .tz, .locale, .avatarUrl, .onboardingCompleted]

/-- Each field has its own key. -/
theorem key_injective : Function.Injective key := by
  intro first second same
  cases first <;> cases second <;> first | rfl | exact absurd same (by decide)

/-- What a record holds of a field. -/
def get (user : RawUser) : ProfileField → Option Json
  | .name => user.name
  | .tz => user.tz
  | .locale => user.locale
  | .avatarUrl => user.avatarUrl
  | .onboardingCompleted => user.onboardingCompleted

/-- The declared type of a field of the `User` entity. -/
def Typed (stored : Option Json) : ProfileField → Prop
  | .name | .avatarUrl => ∀ value, stored = some value → ∃ text, value = .string text
  | .tz => ∃ text, stored = some (.string text)
  | .locale => ∃ locale : Locale, stored = some locale.json
  | .onboardingCompleted => ∃ completed, stored = some (.bool completed)

end ProfileField

/-- What the ORM says to a value that a flush is to store in a column: the text of the
error it throws instead of writing, if it refuses the value's type. -/
class ColumnTypes where
  refusal : ProfileField → Json → Option String

/-- Values of the declared type and `null` are stored. -/
def ColumnTypes.LetsTyped [ColumnTypes] : Prop :=
  ∀ field value, value = .null ∨ field.Typed (some value) →
    ColumnTypes.refusal field value = none

/-- The allowlist of `updateUser`. -/
def RawUser.allowed (user : RawUser) (data : Payload) : RawUser :=
  { user with
    name := assignedUnlessNull data "name" user.name
    tz := assigned data "tz" user.tz
    locale := assigned data "locale" user.locale
    avatarUrl := assignedUnlessNull data "avatarUrl" user.avatarUrl
    onboardingCompleted := assigned data "onboardingCompleted" user.onboardingCompleted }

/-- The error of a flush that is to turn one record into another, which looks at the columns
that changed. -/
def RawUser.refusal [ColumnTypes] (before after : RawUser) : Option String :=
  ProfileField.all.findSome? fun field =>
    if field.get after = field.get before then none
    else (field.get after).bind (ColumnTypes.refusal field)

variable [Libraries]

namespace RawUsers

def toDto (user : RawUser) : RawDto where
  id := Libraries.toHexString user.id
  accountType := user.accountType
  email := user.email
  name := orElse user.name (.string "")
  tz := user.tz
  locale := user.locale
  avatarUrl := orElse user.avatarUrl .null
  onboardingCompleted := orElse user.onboardingCompleted (.bool false)
  createdAt := Libraries.toISOString user.createdAt
  updatedAt := Libraries.toISOString user.updatedAt

def findById (userId : String) (users : List RawUser) : Except ServiceError RawUser :=
  match Libraries.ofHexString userId with
  | none => .error (.other "invalid ObjectId")
  | some id =>
      match fetch RawUser.id id users with
      | none => .error (.microservice userNotFound)
      | some user =>
          if user.deletedAt.isSome then .error (.microservice userNotFound) else .ok user

/-- `UsersService.updateUser`; a flush with changes stamps `updatedAt`, or is refused as a
whole. -/
def updateUser [ColumnTypes] (userId : String) (data : Payload) (users : List RawUser)
    (now : Millis) : List RawUser × Except ServiceError RawDto :=
  match findById userId users with
  | .error error => (users, .error error)
  | .ok user =>
      if user.allowed data = user then (users, .ok (toDto user))
      else
        match user.refusal (user.allowed data) with
        | some error => (users, .error (.other error))
        | none =>
            (modifyAt RawUser.id user.id
                (fun stored => { stored.allowed data with updatedAt := now }) users,
              .ok (toDto { user.allowed data with updatedAt := now }))

end RawUsers

/-! ## On typed payloads -/

/-- A typed record; a profile field that holds `null` is there. -/
def User.raw (user : User) : RawUser where
  id := user.id
  createdAt := user.createdAt
  updatedAt := user.updatedAt
  accountType := user.accountType
  email := user.email
  passwordHash := user.passwordHash
  tokenVersion := user.tokenVersion
  oauthLinks := user.oauthLinks
  upgradedAt := user.upgradedAt
  resetPasswordToken := user.resetPasswordToken
  resetPasswordExpiry := user.resetPasswordExpiry
  deletedAt := user.deletedAt
  name := user.name.map .string
  tz := some (user.tz.elim .null .string)
  locale := some (user.locale.elim .null Locale.json)
  avatarUrl := user.avatarUrl.map .string
  onboardingCompleted := some (user.onboardingCompleted.elim .null .bool)

def UserDto.raw (dto : UserDto) : RawDto where
  id := dto.id
  accountType := dto.accountType
  email := dto.email
  name := .string dto.name
  tz := some (dto.tz.elim .null .string)
  locale := some (dto.locale.elim .null Locale.json)
  avatarUrl := dto.avatarUrl.elim .null .string
  onboardingCompleted := .bool dto.onboardingCompleted
  createdAt := dto.createdAt
  updatedAt := dto.updatedAt

/-- A typed payload as it travels. -/
def UpdateUserInput.payload (data : UpdateUserInput) : Payload :=
  (data.name.map fun name => ("name", name.elim .null .string)).toList ++
  (data.tz.map fun tz => ("tz", tz.elim .null .string)).toList ++
  (data.locale.map fun locale => ("locale", locale.elim .null Locale.json)).toList ++
  (data.avatarUrl.map fun avatarUrl => ("avatarUrl", avatarUrl.elim .null .string)).toList ++
  (data.onboardingCompleted.map fun completed =>
    ("onboardingCompleted", completed.elim .null .bool)).toList

section Typed

variable {α : Type}

omit [Libraries] in
/-- An optional property is found under its key, if it is there. -/
theorem lookup_toList_self (key : String) (value : Option α) (json : α → Json) :
    (value.map fun held => (key, json held)).toList.lookup key = value.map json := by
  cases value with
  | none => rfl
  | some held => exact List.lookup_cons_self

omit [Libraries] in
/-- Under another key it is not found. -/
theorem lookup_toList_ne {key other : String} (differ : (other == key) = false)
    (value : Option α) (json : α → Json) :
    (value.map fun held => (key, json held)).toList.lookup other = none := by
  cases value with
  | none => rfl
  | some held =>
      change List.lookup other [(key, json held)] = none
      rw [List.lookup_cons, differ]
      rfl

omit [Libraries] in
/-- What a typed payload has under each key. -/
theorem lookup_payload (data : UpdateUserInput) :
    data.payload.lookup "name" = data.name.map (·.elim .null .string) ∧
    data.payload.lookup "tz" = data.tz.map (·.elim .null .string) ∧
    data.payload.lookup "locale" = data.locale.map (·.elim .null Locale.json) ∧
    data.payload.lookup "avatarUrl" = data.avatarUrl.map (·.elim .null .string) ∧
    data.payload.lookup "onboardingCompleted" =
      data.onboardingCompleted.map (·.elim .null .bool) := by
  simp (disch := decide) only [UpdateUserInput.payload, List.lookup_append, lookup_toList_self,
    lookup_toList_ne, Option.or_none, Option.none_or, and_self]

omit [Libraries] in
/-- The allowlist assigns what the typed one does. -/
theorem raw_allowed (user : User) (data : UpdateUserInput) :
    user.raw.allowed data.payload = (data.applyTo user).raw := by
  obtain ⟨name, tz, locale, avatarUrl, completed⟩ := lookup_payload data
  simp only [RawUser.allowed, assigned, assignedUnlessNull, name, tz, locale, avatarUrl, completed,
    User.raw, UpdateUserInput.applyTo, RawUser.mk.injEq, true_and]
  refine ⟨?_, ?_, ?_, ?_, ?_⟩
  · rcases data.name with _ | (_ | _) <;> rfl
  · cases data.tz <;> rfl
  · cases data.locale <;> rfl
  · rcases data.avatarUrl with _ | (_ | _) <;> rfl
  · cases data.onboardingCompleted <;> rfl

omit [Libraries] in
/-- Locales are told apart by their JSON. -/
theorem Locale.json_injective : Function.Injective Locale.json := by
  intro first second same
  cases first with
  | ru =>
      cases second with
      | ru => rfl
      | en => exact absurd (Json.string.inj same) (by decide)
  | en =>
      cases second with
      | ru => exact absurd (Json.string.inj same) (by decide)
      | en => rfl

omit [Libraries] in
/-- Typed records are told apart by their raw forms. -/
theorem User.raw_injective : Function.Injective User.raw := by
  have orNull : ∀ {β : Type} {json : β → Json}, Function.Injective json →
      (∀ value, json value ≠ .null) →
      Function.Injective fun value : Option β => value.elim Json.null json := by
    intro β json injective notNull first second same
    cases first with
    | none =>
        cases second with
        | none => rfl
        | some second => exact (notNull second same.symm).elim
    | some first =>
        cases second with
        | none => exact (notNull first same).elim
        | some second => exact congrArg some (injective same)
  have strings : Function.Injective Json.string := fun _ _ => Json.string.inj
  intro first second same
  simp only [User.raw, RawUser.mk.injEq, Option.some.injEq] at same
  obtain ⟨id, createdAt, updatedAt, accountType, email, passwordHash, tokenVersion, oauthLinks,
    upgradedAt, resetPasswordToken, resetPasswordExpiry, deletedAt, name, tz, locale, avatarUrl,
    completed⟩ := same
  have name := Option.map_injective strings name
  have tz := orNull strings (fun _ => nofun) tz
  have locale := orNull Locale.json_injective (fun value => by cases value <;> exact nofun) locale
  have avatarUrl := Option.map_injective strings avatarUrl
  have completed := orNull (fun _ _ => Json.bool.inj) (fun _ => nofun) completed
  cases first
  cases second
  simp_all only

end Typed

/-! ## The record the service works with -/

/-- The reply of a raw record is that of the typed user it stands for. -/
theorem toDto_raw (user : User) : RawUsers.toDto user.raw = (UsersService.toDto user).raw := by
  obtain ⟨id, createdAt, updatedAt, accountType, name, email, passwordHash, tz, locale, avatarUrl,
    tokenVersion, completed⟩ := user
  simp only [RawUsers.toDto, User.raw, UsersService.toDto, UserDto.raw, RawDto.mk.injEq, true_and,
    and_true]
  refine ⟨rfl, ?_, ?_, ?_⟩
  · cases name <;> rfl
  · cases avatarUrl <;> rfl
  · cases completed <;> rfl

section Refinement

variable {store : Backend}

omit [Libraries] in
/-- Fetching among the raw records is fetching among the users. -/
theorem fetch_raw (id : ObjectId) (users : List User) :
    fetch RawUser.id id (users.map User.raw) = (fetch User.id id users).map User.raw := by
  rw [fetch, fetch, List.find?_map]
  rfl

/-- Looking an id up among the raw records is looking it up among the users they stand for. -/
theorem findById_raw (userId : String) (up : store.databaseUp = true) :
    RawUsers.findById userId (store.users.map User.raw) =
      ((UsersService.findById userId).runIn store).2.map User.raw := by
  unfold RawUsers.findById UsersService.findById
  cases parsed : Libraries.ofHexString userId with
  | none => rfl
  | some id =>
      simp only [runIn_findUser up, fetch_raw]
      change (match (fetch User.id id store.users).map User.raw with
        | none => _
        | some user => _) = _
      cases found : fetch User.id id store.users with
      | none =>
          have none : store.users.find? (UserFilter.byId id).accepts = none := found
          rw [none]
          rfl
      | some user =>
          have some : store.users.find? (UserFilter.byId id).accepts = some user := found
          rw [some]
          simp only [Option.map_some]
          by_cases gone : user.deletedAt.isSome = true
          · have gone' : user.raw.deletedAt.isSome = true := gone
            rw [if_pos gone, if_pos gone']
            rfl
          · have live : ¬user.raw.deletedAt.isSome = true := gone
            rw [if_neg gone, if_neg live]
            rfl

omit [Libraries] in
/-- A flush of a profile has nothing to write exactly if the allowlist changed nothing. -/
theorem changes_applyTo_eq_empty {user : User} {data : UpdateUserInput} :
    user.changes (data.applyTo user) = {} ↔ data.applyTo user = user := by
  constructor
  · intro unchanged
    have name := eq_of_changed_eq_none (congrArg UserChanges.name unchanged)
    have tz := eq_of_changed_eq_none (congrArg UserChanges.tz unchanged)
    have locale := eq_of_changed_eq_none (congrArg UserChanges.locale unchanged)
    have avatarUrl := eq_of_changed_eq_none (congrArg UserChanges.avatarUrl unchanged)
    have completed := eq_of_changed_eq_none (congrArg UserChanges.onboardingCompleted unchanged)
    cases user
    simp only [UpdateUserInput.applyTo] at name tz locale avatarUrl completed ⊢
    rw [← name, ← tz, ← locale, ← avatarUrl, ← completed]
  · intro same
    rw [same]
    simp only [User.changes, changed_self]

/-- One flush of a profile, in the store. -/
theorem runIn_updateUser {userId : String} {user : User} (data : UpdateUserInput)
    (up : store.databaseUp = true)
    (ran : (UsersService.findById userId).runIn store = (store, .ok user)) :
    (UsersService.updateUser userId data).runIn store =
      if data.applyTo user = user then (store, .ok (UsersService.toDto user))
      else ({ store with users := rewritten store user (data.applyTo user) },
        .ok (UsersService.toDto { data.applyTo user with updatedAt := store.clock })) := by
  rw [UsersService.updateUser, runIn_bind_of_ok ran]
  dsimp only
  rw [runIn_flush, User.update]
  by_cases same : data.applyTo user = user
  · rw [if_pos (changes_applyTo_eq_empty.mpr same), if_pos same]
    change (store, Except.ok (UsersService.toDto
      { data.applyTo user with updatedAt := user.updatedAt })) = _
    rw [same]
  · rw [if_neg fun unchanged => same (changes_applyTo_eq_empty.mp unchanged), if_neg same,
      runIn_writeAll_cons _ _ _ _ up]
    have clean : store.violation (.updateUser user.id (user.changes (data.applyTo user))) = none :=
      Backend.violation_of_email (changed_self _)
    rw [clean]
    rfl

omit [Libraries] in
/-- Rewriting a record rewrites its raw form. -/
theorem rewritten_raw {user current : User} {rewrite : RawUser → RawUser}
    (distinct : DistinctIds store) (stored : fetch User.id user.id store.users = some user)
    (same : rewrite user.raw = (user.apply (user.changes current) store.clock).raw) :
    (rewritten store user current).map User.raw =
      modifyAt RawUser.id user.id rewrite (store.users.map User.raw) := by
  unfold rewritten modifyAt
  rw [List.map_map, List.map_map]
  apply List.map_congr_left
  intro held inside
  change User.raw (if held.id = user.id then _ else held) = if held.id = user.id then _ else _
  by_cases here : held.id = user.id
  · rw [if_pos here, if_pos here, distinct.unique inside (fetch_some_mem stored) here, same]
  · rw [if_neg here, if_neg here]

omit [Libraries] in
/-- No column refuses the fields of a record that stands for a user, field by field. -/
theorem refusal_raw [ColumnTypes] (letsTyped : ColumnTypes.LetsTyped)
    (before : RawUser) (user : User) :
    before.refusal user.raw = none := by
  apply List.findSome?_eq_none_iff.mpr
  intro field _
  split
  · rfl
  · cases held : field.get user.raw with
    | none => rfl
    | some value =>
        apply letsTyped
        cases field with
        | name | avatarUrl =>
            obtain ⟨text, -, made⟩ := Option.map_eq_some_iff.mp held
            exact .inr fun other same => ⟨text, (Option.some.inj same).symm.trans made.symm⟩
        | tz =>
            have made : user.tz.elim .null .string = value := Option.some.inj held
            cases kept : user.tz with
            | none => exact .inl (by rw [← made, kept]; rfl)
            | some text => exact .inr ⟨text, by rw [← made, kept]; rfl⟩
        | locale =>
            have made : user.locale.elim .null Locale.json = value := Option.some.inj held
            cases kept : user.locale with
            | none => exact .inl (by rw [← made, kept]; rfl)
            | some locale => exact .inr ⟨locale, by rw [← made, kept]; rfl⟩
        | onboardingCompleted =>
            have made : user.onboardingCompleted.elim .null .bool = value := Option.some.inj held
            cases kept : user.onboardingCompleted with
            | none => exact .inl (by rw [← made, kept]; rfl)
            | some completed => exact .inr ⟨completed, by rw [← made, kept]; rfl⟩

/-- On typed payloads and records the service does what is done here, if the ORM stores
typed values. -/
theorem updateUser_refines [ColumnTypes] (letsTyped : ColumnTypes.LetsTyped)
    (userId : String) (data : UpdateUserInput) (distinct : DistinctIds store)
    (up : store.databaseUp = true) :
    ∃ outcome : Except ServiceError UserDto,
      (serve (.updateUser userId data) store).2 = outcome.map .dto ∧
      RawUsers.updateUser userId data.payload (store.users.map User.raw) store.clock =
        ((serve (.updateUser userId data) store).1.users.map User.raw,
          outcome.map UserDto.raw) := by
  have found := findById_raw userId up
  rcases runIn_findById store userId with ⟨user, -, parsed, stored, live, ran⟩ | ⟨error, ran⟩
  · rw [ran] at found
    have served := runIn_updateUser data up ran
    have allowed := raw_allowed user data
    by_cases same : data.applyTo user = user
    · rw [if_pos same] at served
      refine ⟨.ok (UsersService.toDto user), ?_, ?_⟩
      · rw [serve, UsersController.handle, runIn_bind_of_ok served]
        rfl
      · rw [serve, UsersController.handle, runIn_bind_of_ok served, RawUsers.updateUser, found]
        have unchanged : user.raw.allowed data.payload = user.raw := by rw [allowed, same]
        simp only [Except.map, unchanged, ↓reduceIte, toDto_raw]
        rfl
    · rw [if_neg same] at served
      refine ⟨.ok (UsersService.toDto { data.applyTo user with updatedAt := store.clock }), ?_, ?_⟩
      · rw [serve, UsersController.handle, runIn_bind_of_ok served]
        rfl
      · have changed : ¬user.raw.allowed data.payload = user.raw := by
          rw [allowed]
          exact fun equal => same (User.raw_injective equal)
        have users : (rewritten store user (data.applyTo user)).map User.raw =
            modifyAt RawUser.id user.id
              (fun held => { held.allowed data.payload with updatedAt := store.clock })
              (store.users.map User.raw) := by
          apply rewritten_raw distinct stored
          rw [allowed, User.apply_changes]
          rfl
        rw [serve, UsersController.handle, runIn_bind_of_ok served, RawUsers.updateUser, found]
        simp only [Except.map, Program.pure_eq, runIn_ret]
        rw [if_neg changed, allowed, refusal_raw letsTyped]
        dsimp only
        rw [users]
        have dto := toDto_raw { data.applyTo user with updatedAt := store.clock }
        exact congrArg (Prod.mk _) (congrArg Except.ok dto)
  · rw [ran] at found
    have served : serve (.updateUser userId data) store = (store, .error error) := by
      rw [serve, UsersController.handle, runIn_bind_of_error]
      rw [UsersService.updateUser, runIn_bind_of_error ran]
    refine ⟨.error error, ?_, ?_⟩
    · rw [served]
      rfl
    · rw [RawUsers.updateUser, found, served]
      rfl

end Refinement

end NestMonorepo
