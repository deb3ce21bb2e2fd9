import NestMonorepo.Database.ObjectIds
import NestMonorepo.Users.SideBySide

/-! # Replies of the user service

What a message handler returns or throws is sent over RabbitMQ as JSON. An upgrade returns
the entity itself, and an entity is serialised with all its stored properties.
-/

namespace NestMonorepo

open Collections Concurrency Handler UsersService

/-! ## Serialisation -/

/-- An optional property: left out when it is `undefined`. -/
def optional (name : String) (value : Option Json) : List (String × Json) :=
  (value.map fun value => (name, value)).toList

def AccountType.json : AccountType → Json
  | .autoreg => .string "autoreg"
  | .user => .string "user"

def OAuthProvider.json : OAuthProvider → Json
  | .google => .string "google"
  | .apple => .string "apple"
  | .vk => .string "vk"
  | .yandex => .string "yandex"

section Serialisation

variable [Libraries]

def dateJson (at_ : Millis) : Json := .string (Libraries.toISOString at_)

def OAuthLink.json (link : OAuthLink) : Json :=
  .object ([("provider", link.provider.json), ("providerUserId", .string link.providerUserId)] ++
    optional "email" (link.email.map .string) ++ [("linkedAt", dateJson link.linkedAt)])

/-- The entity with all its stored properties. -/
def User.json (user : User) : Json :=
  .object ([("id", .string user.hexId), ("createdAt", dateJson user.createdAt),
      ("updatedAt", dateJson user.updatedAt), ("accountType", user.accountType.json)] ++
    optional "name" (user.name.map .string) ++
    optional "email" (user.email.map .string) ++
    optional "passwordHash" (user.passwordHash.map .string) ++
    [("tz", user.tz.elim .null .string), ("locale", user.locale.elim .null Locale.json)] ++
    optional "avatarUrl" (user.avatarUrl.map .string) ++
    [("tokenVersion", .number user.tokenVersion),
      ("onboardingCompleted", user.onboardingCompleted.elim .null .bool),
      ("oauthLinks", .array (user.oauthLinks.map OAuthLink.json))] ++
    optional "upgradedAt" (user.upgradedAt.map dateJson) ++
    optional "resetPasswordToken" (user.resetPasswordToken.map .string) ++
    optional "resetPasswordExpiry" (user.resetPasswordExpiry.map dateJson) ++
    optional "deletedAt" (user.deletedAt.map dateJson))

def UserDto.json (dto : UserDto) : Json :=
  .object [("id", .string dto.id), ("accountType", dto.accountType.json),
    ("email", dto.email.elim .null .string), ("name", .string dto.name),
    ("tz", dto.tz.elim .null .string), ("locale", dto.locale.elim .null Locale.json),
    ("avatarUrl", dto.avatarUrl.elim .null .string),
    ("onboardingCompleted", .bool dto.onboardingCompleted),
    ("createdAt", .string dto.createdAt), ("updatedAt", .string dto.updatedAt)]

def Answer.json : Answer → Json
  | .autoreg result => .object [("id", .string result.id),
      ("deviceRecordId", .string result.deviceRecordId),
      ("tokenVersion", .number result.tokenVersion)]
  | .identity result => .object [("id", .string result.id),
      ("accountType", result.accountType.json), ("tokenVersion", .number result.tokenVersion)]
  | .upgraded user => user.json
  | .acknowledged => .object [("success", .bool true)]
  | .dto profile => profile.json
  | .tokenVersion version => .object [("tokenVersion", .number version)]
  | .swept result => .object [("dispatched", .number result.dispatched),
      ("failed", .number result.failed)]

end Serialisation

def RpcErrorPayload.json (payload : RpcErrorPayload) : Json :=
  .object ([("__rpcError", .bool true), ("status", .number payload.status),
    ("code", .string payload.code), ("message", .string payload.message)] ++
    optional "details" payload.details ++ optional "traceId" (payload.traceId.map .string))

/-! ## Requests -/

/-- A request to a message handler; sweeps are started by the service itself. -/
inductive UserRequest where
  | ping
  | message (operation : UserOperation) (handled : operation ≠ .sweep)

section Law

variable [Libraries]

/-- What a handler's answer is on the wire; `resetPassword` answers `undefined`. -/
def response : UserOperation → Answer → Option Json
  | .resetPassword _ _, _ => none
  | _, answer => some answer.json

/-- The packet of a reply. -/
def packet (traceId : Option String) (operation : UserOperation) :
    Except ServiceError Answer → Json
  | .ok answer => .object (optional "response" (response operation answer) ++
      [("isDisposed", .bool true)])
  | .error error => .object [("err", (RpcAllExceptionsFilter.catch traceId error).json),
      ("isDisposed", .bool true)]

namespace UserRequest

/-- The reply to a request that is served in a store. -/
def reply (traceId : Option String) (store : Backend) : UserRequest → Json
  | .ping => .object [("response", .object [("ok", .bool true), ("service", .string "user")]),
      ("isDisposed", .bool true)]
  | .message operation _ => packet traceId operation (serve operation store).2

/-- The reply has the property of a credential, or quotes a refused fingerprint. -/
def Exposes (traceId : Option String) (store : Backend) (request : UserRequest) : Prop :=
  (∃ name ∈ credentialNames, name ∈ (request.reply traceId store).fieldNames) ∨
    match request with
    | .ping => False
    | .message operation _ => ∃ error, (serve operation store).2 = .error (.mongo error) ∧
        error.quotes "fingerprint"

/-- Whom a request authenticates. -/
def decides (store : Backend) : UserRequest → Option ObjectId
  | .ping => none
  | .message operation _ => authenticates operation store

/-- An upgrade by email that goes through. -/
def UpgradesByEmail (store : Backend) : UserRequest → Prop
  | .message (.upgradeAccount userId payload) _ =>
      store.databaseUp = true ∧ store.hashingUp = true ∧ payload.method = .email ∧
      (truthy payload.password).isSome ∧
      (∃ email, truthy payload.email = some email ∧
        ∀ other ∈ store.users, other.email ≠ some email) ∧
      ∃ user ∈ store.users, Libraries.ofHexString userId = some user.id ∧ user.Live ∧
        user.accountType = .autoreg
  | _ => False

end UserRequest

/-- The reply to the request carries no credential, and depends on none: in any state of the
service that differs in credentials only and decides the request alike, it is the same. -/
structure Confidential (store : Backend) (request : UserRequest) : Prop where
  bare : ∀ traceId, ¬request.Exposes traceId store
  independent : ∀ traceId (pool : ServicePool),
    userService.Reaches (fun _ _ => True) ⟨{}, []⟩ pool → Alike store pool.shared →
      request.decides store = request.decides pool.shared →
        request.reply traceId store = request.reply traceId pool.shared

/-- In every state of the service every request is answered confidentially. -/
def RepliesConfidential : Prop :=
  ∀ pool : ServicePool, userService.Reaches (fun _ _ => True) ⟨{}, []⟩ pool →
    ∀ request, Confidential pool.shared request

/-! ## Properties of a reply -/

section Properties

omit [Libraries]

variable {name : String} {value : Json} {fields rest : List (String × Json)}

/-- No property is a credential, nor is one inside. -/
def HarmlessFields (fields : List (String × Json)) : Prop := (Json.object fields).Harmless

/-- A value without fields is harmless. -/
theorem harmless_of_fieldNames (none : value.fieldNames = []) : value.Harmless := by
  intro name _
  rw [none]
  exact List.not_mem_nil

/-- An optional value is harmless if it has no fields where it is present. -/
theorem harmless_elim {α : Type} {json : α → Json} (plain : ∀ value, (json value).fieldNames = [])
    (value : Option α) : (value.elim .null json).Harmless := by
  apply harmless_of_fieldNames
  cases value with
  | none => simp only [Option.elim_none, Json.fieldNames]
  | some value => exact plain value

/-- An array of harmless items is harmless. -/
theorem harmless_array {items : List Json} (harmless : ∀ item ∈ items, item.Harmless) :
    (Json.array items).Harmless := by
  intro name credential
  induction items with
  | nil => simp only [Json.fieldNames, Json.itemFieldNames, List.not_mem_nil, not_false_eq_true]
  | cons item items ih =>
      simp only [Json.fieldNames, Json.itemFieldNames, List.mem_append, not_or] at ih ⊢
      exact ⟨harmless item List.mem_cons_self name credential,
        ih fun other member => harmless other (List.mem_cons_of_mem _ member)⟩

/-- No fields, no credentials. -/
theorem harmlessFields_nil : HarmlessFields [] := by
  intro name _
  simp only [Json.fieldNames, Json.nestedFieldNames, List.not_mem_nil, not_false_eq_true]

/-- A field with another name and a harmless value may be added. -/
theorem harmlessFields_cons (other : name ∉ credentialNames) (harmless : value.Harmless)
    (harmlessRest : HarmlessFields rest) : HarmlessFields ((name, value) :: rest) := by
  intro credential member
  have restFree := harmlessRest credential member
  simp only [Json.fieldNames, Json.nestedFieldNames, List.mem_cons, List.mem_append, not_or]
    at restFree ⊢
  exact ⟨fun same => other (same ▸ member), harmless credential member, restFree⟩

/-- Two harmless lists of fields make one. -/
theorem harmlessFields_append (harmless : HarmlessFields fields)
    (harmlessRest : HarmlessFields rest) : HarmlessFields (fields ++ rest) := by
  induction fields with
  | nil => exact harmlessRest
  | cons entry fields ih =>
      intro credential member
      have free := harmless credential member
      have restFree := ih (fun credential member inside => harmless credential member (by
        simp only [Json.fieldNames, Json.nestedFieldNames, List.mem_cons, List.mem_append]
          at inside ⊢
        exact .inr (.inr inside))) credential member
      simp only [Json.fieldNames, Json.nestedFieldNames, List.cons_append, List.mem_cons,
        List.mem_append, not_or] at free restFree ⊢
      exact ⟨free.1, free.2.1, restFree⟩

/-- An optional field with another name is harmless if its value is. -/
theorem harmlessFields_optional {value : Option Json} (other : name ∉ credentialNames)
    (harmless : ∀ held, value = some held → held.Harmless) :
    HarmlessFields (optional name value) := by
  cases value with
  | none => exact harmlessFields_nil
  | some held => exact harmlessFields_cons other (harmless held rfl) harmlessFields_nil

/-- An optional property of a plain value. -/
theorem harmlessFields_map {α : Type} {json : α → Json} {value : Option α}
    (other : name ∉ credentialNames) (plain : ∀ value, (json value).fieldNames = []) :
    HarmlessFields (optional name (value.map json)) := by
  apply harmlessFields_optional other
  intro held same
  obtain ⟨value, -, rfl⟩ := Option.map_eq_some_iff.mp same
  exact harmless_of_fieldNames (plain value)

/-- A text has no fields; nor have a number and a truth value. -/
theorem fieldNames_string (text : String) : (Json.string text).fieldNames = [] := by
  simp only [Json.fieldNames]

/-- A number has no fields. -/
theorem fieldNames_number (value : Int) : (Json.number value).fieldNames = [] := by
  simp only [Json.fieldNames]

/-- A truth value has no fields. -/
theorem fieldNames_bool (value : Bool) : (Json.bool value).fieldNames = [] := by
  simp only [Json.fieldNames]

/-- Texts, numbers and truth values are harmless wherever they stand. -/
theorem harmless_string (text : String) : (Json.string text).Harmless :=
  harmless_of_fieldNames (fieldNames_string text)

/-- A number is harmless. -/
theorem harmless_number (value : Int) : (Json.number value).Harmless :=
  harmless_of_fieldNames (fieldNames_number value)

/-- A truth value is harmless. -/
theorem harmless_bool (value : Bool) : (Json.bool value).Harmless :=
  harmless_of_fieldNames (fieldNames_bool value)

/-- A property of an object, and a property inside one, are properties of it. -/
theorem mem_fieldNames (member : (name, value) ∈ fields) : name ∈ (Json.object fields).fieldNames ∧
    ∀ inner ∈ value.fieldNames, inner ∈ (Json.object fields).fieldNames := by
  induction fields with
  | nil => exact (List.not_mem_nil member).elim
  | cons entry rest ih =>
      simp only [Json.fieldNames, Json.nestedFieldNames, List.mem_cons, List.mem_append] at ih ⊢
      rcases List.mem_cons.mp member with rfl | inside
      · exact ⟨.inl rfl, fun inner held => .inr (.inl held)⟩
      · exact ⟨.inr (.inr (ih inside).1), fun inner held => .inr (.inr ((ih inside).2 inner held))⟩

/-- The account type is printed as a text, and so are the provider, the locale and a date. -/
theorem AccountType.fieldNames_json (kind : AccountType) : kind.json.fieldNames = [] := by
  cases kind <;> exact fieldNames_string _

/-- A provider is printed as a text. -/
theorem OAuthProvider.fieldNames_json (provider : OAuthProvider) :
    provider.json.fieldNames = [] := by
  cases provider <;> exact fieldNames_string _

/-- A locale is printed as a text. -/
theorem Locale.fieldNames_json (locale : Locale) : locale.json.fieldNames = [] := by
  cases locale <;> exact fieldNames_string _

end Properties

/-! ## What each reply exposes -/

section Exposure

/-- A date is printed as a text. -/
theorem dateJson_fieldNames (at_ : Millis) : (dateJson at_).fieldNames = [] := fieldNames_string _

/-- A link of an account has no field with the name of a credential. -/
theorem OAuthLink.harmless_json (link : OAuthLink) : link.json.Harmless := by
  refine harmlessFields_append (harmlessFields_append ?_ ?_) ?_
  · apply harmlessFields_cons (by decide) (harmless_of_fieldNames link.provider.fieldNames_json)
    exact harmlessFields_cons (by decide) (harmless_string _) harmlessFields_nil
  · exact harmlessFields_map (by decide) fieldNames_string
  · exact harmlessFields_cons (by decide) (harmless_string _) harmlessFields_nil

/-- An entity without credentials of its own is serialised without any: no field of it holds
a hash or a token. -/
theorem User.harmless_json {user : User} (without : user.passwordHash = none)
    (unrequested : user.resetPasswordToken = none) : user.json.Harmless := by
  rw [User.json, without, unrequested]
  refine harmlessFields_append (harmlessFields_append (harmlessFields_append
    (harmlessFields_append (harmlessFields_append (harmlessFields_append (harmlessFields_append
      (harmlessFields_append (harmlessFields_append (harmlessFields_append ?_ ?_) ?_) ?_) ?_) ?_)
        ?_) ?_) ?_) ?_) ?_
  · apply harmlessFields_cons (by decide) (harmless_string _)
    apply harmlessFields_cons (by decide) (harmless_string _)
    apply harmlessFields_cons (by decide) (harmless_string _)
    exact harmlessFields_cons (by decide) (harmless_of_fieldNames user.accountType.fieldNames_json)
      harmlessFields_nil
  · exact harmlessFields_map (by decide) fieldNames_string
  · exact harmlessFields_map (by decide) fieldNames_string
  · exact harmlessFields_nil
  · apply harmlessFields_cons (by decide) (harmless_elim fieldNames_string _)
    exact harmlessFields_cons (by decide) (harmless_elim Locale.fieldNames_json _)
      harmlessFields_nil
  · exact harmlessFields_map (by decide) fieldNames_string
  · apply harmlessFields_cons (by decide) (harmless_number _)
    apply harmlessFields_cons (by decide) (harmless_elim fieldNames_bool _)
    apply harmlessFields_cons (by decide) (harmless_array ?_) harmlessFields_nil
    intro item inside
    obtain ⟨link, -, rfl⟩ := List.mem_map.mp inside
    exact link.harmless_json
  · exact harmlessFields_map (by decide) dateJson_fieldNames
  · exact harmlessFields_nil
  · exact harmlessFields_map (by decide) dateJson_fieldNames
  · exact harmlessFields_map (by decide) dateJson_fieldNames

/-- An entity with a password hash is serialised with it. -/
theorem User.mem_fieldNames_json {user : User} {passwordHash : String}
    (stored : user.passwordHash = some passwordHash) :
    "passwordHash" ∈ user.json.fieldNames := by
  refine (mem_fieldNames (?_ : ("passwordHash", Json.string passwordHash) ∈ _)).1
  simp only [stored, optional, Option.map_some, Option.toList_some, List.mem_append,
    List.mem_singleton, true_or, or_true]

omit [Libraries] in
/-- Nor has the profile that is answered to its owner. -/
theorem UserDto.harmless_json (dto : UserDto) : dto.json.Harmless := by
  apply harmlessFields_cons (by decide) (harmless_string _)
  apply harmlessFields_cons (by decide) (harmless_of_fieldNames dto.accountType.fieldNames_json)
  apply harmlessFields_cons (by decide) (harmless_elim fieldNames_string _)
  apply harmlessFields_cons (by decide) (harmless_string _)
  apply harmlessFields_cons (by decide) (harmless_elim fieldNames_string _)
  apply harmlessFields_cons (by decide) (harmless_elim Locale.fieldNames_json _)
  apply harmlessFields_cons (by decide) (harmless_elim fieldNames_string _)
  apply harmlessFields_cons (by decide) (harmless_bool _)
  apply harmlessFields_cons (by decide) (harmless_string _)
  exact harmlessFields_cons (by decide) (harmless_string _) harmlessFields_nil

/-- Only an upgrade's answer is an entity; every other answer is serialised from a DTO,
which has no field for a credential. -/
theorem Answer.harmless_json {answer : Answer} (other : ∀ user, answer ≠ .upgraded user) :
    answer.json.Harmless := by
  cases answer with
  | autoreg result =>
      apply harmlessFields_cons (by decide) (harmless_string _)
      apply harmlessFields_cons (by decide) (harmless_string _)
      exact harmlessFields_cons (by decide) (harmless_number _) harmlessFields_nil
  | identity result =>
      apply harmlessFields_cons (by decide) (harmless_string _)
      apply harmlessFields_cons (by decide)
        (harmless_of_fieldNames result.accountType.fieldNames_json)
      exact harmlessFields_cons (by decide) (harmless_number _) harmlessFields_nil
  | upgraded user => exact (other user rfl).elim
  | acknowledged =>
      exact harmlessFields_cons (by decide) (harmless_bool _)
        harmlessFields_nil
  | dto profile => exact profile.harmless_json
  | tokenVersion version =>
      exact harmlessFields_cons (by decide) (harmless_number _) harmlessFields_nil
  | swept result =>
      apply harmlessFields_cons (by decide) (harmless_number _)
      exact harmlessFields_cons (by decide) (harmless_number _) harmlessFields_nil

/-- The packet of an error holds a credential only if the error does. -/
theorem harmless_error (traceId : Option String) (operation : UserOperation)
    {error : ServiceError} (discreet : error.Discreet) :
    (packet traceId operation (.error error)).Harmless := by
  apply harmlessFields_cons (by decide) ?_
    (harmlessFields_cons (by decide) (harmless_bool _)
      harmlessFields_nil)
  refine harmlessFields_append (harmlessFields_append ?_ ?_) ?_
  · apply harmlessFields_cons (by decide) (harmless_bool _)
    apply harmlessFields_cons (by decide) (harmless_number _)
    apply harmlessFields_cons (by decide) (harmless_string _)
    exact harmlessFields_cons (by decide) (harmless_string _) harmlessFields_nil
  · apply harmlessFields_optional (by decide)
    intro details present
    cases error with
    | microservice exception => exact discreet details present
    | mongo error => cases present
    | other message => cases present
  · exact harmlessFields_map (by decide) fieldNames_string

/-- A packet is harmless if the answer that it carries is. -/
theorem harmless_answer (traceId : Option String) (operation : UserOperation) {answer : Answer}
    (harmless : answer.json.Harmless) : (packet traceId operation (.ok answer)).Harmless := by
  apply harmlessFields_append
  · apply harmlessFields_optional (by decide)
    intro held same
    unfold response at same
    split at same
    · cases same
    · cases same
      exact harmless
  · exact harmlessFields_cons (by decide) (harmless_bool _)
      harmlessFields_nil

end Exposure

/-! ## Upgrades by email -/

section Upgrades

variable {store : Backend} {userId : String} {payload : UpgradePayload}

/-- No anonymous account answers to an email, so the lookup of an upgrade by email only
finds another account. -/
theorem hexId_ne_of_email (reachable : Reachable store) {user holder : User} {email : String}
    (member : user ∈ store.users) (anonymous : user.accountType = .autoreg)
    (parsed : Libraries.ofHexString userId = some user.id)
    (found : store.users.find? (UserFilter.byEmail email).accepts = some holder) :
    holder.hexId ≠ userId := by
  intro same
  have named : holder.id = user.id := by
    rw [← same, User.hexId, Libraries.ofHexString_toHexString] at parsed
    exact Option.some.inj parsed
  have accepted : (UserFilter.byEmail email).accepts holder = true := List.find?_some found
  have addressed : holder.email = some email := of_decide_eq_true accepted
  rw [reachable.indexed.users.unique (List.mem_of_find?_eq_some found) member named,
    (reachable.bare user member anonymous).email] at addressed
  cases addressed

/-- An upgrade by email that returns an account met all its conditions: they can be read off
the store before the call. -/
theorem upgradesByEmail_of_ok (reachable : Reachable store) (method : payload.method = .email)
    {user : User}
    (upgraded : ((upgradeAccount userId payload).runIn store).2 = .ok user) :
    store.databaseUp = true ∧ store.hashingUp = true ∧ (truthy payload.password).isSome ∧
      (∃ email, truthy payload.email = some email ∧
        ∀ other ∈ store.users, other.email ≠ some email) ∧
      ∃ user ∈ store.users, Libraries.ofHexString userId = some user.id ∧ user.Live ∧
        user.accountType = .autoreg := by
  unfold upgradeAccount at upgraded
  rcases runIn_findById store userId with ⟨user, up, parsed, stored, live, ran⟩ | ⟨error, ran⟩
  · rw [runIn_bind_of_ok ran] at upgraded
    by_cases anonymous : user.accountType = .autoreg
    · have member := fetch_some_mem stored
      rw [if_neg (not_not.mpr anonymous)] at upgraded
      unfold upgradeCredentials at upgraded
      simp only [method] at upgraded
      split at upgraded
      · rename_i email password addressed secret
        simp only [Program.bind_assoc] at upgraded
        rw [runIn_findUser up] at upgraded
        cases found : store.users.find? (UserFilter.byEmail email).accepts with
        | some holder =>
            have other := hexId_ne_of_email reachable member anonymous parsed found
            rw [found, Option.any_some, if_pos (decide_eq_true other), runIn_throw_bind] at upgraded
            cases upgraded
        | none =>
            rw [found, Option.any_none, if_neg Bool.false_ne_true] at upgraded
            simp only [Program.bind_assoc] at upgraded
            cases hashing : store.hashingUp with
            | false =>
                rw [runIn_hashPassword_down hashing] at upgraded
                cases upgraded
            | true =>
                refine ⟨up, rfl, by rw [secret]; rfl, ⟨email, addressed, fun other inside => ?_⟩,
                  user, member, parsed, live, anonymous⟩
                have unaddressed := List.find?_eq_none.mp found other inside
                exact fun same => unaddressed (decide_eq_true same)
      · rw [runIn_throw_bind] at upgraded
        cases upgraded
    · rw [if_pos anonymous] at upgraded
      cases upgraded
  · rw [runIn_bind_of_error ran] at upgraded
    cases upgraded

/-- An upgrade by email that meets its conditions returns the account, and the account it
returns carries the new hash. -/
theorem ok_of_upgradesByEmail (reachable : Reachable store) (method : payload.method = .email)
    (up : store.databaseUp = true) (hashing : store.hashingUp = true)
    {email password : String} (addressed : truthy payload.email = some email)
    (secret : truthy payload.password = some password)
    (free : ∀ other ∈ store.users, other.email ≠ some email) {user : User}
    (member : user ∈ store.users) (parsed : Libraries.ofHexString userId = some user.id)
    (live : user.Live) (anonymous : user.accountType = .autoreg) :
    ∃ returned : User, ((upgradeAccount userId payload).runIn store).2 = .ok returned ∧
      returned.passwordHash = some (Libraries.argon2Hash store.randomDraws password) := by
  have stored : fetch User.id user.id store.users = some user :=
    fetch_of_mem reachable.indexed.users member
  have unaddressed : store.users.find? (UserFilter.byEmail email).accepts = none := by
    apply List.find?_eq_none.mpr
    exact fun other inside accepted => free other inside (of_decide_eq_true accepted)
  have untaken : emailTaken store.users user.id (some email) = false := by
    rw [emailTaken, Option.isSome_some, Bool.true_and, List.any_eq_false]
    exact fun other inside taken => free other inside (of_decide_eq_true taken).2
  let passwordHash := Libraries.argon2Hash store.randomDraws password
  let current := upgraded (withPassword user email passwordHash) payload store.clock
  have bumped : current.tokenVersion ≠ user.tokenVersion := Nat.succ_ne_self _
  have clean : ({ store with randomDraws := store.randomDraws + 1 } : Backend).violation
      (.updateUser user.id (user.changes current)) = none := by
    have email : (user.changes current).email.getD none = some email := by
      change (changed user.email (some email)).getD none = some email
      rw [(reachable.bare user member anonymous).email]
      rfl
    exact Backend.violation_updateUser (email ▸ untaken)
  refine ⟨{ current with updatedAt := store.clock }, ?_, rfl⟩
  rw [upgradeAccount, runIn_bind_of_ok (runIn_findById_of_live up parsed stored live),
    if_neg (not_not.mpr anonymous), upgradeCredentials]
  simp only [method, addressed, secret, Program.bind_assoc]
  rw [runIn_findUser up, unaddressed, Option.any_none, if_neg Bool.false_ne_true]
  simp only [Program.bind_assoc]
  rw [runIn_hashPassword_up hashing]
  simp only [Program.pure_eq, Program.ret_bind]
  rw [runIn_now]
  change ((flushEmail (user.update current) >>= _).runIn _).2 = _
  rw [User.update_of_tokenVersion bumped]
  have drawn : Backend.databaseUp { store with randomDraws := store.randomDraws + 1 } = true := up
  rw [runIn_flushEmail_of_clean _ drawn clean, runIn_nativeDeleteDevices]
  · rfl
  · exact up

end Upgrades

/-! ## Every request -/

/-- Handlers other than the upgrade's return no entity. The cases are the operations. -/
theorem answer_ne_upgraded {operation : UserOperation}
    (other : ∀ userId payload, operation ≠ .upgradeAccount userId payload) (store : Backend)
    (user : User) : (serve operation store).2 ≠ .ok (.upgraded user) := by
  have mapped : ∀ {α : Type} {answer : α → Answer} {program : Handler α},
      UsersController.handle operation = program >>= (fun value => .ret (answer value)) →
        (∀ value, answer value ≠ .upgraded user) →
          (serve operation store).2 ≠ .ok (.upgraded user) := by
    intro α answer program handled differ same
    rw [serve_eq handled] at same
    cases ran : (program.runIn store).2 with
    | error error =>
        rw [ran] at same
        cases same
    | ok value =>
        rw [ran] at same
        exact differ value (Except.ok.inj same)
  cases operation with
  | upgradeAccount userId payload => exact (other userId payload rfl).elim
  | createAutoregUser payload => exact mapped rfl fun _ => nofun
  | login email password => exact mapped rfl fun _ => nofun
  | findOrCreateOAuthUser payload => exact mapped rfl fun _ => nofun
  | forgotPassword email => exact mapped rfl fun _ => nofun
  | resetPassword token newPassword => exact mapped rfl fun _ => nofun
  | getUserById userId => exact mapped rfl fun _ => nofun
  | getUserTokenVersion userId => exact mapped rfl fun _ => nofun
  | updateUser userId data => exact mapped rfl fun _ => nofun
  | deleteUser userId => exact mapped rfl fun _ => nofun
  | sweep => exact mapped rfl fun _ => nofun

/-- An entity is returned without credentials unless it was upgraded by email: a link leaves
the record without a password. -/
theorem harmless_of_upgraded {store : Backend} (reachable : Reachable store)
    {operation : UserOperation} {handled : operation ≠ .sweep} {user : User}
    (refused : ¬(UserRequest.message operation handled).UpgradesByEmail store)
    (answered : (serve operation store).2 = .ok (.upgraded user)) : user.json.Harmless := by
  by_cases upgrade : ∃ userId payload, operation = .upgradeAccount userId payload
  · obtain ⟨userId, payload, rfl⟩ := upgrade
    have ends := serve_ends (.upgradeAccount userId payload) store
    generalize (serve (.upgradeAccount userId payload) store).1.users = users at ends
    have returned : ((upgradeAccount userId payload).runIn store).2 = .ok user := by
      rw [serve_eq rfl] at answered
      cases ran : ((upgradeAccount userId payload).runIn store).2 with
      | error error =>
          rw [ran] at answered
          cases answered
      | ok value =>
          rw [ran] at answered
          cases answered
          rfl
    rw [answered] at ends
    cases ends with
    | silent nothing => cases nothing
    | @upgraded _ _ _ loaded current up parsed stored live anonymous credentials =>
        have member := fetch_some_mem stored
        apply User.harmless_json
        · cases credentials with
          | link linkedAt method present => exact reachable.passwordless loaded member anonymous
          | password passwordHash method addressed =>
              obtain ⟨up, hashing, secret, free, upgradable⟩ :=
                upgradesByEmail_of_ok reachable method returned
              exact (refused ⟨up, hashing, method, secret, free, upgradable⟩).elim
        · exact credentials.resetPasswordToken.trans
            (reachable.bare loaded member anonymous).resetPasswordToken
  · exact (answer_ne_upgraded (fun userId payload same => upgrade ⟨userId, payload, same⟩)
      store user answered).elim

/-- The packet of an entity with a password hash holds it. -/
theorem exposes_of_upgraded {store : Backend} {userId : String} {payload : UpgradePayload}
    {handled : UserOperation.upgradeAccount userId payload ≠ .sweep} {returned : User}
    {passwordHash : String} (traceId : Option String)
    (ran : ((upgradeAccount userId payload).runIn store).2 = .ok returned)
    (stored : returned.passwordHash = some passwordHash) :
    (UserRequest.message (.upgradeAccount userId payload) handled).Exposes traceId store := by
  refine .inl ⟨"passwordHash", by decide, ?_⟩
  have answered : (serve (.upgradeAccount userId payload) store).2 = .ok (.upgraded returned) := by
    rw [serve_eq rfl, ran]
    rfl
  rw [UserRequest.reply, answered]
  have inside : ("response", returned.json) ∈ optional "response"
      (response (.upgradeAccount userId payload) (.upgraded returned)) ++
        [("isDisposed", .bool true)] := List.mem_cons_self
  exact (mem_fieldNames inside).2 _ (User.mem_fieldNames_json stored)

/-- Without an upgrade by email that goes through, no packet of the reply holds a
credential, whether it is an answer or an error. -/
theorem not_exposes {store : Backend} (reachable : Reachable store) {request : UserRequest}
    (refused : ¬request.UpgradesByEmail store) (traceId : Option String) :
    ¬request.Exposes traceId store := by
  cases request with
  | ping =>
      intro exposed
      rcases exposed with ⟨name, credential, inside⟩ | never
      · revert name
        simp only [UserRequest.reply, Json.fieldNames, Json.nestedFieldNames]
        decide
      · exact never
  | message operation handled =>
      have agrees : Agrees store store (UsersController.handle operation)
          (UsersController.handle operation) := handle_agrees rfl reachable reachable handled rfl
      have harmless : (packet traceId operation (serve operation store).2).Harmless := by
        cases answered : (serve operation store).2 with
        | error error => exact harmless_error traceId operation (agrees.discreet error answered)
        | ok answer =>
            apply harmless_answer
            by_cases entity : ∃ user, answer = .upgraded user
            · obtain ⟨user, rfl⟩ := entity
              exact harmless_of_upgraded reachable refused answered
            · exact Answer.harmless_json fun user same => entity ⟨user, same⟩
      intro exposed
      rcases exposed with ⟨name, credential, inside⟩ | ⟨error, thrown, quotes⟩
      · exact harmless name credential inside
      · exact agrees.discreet _ thrown quotes

/-- Every request is answered confidentially but an upgrade by email that goes through.
A request is answered here without another one's step in between: of two overlapping
registrations of one new device the later flush is refused by the index, and the text
of that refusal, which quotes the fingerprint, is outside this statement. -/
theorem confidential_iff {pool : ServicePool}
    (reached : userService.Reaches (fun _ _ => True) ⟨{}, []⟩ pool) (request : UserRequest) :
    Confidential pool.shared request ↔ ¬request.UpgradesByEmail pool.shared := by
  have reachable := reachable_of_reaches reached
  constructor
  · intro confidential upgrades
    match request with
    | .message (.upgradeAccount userId payload) handled =>
        obtain ⟨up, hashing, method, secret, ⟨email, addressed, free⟩, user, member, parsed,
          live, anonymous⟩ := upgrades
        obtain ⟨password, secret⟩ := Option.isSome_iff_exists.mp secret
        obtain ⟨returned, ran, stored⟩ := ok_of_upgradesByEmail reachable method up hashing
          addressed secret free member parsed live anonymous
        exact confidential.bare none (exposes_of_upgraded none ran stored)
  · intro refused
    refine ⟨not_exposes reachable refused, fun traceId other reachedOther alike decided => ?_⟩
    cases request with
    | ping => rfl
    | message operation handled =>
        have agrees := handle_agrees alike reachable (reachable_of_reaches reachedOther) handled
          decided
        exact congrArg (packet traceId operation) agrees.same

end Law

/-! ## An upgrade by email -/

section Upgrade

open scoped Plain

/-- A device registers, alone. -/
def registeredPool : ServicePool :=
  userService.schedule ⟨{}, []⟩
    (.spawn (.createAutoregUser { fingerprint := "f" }) :: List.replicate 9 (.step 0))

/-- It upgrades its account by email. -/
def emailPayload : UpgradePayload :=
  { method := .email, email := some "e", password := some "p" }

/-- The registration leads to this pool. -/
theorem reaches_registeredPool : userService.Reaches (fun _ _ => True) ⟨{}, []⟩ registeredPool :=
  .of_schedule _

/-- The premises are met by a registered user's profile, which is answered confidentially. -/
theorem confidential_iff_getUserById :
    Confidential registeredPool.shared (.message (.getUserById (ObjectIds.toHexString 0)) nofun) ↔
      ¬(UserRequest.message (.getUserById (ObjectIds.toHexString 0)) nofun).UpgradesByEmail
        registeredPool.shared :=
  confidential_iff reaches_registeredPool _

/-- An upgrade by email answers with the record that it has written, and the hash of the new
password is part of it. -/
theorem not_repliesConfidential_of_emailUpgrade : ¬RepliesConfidential := by
  intro confidential
  have bare := (confidential registeredPool reaches_registeredPool
    (.message (.upgradeAccount (ObjectIds.toHexString 0) emailPayload) nofun)).bare none
  obtain ⟨returned, ran, stored⟩ : ∃ returned : User,
      ((upgradeAccount (ObjectIds.toHexString 0) emailPayload).runIn registeredPool.shared).2 =
        .ok returned ∧ returned.passwordHash.isSome = true := ⟨_, by rfl, by rfl⟩
  obtain ⟨passwordHash, stored⟩ := Option.isSome_iff_exists.mp stored
  exact bare (exposes_of_upgraded none ran stored)

end Upgrade

end NestMonorepo
