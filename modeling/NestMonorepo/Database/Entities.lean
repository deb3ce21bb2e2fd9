import Mathlib.Data.List.Basic
import NestMonorepo.Common.Errors

/-! # Stored documents

The documents of the three collections, and the changeset the unit of work
derives from a loaded document and its modified copy: a flush writes only the
fields that differ, with absolute values.
-/

namespace NestMonorepo

/-- A Mongo ObjectId. -/
abbrev ObjectId := Nat

/-- Milliseconds since the epoch, as `Date` holds them. -/
abbrev Millis := Nat

inductive AccountType where
  | autoreg
  | user
  deriving DecidableEq, Repr

inductive Locale where
  | ru
  | en
  deriving DecidableEq, Repr

inductive OAuthProvider where
  | google
  | apple
  | vk
  | yandex
  deriving DecidableEq, Repr

inductive Platform where
  | android
  | ios
  deriving DecidableEq, Repr

/-- `OAuthLink`, embedded in a user. -/
structure OAuthLink where
  provider : OAuthProvider
  providerUserId : String
  email : Option String
  linkedAt : Millis
  deriving DecidableEq, Repr

/-- The `users` collection's documents; a profile update may store `null` in
`tz`, `locale` and `onboardingCompleted`. -/
structure User where
  id : ObjectId
  createdAt : Millis
  updatedAt : Millis
  accountType : AccountType := .autoreg
  name : Option String := none
  email : Option String := none
  passwordHash : Option String := none
  tz : Option String := some "UTC"
  locale : Option Locale := some .ru
  avatarUrl : Option String := none
  tokenVersion : Nat := 0
  onboardingCompleted : Option Bool := some false
  oauthLinks : List OAuthLink := []
  upgradedAt : Option Millis := none
  resetPasswordToken : Option String := none
  resetPasswordExpiry : Option Millis := none
  deletedAt : Option Millis := none
  deriving DecidableEq, Repr

/-- The `devices` collection's documents. -/
structure Device where
  id : ObjectId
  createdAt : Millis
  updatedAt : Millis
  fingerprint : String
  platform : Platform := .android
  userId : ObjectId
  lastSeenAt : Millis
  lastIpHash : Option String := none
  attestationFailures : Nat := 0
  isBlocked : Bool := false
  blockedReason : Option String := none
  blockedAt : Option Millis := none
  deriving DecidableEq, Repr

inductive OutboxEventStatus where
  | pending
  | sent
  | failed
  deriving DecidableEq, Repr

/-- Event payloads: the fields of a record. -/
abbrev Payload := List (String × Json)

/-- The `outbox_events` collection's documents. -/
structure OutboxEvent where
  id : ObjectId
  createdAt : Millis
  updatedAt : Millis
  target : String
  pattern : String
  payload : Payload
  idempotencyKey : String
  status : OutboxEventStatus := .pending
  lastAttemptAt : Option Millis := none
  attempts : Nat := 0
  lastError : Option String := none
  deriving DecidableEq, Repr

namespace User

/-- A user that is not soft-deleted. -/
def Live (user : User) : Prop := user.deletedAt = none

instance (user : User) : Decidable user.Live := inferInstanceAs (Decidable (_ = _))

/-- Whether a user carries a link to the given identity (`$elemMatch`). -/
def hasLink (user : User) (provider : OAuthProvider) (providerUserId : String) : Bool :=
  user.oauthLinks.any fun link =>
    decide (link.provider = provider ∧ link.providerUserId = providerUserId)

end User

/-! ## Changesets -/

/-- The new value of a field when it differs from the loaded one. -/
def changed {α : Type} [DecidableEq α] (loaded current : α) : Option α :=
  if loaded = current then none else some current

/-- A value that was not assigned anew is no change. -/
@[simp] theorem changed_self {α : Type} [DecidableEq α] (value : α) :
    changed value value = none := by
  simp only [changed, ↓reduceIte]

/-- A value that differs from the loaded one is the change. -/
theorem changed_of_ne {α : Type} [DecidableEq α] {loaded current : α} (differ : loaded ≠ current) :
    changed loaded current = some current := by
  simp only [changed, differ, ↓reduceIte]

/-- No change means that the value is the loaded one. -/
theorem eq_of_changed_eq_none {α : Type} [DecidableEq α] {loaded current : α}
    (same : changed loaded current = none) : loaded = current := by
  by_contra differ
  rw [changed_of_ne differ] at same
  cases same

/-- A list with an element added is a change, to the longer list. -/
theorem changed_append_singleton {α : Type} [DecidableEq α] (values : List α) (value : α) :
    changed values (values ++ [value]) = some (values ++ [value]) :=
  changed_of_ne fun same => nomatch List.self_eq_append_right.mp same

/-- The change applied to the loaded value is the current one. -/
@[simp] theorem changed_getD {α : Type} [DecidableEq α] (loaded current : α) :
    (changed loaded current).getD loaded = current := by
  unfold changed
  split
  · assumption
  · rfl

/-- The fields of a user document that one flush sets. -/
structure UserChanges where
  accountType : Option AccountType := none
  name : Option (Option String) := none
  email : Option (Option String) := none
  passwordHash : Option (Option String) := none
  tz : Option (Option String) := none
  locale : Option (Option Locale) := none
  avatarUrl : Option (Option String) := none
  tokenVersion : Option Nat := none
  onboardingCompleted : Option (Option Bool) := none
  oauthLinks : Option (List OAuthLink) := none
  upgradedAt : Option (Option Millis) := none
  resetPasswordToken : Option (Option String) := none
  resetPasswordExpiry : Option (Option Millis) := none
  deletedAt : Option (Option Millis) := none
  deriving DecidableEq, Repr

namespace User

/-- The changeset between a loaded user and its modified copy. -/
def changes (loaded current : User) : UserChanges where
  accountType := changed loaded.accountType current.accountType
  name := changed loaded.name current.name
  email := changed loaded.email current.email
  passwordHash := changed loaded.passwordHash current.passwordHash
  tz := changed loaded.tz current.tz
  locale := changed loaded.locale current.locale
  avatarUrl := changed loaded.avatarUrl current.avatarUrl
  tokenVersion := changed loaded.tokenVersion current.tokenVersion
  onboardingCompleted := changed loaded.onboardingCompleted current.onboardingCompleted
  oauthLinks := changed loaded.oauthLinks current.oauthLinks
  upgradedAt := changed loaded.upgradedAt current.upgradedAt
  resetPasswordToken := changed loaded.resetPasswordToken current.resetPasswordToken
  resetPasswordExpiry := changed loaded.resetPasswordExpiry current.resetPasswordExpiry
  deletedAt := changed loaded.deletedAt current.deletedAt

/-- `$set` the changed fields; `updatedAt` is stamped by its `onUpdate` hook. -/
def apply (user : User) (changes : UserChanges) (now : Millis) : User where
  id := user.id
  createdAt := user.createdAt
  updatedAt := now
  accountType := changes.accountType.getD user.accountType
  name := changes.name.getD user.name
  email := changes.email.getD user.email
  passwordHash := changes.passwordHash.getD user.passwordHash
  tz := changes.tz.getD user.tz
  locale := changes.locale.getD user.locale
  avatarUrl := changes.avatarUrl.getD user.avatarUrl
  tokenVersion := changes.tokenVersion.getD user.tokenVersion
  onboardingCompleted := changes.onboardingCompleted.getD user.onboardingCompleted
  oauthLinks := changes.oauthLinks.getD user.oauthLinks
  upgradedAt := changes.upgradedAt.getD user.upgradedAt
  resetPasswordToken := changes.resetPasswordToken.getD user.resetPasswordToken
  resetPasswordExpiry := changes.resetPasswordExpiry.getD user.resetPasswordExpiry
  deletedAt := changes.deletedAt.getD user.deletedAt

/-- Applying changes keeps the document's id. -/
@[simp] theorem apply_id (user : User) (changes : UserChanges) (now : Millis) :
    (user.apply changes now).id = user.id := rfl

/-- A bumped token version is written as an absolute value, whatever is stored. -/
theorem apply_tokenVersion_of_ne {loaded current : User}
    (bumped : current.tokenVersion ≠ loaded.tokenVersion) (stored : User) (now : Millis) :
    (stored.apply (loaded.changes current) now).tokenVersion = current.tokenVersion := by
  simp only [apply, changes, changed_of_ne bumped.symm, Option.getD_some]

/-- With no other writer in between, a flush stores the modified copy. -/
@[simp] theorem apply_changes (loaded current : User) (now : Millis) :
    loaded.apply (loaded.changes current) now =
      { current with id := loaded.id, createdAt := loaded.createdAt, updatedAt := now } := by
  simp only [apply, changes, changed_getD]

end User

/-- The fields of a device document that one flush sets. -/
structure DeviceChanges where
  lastSeenAt : Option Millis := none
  lastIpHash : Option (Option String) := none
  deriving DecidableEq, Repr

namespace Device

def changes (loaded current : Device) : DeviceChanges where
  lastSeenAt := changed loaded.lastSeenAt current.lastSeenAt
  lastIpHash := changed loaded.lastIpHash current.lastIpHash

def apply (device : Device) (changes : DeviceChanges) (now : Millis) : Device :=
  { device with
    updatedAt := now
    lastSeenAt := changes.lastSeenAt.getD device.lastSeenAt
    lastIpHash := changes.lastIpHash.getD device.lastIpHash }

@[simp] theorem apply_id (device : Device) (changes : DeviceChanges) (now : Millis) :
    (device.apply changes now).id = device.id := rfl

end Device

/-- The fields of an outbox row that one flush sets. -/
structure OutboxChanges where
  payload : Option Payload := none
  status : Option OutboxEventStatus := none
  lastAttemptAt : Option (Option Millis) := none
  attempts : Option Nat := none
  lastError : Option (Option String) := none
  deriving DecidableEq, Repr

namespace OutboxEvent

def changes (loaded current : OutboxEvent) : OutboxChanges where
  payload := changed loaded.payload current.payload
  status := changed loaded.status current.status
  lastAttemptAt := changed loaded.lastAttemptAt current.lastAttemptAt
  attempts := changed loaded.attempts current.attempts
  lastError := changed loaded.lastError current.lastError

def apply (row : OutboxEvent) (changes : OutboxChanges) (now : Millis) : OutboxEvent :=
  { row with
    updatedAt := now
    payload := changes.payload.getD row.payload
    status := changes.status.getD row.status
    lastAttemptAt := changes.lastAttemptAt.getD row.lastAttemptAt
    attempts := changes.attempts.getD row.attempts
    lastError := changes.lastError.getD row.lastError }

@[simp] theorem apply_id (row : OutboxEvent) (changes : OutboxChanges) (now : Millis) :
    (row.apply changes now).id = row.id := rfl

/-- Applying changes keeps the key under which a row was staged. -/
@[simp] theorem apply_idempotencyKey (row : OutboxEvent) (changes : OutboxChanges)
    (now : Millis) : (row.apply changes now).idempotencyKey = row.idempotencyKey := rfl

end OutboxEvent

end NestMonorepo
