import NestMonorepo.Database.ObjectIds
import NestMonorepo.Users.Profiles

/-! # `PATCH /v1/users/me`

A body is converted field by field, validated, spread over the caller's id and sent on;
the user service takes some keys out and assigns an allowlist. Each layer has its own
idea of an absent field, of `null` and of a type.
-/

namespace NestMonorepo

open Collections

/-- The checks of class-validator that are no type tests. -/
class Validators where
  /-- `@MaxLength(n)`. -/
  maxLength : Nat → String → Bool
  /-- `@IsUrl({ protocols: ['https'], require_protocol: true, require_tld: true })`. -/
  isUrl : String → Bool

namespace ProfileField

/-- What an answer says of a field. -/
def reply (dto : RawDto) : ProfileField → Option Json
  | .name => some dto.name
  | .tz => dto.tz
  | .locale => dto.locale
  | .avatarUrl => some dto.avatarUrl
  | .onboardingCompleted => some dto.onboardingCompleted

/-- What the allowlist leaves of a field. -/
def assigned (data : Payload) (stored : Option Json) (field : ProfileField) : Option Json :=
  match field with
  | .name | .avatarUrl => assignedUnlessNull data field.key stored
  | .tz | .locale | .onboardingCompleted => NestMonorepo.assigned data field.key stored

end ProfileField

/-! ## The gateway -/

namespace Json

/-- `Boolean(value)`. -/
def truthy : Json → Bool
  | .null => false
  | .bool value => value
  | .number value => value ≠ 0
  | .string value => value ≠ ""
  | .array _ => true
  | .object _ => true

end Json

namespace UpdateUserDto

/-- `String(value)` or `Boolean(value)`, by the declared type. -/
def primitive (field : ProfileField) (value : Json) : Json :=
  match field with
  | .onboardingCompleted => .bool value.truthy
  | .name | .tz | .locale | .avatarUrl => .string value.text

mutual

/-- The implicit conversion; the items of an array are converted one by one, and `null`
stays. -/
def converted (field : ProfileField) : Json → Json
  | .null => .null
  | .array items => .array (convertedItems field items)
  | value => primitive field value

def convertedItems (field : ProfileField) : List Json → List Json
  | [] => []
  | item :: rest => converted field item :: convertedItems field rest

end

variable [Validators]

/-- The decorators of a field. `@IsOptional` lets `null` through, and `onboardingCompleted`
has no other one. -/
def valid (field : ProfileField) (value : Json) : Bool :=
  match value with
  | .null => true
  | value =>
      match field with
      | .name =>
          match value with
          | .string text => Validators.maxLength 50 text
          | _ => false
      | .tz =>
          match value with
          | .string _ => true
          | _ => false
      | .locale => value = Locale.ru.json || value = Locale.en.json
      | .avatarUrl =>
          match value with
          | .string text => Validators.isUrl text && Validators.maxLength 2048 text
          | _ => false
      | .onboardingCompleted => true

end UpdateUserDto

section Law

variable [Libraries] [ColumnTypes]

/-- The record an RPC payload is about. -/
def RawUsers.target (payload : Payload) : Option ObjectId :=
  match payload.lookup "userId" with
  | some (.string userId) => Libraries.ofHexString userId
  | _ => none

variable [Validators]

end Law

/-! ## What reaches the allowlist -/

section Lookup

variable {body dto : Payload}

end Lookup

/-! ## One update -/

section Update

variable [Libraries] [ColumnTypes] {userId : String} {data sent : Payload}
  {users : List RawUser} {now : Millis}

/-- The record as an update with changes leaves it. -/
def RawUser.updated (user : RawUser) (data : Payload) (now : Millis) : RawUser :=
  { user.allowed data with updatedAt := now }

end Update

/-! ## Types -/

section Types

variable [Validators] {field : ProfileField} {value : Json} {body data : Payload}
  {stored : Option Json}

end Types

/-! ## From the body to the record -/

section Patch

variable [Libraries] [ColumnTypes] {callerId : String} {body dto : Payload}
  {users : List RawUser} {now : Millis}

end Patch

section Null

open scoped Plain

local instance profileValidators : Validators where
  maxLength bound text := text.length ≤ bound
  isUrl text := text.startsWith "https://"

/-- A column takes `null` and what has its JavaScript type. -/
local instance profileColumns : ColumnTypes where
  refusal
    | _, .null => none
    | .name, .string _ | .tz, .string _ | .locale, .string _ | .avatarUrl, .string _ => none
    | .onboardingCompleted, .bool _ => none
    | field, _ => some s!"trying to set User.{field.key} to a value of another type"

end Null

end NestMonorepo
