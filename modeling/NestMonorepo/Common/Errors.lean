import NestMonorepo.Database.DuplicateKey

/-! # Errors across the bus

A microservice throws a `MicroserviceException`, whose payload crosses RabbitMQ
and is rebuilt as an `HttpException` at the gateway; the gateway's own guards
and services throw `HttpException`s directly. Two filters and one client
translate between the three.
-/

namespace NestMonorepo

/-- JSON values, as carried in `details`. -/
inductive Json where
  | null
  | bool (value : Bool)
  | number (value : Int)
  | string (value : String)
  | array (items : List Json)
  | object (fields : List (String × Json))
  deriving Repr

namespace Json

mutual

/-- Equality of values, decided. -/
def same : Json → Json → Bool
  | .null, .null => true
  | .bool first, .bool second => first == second
  | .number first, .number second => first == second
  | .string first, .string second => first == second
  | .array first, .array second => sameItems first second
  | .object first, .object second => sameFields first second
  | _, _ => false

def sameItems : List Json → List Json → Bool
  | [], [] => true
  | first :: firsts, second :: seconds => first.same second && sameItems firsts seconds
  | _, _ => false

def sameFields : List (String × Json) → List (String × Json) → Bool
  | [], [] => true
  | (name, first) :: firsts, (other, second) :: seconds =>
      name == other && first.same second && sameFields firsts seconds
  | _, _ => false

end

mutual

/-- The comparison of JSON values is equality. The induction is on the value, with the lists
and the fields in it. -/
theorem same_iff : ∀ first second : Json, first.same second = true ↔ first = second
  | .null, second => by cases second <;> simp [same]
  | .bool _, second => by cases second <;> simp [same]
  | .number _, second => by cases second <;> simp [same]
  | .string _, second => by cases second <;> simp [same]
  | .array items, second => by cases second <;> simp [same, sameItems_iff items]
  | .object fields, second => by cases second <;> simp [same, sameFields_iff fields]

/-- So is that of lists of values. -/
theorem sameItems_iff : ∀ firsts seconds : List Json,
    sameItems firsts seconds = true ↔ firsts = seconds
  | [], seconds => by cases seconds <;> simp [sameItems]
  | first :: firsts, seconds => by
      cases seconds <;> simp [sameItems, same_iff first, sameItems_iff firsts]

/-- And that of the fields of objects. -/
theorem sameFields_iff : ∀ firsts seconds : List (String × Json),
    sameFields firsts seconds = true ↔ firsts = seconds
  | [], seconds => by cases seconds <;> simp [sameFields]
  | (name, first) :: firsts, seconds => by
      cases seconds <;>
        simp [sameFields, same_iff first, sameFields_iff firsts, Prod.ext_iff, and_assoc]

end

instance : DecidableEq Json := fun first second =>
  decidable_of_iff (first.same second = true) (same_iff first second)

mutual

/-- `String(value)`. -/
def text : Json → String
  | .null => "null"
  | .bool value => toString value
  | .number value => toString value
  | .string value => value
  | .array items => ",".intercalate (itemTexts items)
  | .object _ => "[object Object]"

/-- The items of an array as `join` writes them; `null` is empty. -/
def itemTexts : List Json → List String
  | [] => []
  | .null :: rest => "" :: itemTexts rest
  | item :: rest => item.text :: itemTexts rest

end

mutual

/-- The names of all properties, at any depth. -/
def fieldNames : Json → List String
  | .array items => itemFieldNames items
  | .object fields => nestedFieldNames fields
  | _ => []

def itemFieldNames : List Json → List String
  | [] => []
  | item :: rest => item.fieldNames ++ itemFieldNames rest

def nestedFieldNames : List (String × Json) → List String
  | [] => []
  | (name, value) :: rest => name :: (value.fieldNames ++ nestedFieldNames rest)

end

end Json

/-! ## The codes a client may branch on (`ERROR_CODES`) -/

namespace ErrorCodes

def tokenExpired : String := "token_expired"
def tokenInvalid : String := "token_invalid"
def unauthorized : String := "unauthorized"
def forbidden : String := "forbidden"
def rateLimited : String := "rate_limited"
def notFound : String := "not_found"
def conflict : String := "conflict"
def validationError : String := "validation_error"
def internalError : String := "internal_error"

end ErrorCodes

/-- The code of a status when the error body carries none; both filters hold a
copy of this table. -/
def statusToCode : Nat → String
  | 400 => ErrorCodes.validationError
  | 401 => ErrorCodes.unauthorized
  | 403 => ErrorCodes.forbidden
  | 404 => ErrorCodes.notFound
  | 409 => ErrorCodes.conflict
  | 429 => ErrorCodes.rateLimited
  | _ => ErrorCodes.internalError

/-! ## Microservice side -/

/-- The payload embedded in the RabbitMQ error envelope (`__rpcError: true`). -/
structure RpcErrorPayload where
  status : Nat
  code : String
  message : String
  details : Option Json := none
  traceId : Option String := none

/-- What a microservice throws on purpose. -/
structure MicroserviceException where
  status : Nat
  code : String
  messageText : String
  details : Option Json := none
  traceId : Option String := none

namespace MicroserviceException

/-- The serialised form of the exception. -/
def getError (exception : MicroserviceException) : RpcErrorPayload where
  status := exception.status
  code := exception.code
  message := exception.messageText
  details := exception.details
  traceId := exception.traceId

def notFound (message : String) (details : Option Json := none) : MicroserviceException :=
  { status := 404, code := ErrorCodes.notFound, messageText := message, details }

def conflict (message : String) (details : Option Json := none) : MicroserviceException :=
  { status := 409, code := ErrorCodes.conflict, messageText := message, details }

def badRequest (message : String) (details : Option Json := none) : MicroserviceException :=
  { status := 400, code := ErrorCodes.validationError, messageText := message, details }

end MicroserviceException

/-- Anything a user-service handler may throw: a tagged exception, a database
error, or the error of another library (a malformed ObjectId, a failed hash). -/
inductive ServiceError where
  | microservice (exception : MicroserviceException)
  | mongo (error : MongoError)
  | other (message : String)

/-- `RpcAllExceptionsFilter.catch` on what user-service handlers throw: tagged
exceptions pass, anything else becomes an internal error. -/
def RpcAllExceptionsFilter.catch (traceId : Option String) : ServiceError → RpcErrorPayload
  | .microservice exception => exception.getError
  | .mongo error => internal error.message
  | .other message => internal message
where
  internal (message : String) : RpcErrorPayload :=
    MicroserviceException.getError
      { status := 500, code := ErrorCodes.internalError, messageText := message, traceId }

/-! ## Gateway side -/

/-- The body a Nest `HttpException` was built from. -/
inductive HttpBody where
  | text (message : String)
  | object (code message : Option String) (details : Option Json)

/-- A Nest `HttpException`; `message` is the exception's own message. -/
structure HttpException where
  status : Nat
  response : HttpBody
  message : String

/-- An exception built from `{ code, message }`. -/
def HttpException.coded (status : Nat) (code message : String) : HttpException :=
  { status, response := .object (some code) (some message) none, message }

def unauthorizedException (code message : String) : HttpException :=
  .coded 401 code message

def badRequestException (code message : String) : HttpException :=
  .coded 400 code message

def serviceUnavailableException (code message : String) : HttpException :=
  .coded 503 code message

def gatewayTimeoutException (code message : String) : HttpException :=
  .coded 504 code message

/-- Anything a gateway handler may throw. -/
inductive GatewayError where
  | http (exception : HttpException)
  | other (message : String)

/-- The error envelope the client receives. -/
structure ErrorResponse where
  statusCode : Nat
  code : String
  message : String
  details : Option Json

/-- `AllExceptionsFilter.catch`. -/
def AllExceptionsFilter.catch : GatewayError → ErrorResponse
  | .http exception =>
      match exception.response with
      | .text message =>
          { statusCode := exception.status, code := ErrorCodes.internalError, message,
            details := none }
      | .object code message details =>
          { statusCode := exception.status
            code := code.getD (statusToCode exception.status)
            message := message.getD exception.message
            details }
  | .other message =>
      { statusCode := 500, code := ErrorCodes.internalError, message, details := none }

/-- What the transport hands to `RpcClientService.unwrapError`: a timeout, the
payload itself, an object carrying it under `error`, or anything else. -/
inductive RpcFailure where
  | timeout
  | payload (payload : RpcErrorPayload)
  | wrapped (payload : RpcErrorPayload)
  | unknown (message : Option String)

/-- The `HttpException` rebuilt from an RPC payload. -/
def RpcErrorPayload.toHttpException (payload : RpcErrorPayload) : HttpException where
  status := payload.status
  response := .object (some payload.code) (some payload.message) payload.details
  message := payload.message

/-- `RpcClientService.unwrapError`. -/
def RpcClientService.unwrapError (service : String) : RpcFailure → HttpException
  | .timeout =>
      gatewayTimeoutException ErrorCodes.internalError
        ("Upstream service '" ++ service ++ "' timed out")
  | .payload payload => payload.toHttpException
  | .wrapped payload => payload.toHttpException
  | .unknown _ =>
      serviceUnavailableException ErrorCodes.internalError
        ("Upstream service '" ++ service ++ "' is unavailable")

/-- The response status of an exception is the status it was raised with. -/
@[simp] theorem AllExceptionsFilter.catch_http_statusCode (exception : HttpException) :
    (AllExceptionsFilter.catch (.http exception)).statusCode = exception.status := by
  obtain ⟨status, response, message⟩ := exception
  cases response <;> rfl

/-- Whatever else is thrown is answered with status 500. -/
@[simp] theorem AllExceptionsFilter.catch_other_statusCode (message : String) :
    (AllExceptionsFilter.catch (.other message)).statusCode = 500 := rfl

/-- An exception built from `{ code, message }` answers with exactly these. -/
@[simp] theorem AllExceptionsFilter.catch_coded (status : Nat) (code message : String) :
    AllExceptionsFilter.catch (.http (.coded status code message)) =
      { statusCode := status, code, message, details := none } := rfl

/-- A tagged exception crosses the bus with its status, code, message and
details, in either shape the transport may deliver. -/
theorem AllExceptionsFilter.catch_unwrapError (exception : MicroserviceException)
    (service : String) (traceId : Option String) (failure : RpcFailure)
    (delivered :
      failure = .payload (RpcAllExceptionsFilter.catch traceId (.microservice exception)) ∨
      failure = .wrapped (RpcAllExceptionsFilter.catch traceId (.microservice exception))) :
    AllExceptionsFilter.catch (.http (RpcClientService.unwrapError service failure)) =
      { statusCode := exception.status, code := exception.code,
        message := exception.messageText, details := exception.details } := by
  rcases delivered with rfl | rfl <;> rfl

end NestMonorepo
