import NestMonorepo.Gateway.Rpc

/-! # Errors as JavaScript carries them

The filters and the client read fields of values they know nothing about: an
error may be anything, its marker `__rpcError` says that it is a payload, and the
rest is cast. This is the code at that level; what the rest of the gateway uses
are the same functions on the values the casts promise.
-/

namespace NestMonorepo

namespace Dynamic

/-- A value that may be `undefined`. -/
abbrev Value : Type := Option Json

/-- `value[name]`. -/
def field (name : String) : Value → Value
  | some (.object fields) => fields.lookup name
  | _ => none

/-- `value ?? other`. -/
def coalesce (other : Value) : Value → Value
  | none => other
  | some .null => other
  | some value => some value

/-- Whether JavaScript takes the value for true. -/
def isTruthy : Value → Bool
  | none => false
  | some .null => false
  | some (.bool value) => value
  | some (.number value) => value ≠ 0
  | some (.string value) => value ≠ ""
  | some _ => true

/-- An object literal; `undefined` properties read as absent ones and do not
survive the wire. -/
def literal (properties : List (String × Value)) : List (String × Json) :=
  properties.filterMap fun property => property.2.map fun value => (property.1, value)

/-- `...(value ? { name: value } : {})`. -/
def whenTruthy (value : Value) : Value := if isTruthy value then value else none

mutual

/-- Whether `String(value)` returns; an own `toString` is not callable. -/
def prints : Json → Bool
  | .array items => printsAll items
  | .object fields => (fields.lookup "toString").isNone
  | _ => true

def printsAll : List Json → Bool
  | [] => true
  | item :: rest => prints item && printsAll rest

end

/-! ## Exceptions -/

/-- What an `HttpException` was built from. -/
inductive ResponseBody where
  | text (message : String)
  | object (fields : List (String × Json))

structure HttpException where
  status : Value
  response : ResponseBody
  message : String

structure MicroserviceException where
  status : Value
  code : Value
  messageText : Value
  details : Value := none
  traceId : Option String := none

namespace MicroserviceException

def properties (exception : MicroserviceException) : List (String × Value) :=
  [("__rpcError", some (.bool true)), ("status", exception.status), ("code", exception.code),
    ("message", exception.messageText), ("details", exception.details),
    ("traceId", exception.traceId.map Json.string)]

/-- The payload built by the constructor, and what `getError` returns. -/
def payload (exception : MicroserviceException) : Json := .object (literal exception.properties)

end MicroserviceException

/-- Anything that may be thrown. -/
inductive Exception where
  | http (exception : HttpException)
  | microservice (exception : MicroserviceException)
  /-- Any other `RpcException`. -/
  | rpc (error : Json)
  /-- `TimeoutError` of rxjs. -/
  | timeout
  /-- Any other `Error`. -/
  | error (message : String)
  /-- A value that is no `Error`. -/
  | value (value : Value)

/-- An `Error` as an object, with its message. -/
def errorObject (message : String) (others : List (String × Value)) : Value :=
  some (.object (literal (("message", some (.string message)) :: others)))

/-- The exception as a value whose properties are read. -/
def Exception.toValue : Exception → Value
  | .http exception => errorObject exception.message [("status", exception.status)]
  | .microservice exception =>
      errorObject
        (match exception.messageText with
          | some (.string message) => message
          | _ => "Microservice Exception")
        [("error", some exception.payload), ("status", exception.status),
          ("code", exception.code), ("messageText", exception.messageText),
          ("details", exception.details), ("traceId", exception.traceId.map Json.string)]
  | .rpc raised =>
      errorObject
        (match raised with
          | .string message => message
          | _ => "Rpc Exception")
        [("error", some raised)]
  | .timeout => errorObject "Timeout has occurred" []
  | .error message => errorObject message []
  | .value thrown => thrown

/-- `isRpcErrorPayload`: the marker is all that is asked for. -/
def isRpcErrorPayload (value : Value) : Bool :=
  match field "__rpcError" value with
  | some (.bool marked) => marked
  | _ => false

/-- The code of a status, the status being whatever was thrown. -/
def codeOfStatus : Value → String
  | some (.number (.ofNat status)) => statusToCode status
  | _ => ErrorCodes.internalError

/-! ## Microservice side -/

/-- `normalizeHttpResponse`: code, message and details. -/
def RpcAllExceptionsFilter.normalizeHttpResponse (exception : HttpException) :
    Value × Value × Value :=
  match exception.response with
  | .text message => (none, some (.string message), none)
  | .object fields =>
      (fields.lookup "code",
        coalesce (some (.string exception.message)) (fields.lookup "message"),
        fields.lookup "details")

/-- `RpcAllExceptionsFilter.catch`. -/
def RpcAllExceptionsFilter.catch (traceId : Option String) : Exception → Exception
  | .microservice exception => .microservice exception
  | .http exception =>
      let (code, messageText, details) := RpcAllExceptionsFilter.normalizeHttpResponse exception
      .microservice
        { status := exception.status
          code := coalesce (some (.string (codeOfStatus exception.status))) code
          messageText, details, traceId }
  | .rpc error => .rpc error
  | exception =>
      .microservice
        { status := some (.number 500), code := some (.string ErrorCodes.internalError)
          messageText :=
            coalesce (some (.string "Internal server error")) (field "message" exception.toValue)
          traceId }

/-- How the transport may deliver an exception: its payload itself, or an object
that carries it under `error`. -/
inductive Delivered (exception : MicroserviceException) : Value → Prop
  | payload : Delivered exception (some exception.payload)
  | wrapped {fields : List (String × Json)} :
      isRpcErrorPayload (some (.object fields)) = false →
      fields.lookup "error" = some exception.payload →
      Delivered exception (some (.object fields))

/-! ## Gateway side -/

namespace RpcClientService

/-- The exception rebuilt from a payload. -/
def rebuild (payload : Value) : HttpException where
  status := field "status" payload
  response := .object (literal
    [("statusCode", field "status" payload), ("code", field "code" payload),
      ("message", field "message" payload), ("details", whenTruthy (field "details" payload))])
  message :=
    match field "message" payload with
    | some (.string message) => message
    | _ => "Http Exception"

/-- An exception built from `{ code, message }`. -/
def coded (status : Nat) (code message : String) : HttpException where
  status := some (.number status)
  response := .object [("code", .string code), ("message", .string message)]
  message

/-- What the log line prints: `maybe?.message ?? String(err)`. -/
def logged (exception : Exception) : Value :=
  coalesce exception.toValue (field "message" exception.toValue)

/-- `unwrapError`; printing an unknown error may throw in its turn. -/
def unwrapError (service : String) (exception : Exception) : Except Exception HttpException :=
  match exception with
  | .timeout =>
      .ok (coded 504 ErrorCodes.internalError ("Upstream service '" ++ service ++ "' timed out"))
  | exception =>
      let maybe := exception.toValue
      if isRpcErrorPayload maybe then .ok (rebuild maybe)
      else if isRpcErrorPayload (field "error" maybe) then .ok (rebuild (field "error" maybe))
      else if (logged exception).all prints then
        .ok (coded 503 ErrorCodes.internalError
          ("Upstream service '" ++ service ++ "' is unavailable"))
      else .error (.error "Cannot convert object to primitive value")

/-- What comes of `client.send(pattern, payload)`. -/
inductive Sent (α : Type) where
  | threw (exception : Exception)
  | replied (answer : α)
  | empty
  | failed (exception : Exception)
  /-- No answer within the timeout. -/
  | silent

/-- The `catch` of `send`. -/
def rethrow (service : String) : Exception → Exception
  | .http exception => .http exception
  | exception =>
      match unwrapError service exception with
      | .ok exception => .http exception
      | .error exception => exception

/-- The `catchError` of `send`, and then its `catch`. -/
def caught (service : String) (exception : Exception) : Exception :=
  match unwrapError service exception with
  | .ok exception => rethrow service (.http exception)
  | .error exception => rethrow service exception

/-- `RpcClientService.send`. -/
def send {α : Type} (service : String) : Sent α → Except Exception α
  | .replied answer => .ok answer
  | .threw exception => .error (rethrow service exception)
  | .empty => .error (rethrow service (.error "no elements in sequence"))
  | .failed exception => .error (caught service exception)
  | .silent => .error (caught service .timeout)

end RpcClientService

/-- The call `response.status(status).json(body)`. -/
structure ResponseCall where
  status : Value
  body : List (String × Json)

/-! ### Express -/

/-- A request as its response depends on it: whether its method is HEAD, and whether it is
conditional and the client's copy is what is answered. -/
structure ClientRequest where
  head : Bool := false
  unmodified : Bool := false

/-- What the client receives: a status and, unless there is none, a JSON body. -/
structure Received where
  status : Int
  body : Option (List (String × Json))

namespace Express

/-- A fresh copy is answered with 304 in place of a 2xx. -/
def sentStatus (request : ClientRequest) (status : Int) : Int :=
  if request.unmodified && decide (200 ≤ status ∧ status < 300) then 304 else status

/-- The statuses that are sent without a body. -/
def Bodiless (status : Int) : Prop :=
  status < 200 ∨ status = 204 ∨ status = 205 ∨ status = 304

instance (status : Int) : Decidable (Bodiless status) := inferInstanceAs (Decidable (_ ∨ _))

/-- `response.status(status).json(body)`: `status` throws on anything but an integer from 100
to 999. -/
def send (request : ClientRequest) (call : ResponseCall) : Except String Received :=
  match call.status with
  | some (.number status) =>
      if 100 ≤ status ∧ status ≤ 999 then
        let sent := sentStatus request status
        .ok ⟨sent, if request.head = true ∨ Bodiless sent then none else some call.body⟩
      else .error "Invalid status code"
  | _ => .error "Invalid status code"

end Express

/-- `extractRpcPayload`. -/
def AllExceptionsFilter.extractRpcPayload (exception : Exception) : Option Value :=
  let maybe := exception.toValue
  if isRpcErrorPayload maybe then some maybe
  else if isRpcErrorPayload (field "error" maybe) then some (field "error" maybe)
  else none

/-- The call with which the filter ends. -/
def AllExceptionsFilter.respond (requestId : String)
    (statusCode code message details : Value) : ResponseCall where
  status := statusCode
  body := literal
    [("statusCode", statusCode), ("code", code), ("message", message),
      ("details", whenTruthy details), ("requestId", some (.string requestId))]

/-- `AllExceptionsFilter.catch`. -/
def AllExceptionsFilter.catch (requestId : String) (exception : Exception) : ResponseCall :=
  match AllExceptionsFilter.extractRpcPayload exception with
  | some payload =>
      AllExceptionsFilter.respond requestId (field "status" payload) (field "code" payload)
        (field "message" payload) (field "details" payload)
  | none =>
      match exception with
      | .http exception =>
          match exception.response with
          | .text message =>
              AllExceptionsFilter.respond requestId exception.status
                (some (.string ErrorCodes.internalError)) (some (.string message)) none
          | .object fields =>
              AllExceptionsFilter.respond requestId exception.status
                (coalesce (some (.string (codeOfStatus exception.status)))
                  (fields.lookup "code"))
                (coalesce (some (.string exception.message)) (fields.lookup "message"))
                (fields.lookup "details")
      | .value _ =>
          AllExceptionsFilter.respond requestId (some (.number 500))
            (some (.string ErrorCodes.internalError))
            (some (.string "Internal server error")) none
      | exception =>
          AllExceptionsFilter.respond requestId (some (.number 500))
            (some (.string ErrorCodes.internalError)) (field "message" exception.toValue) none

/-! ## Reading fields -/

section Fields

variable {name : String} {value : Value} {fields : List (String × Json)}
  {properties : List (String × Value)}

/-- An object literal with distinct names has the properties it was given, and lacks those
whose value is undefined. -/
theorem lookup_literal (distinct : (properties.map Prod.fst).Nodup) :
    (literal properties).lookup name = (properties.lookup name).join := by
  induction properties with
  | nil => rfl
  | cons property rest ih =>
      obtain ⟨own, value⟩ := property
      obtain ⟨fresh, others⟩ := List.nodup_cons.mp distinct
      by_cases same : name = own
      · subst same
        cases value with
        | some value => simp only [literal, List.filterMap_cons, Option.map_some,
            List.lookup_cons_self, Option.join_some]
        | none =>
            have absent : rest.lookup name = none := by
              rw [List.lookup_eq_none_iff]
              intro pair member
              refine bne_iff_ne.mpr fun equal => fresh ?_
              exact List.mem_map.mpr ⟨pair, member, equal.symm⟩
            change (literal rest).lookup name = _
            rw [ih others, absent, List.lookup_cons_self]
            rfl
      · have passed : (name == own) = false := beq_eq_false_iff_ne.mpr same
        cases value with
        | some value =>
            simp only [literal, List.filterMap_cons, Option.map_some, List.lookup_cons, passed]
            exact ih others
        | none =>
            change (literal rest).lookup name = _
            simp only [List.lookup_cons, passed]
            exact ih others

/-- What is left out for being false would be left out again. -/
@[simp] theorem whenTruthy_whenTruthy : whenTruthy (whenTruthy value) = whenTruthy value := by
  unfold whenTruthy
  cases truth : isTruthy value with
  | true => simp only [↓reduceIte, truth]
  | false => rfl

/-- A field of an object is looked up in it. -/
@[simp] theorem field_object : field name (some (.object fields)) = fields.lookup name := rfl

/-- Neither `null` nor `undefined`. -/
def Present (value : Value) : Prop := ∀ other, coalesce other value = value

/-- A text is present. -/
theorem present_string (text : String) : Present (some (.string text)) := fun _ => rfl

/-- A value that stands in for a missing one is not replaced in its turn. -/
theorem present_coalesce (text : String) : Present (coalesce (some (.string text)) value) := by
  intro other
  cases value with
  | none => rfl
  | some value => cases value <;> rfl

end Fields

section Payload

variable (exception : MicroserviceException)

/-- A field of an exception's payload is the property under that name. -/
theorem field_payload (name : String) :
    field name (some exception.payload) = (exception.properties.lookup name).join := by
  have distinct : ["__rpcError", "status", "code", "message", "details", "traceId"].Nodup := by
    decide
  change (literal exception.properties).lookup name = _
  exact lookup_literal distinct

/-- The payload of an exception is recognised as that of an RPC error. -/
@[simp] theorem isRpcErrorPayload_payload : isRpcErrorPayload (some exception.payload) = true := by
  rw [isRpcErrorPayload, field_payload]
  rfl

/-- The exception rebuilt from a payload, field by field. -/
theorem rebuild_payload : RpcClientService.rebuild (some exception.payload) =
    { status := exception.status
      response := .object (literal
        [("statusCode", exception.status), ("code", exception.code),
          ("message", exception.messageText), ("details", whenTruthy exception.details)])
      message :=
        match exception.messageText with
        | some (.string message) => message
        | _ => "Http Exception" } := by
  simp only [RpcClientService.rebuild, field_payload]
  rfl

/-- A delivered exception is recognised in either shape. -/
theorem Delivered.caught {exception : MicroserviceException} {value : Value}
    (delivered : Delivered exception value) (service : String) :
    RpcClientService.caught service (.value value) =
      .http (RpcClientService.rebuild (some exception.payload)) := by
  cases delivered with
  | payload =>
      simp only [RpcClientService.caught, RpcClientService.unwrapError, Exception.toValue,
        isRpcErrorPayload_payload, ↓reduceIte, RpcClientService.rethrow]
  | wrapped unmarked carried =>
      simp only [RpcClientService.caught, RpcClientService.unwrapError, Exception.toValue,
        unmarked, Bool.false_eq_true, field_object, carried, isRpcErrorPayload_payload,
        ↓reduceIte, RpcClientService.rethrow]

end Payload

/-! ## From the microservice to the client -/

/-- A microservice handler throws, and the transport delivers a value to the gateway. -/
def Crosses (thrown : Exception) (traceId : Option String) (value : Value) : Prop :=
  ∃ exception, RpcAllExceptionsFilter.catch traceId thrown = .microservice exception ∧
    Delivered exception value

/-- The response call of a gateway handler that lets the error of its call pass. -/
def Answers {α : Type} (requestId service : String) (sent : RpcClientService.Sent α)
    (call : ResponseCall) : Prop :=
  ∃ thrown, RpcClientService.send service sent = .error thrown ∧
    AllExceptionsFilter.catch requestId thrown = call

/-- The body that tells of a failure as it was thrown, and nothing else about it. -/
def bodyOf (requestId : String) (status : Int) (code message : String) (details : Value) :
    List (String × Json) :=
  literal
    [("statusCode", some (.number status)), ("code", some (.string code)),
      ("message", some (.string message)), ("details", details),
      ("requestId", some (.string requestId))]

/-- An exception as the services of this repository build it. -/
def tagged (status : Int) (code message : String) (details : Value) (traceId : Option String) :
    MicroserviceException where
  status := some (.number status)
  code := some (.string code)
  messageText := some (.string message)
  details
  traceId

/-- In response to such requests, tagged exceptions with such statuses and details reach the
client as they were thrown. -/
def SurviveBus (admissible : ClientRequest → Int → Value → Prop) : Prop :=
  ∀ request status code message details thrownTrace filterTrace requestId service value,
    admissible request status details →
    Crosses (.microservice (tagged status code message details thrownTrace)) filterTrace value →
    ∃ call, Answers requestId service (.failed (.value value) : RpcClientService.Sent Json) call ∧
      Express.send request call =
        .ok ⟨status, some (bodyOf requestId status code message details)⟩

/-- The response to the request has the status, and a body. -/
structure Embodied (request : ClientRequest) (status : Int) : Prop where
  method : request.head = false
  changed : request.unmodified = true → 300 ≤ status
  valid : 100 ≤ status ∧ status ≤ 999
  bodied : ¬Express.Bodiless status

/-- The details are present as far as JavaScript can tell, or there are none. -/
def Told (details : Value) : Prop := details = none ∨ isTruthy details = true

/-- A call with such a status is sent as it is. -/
theorem Embodied.send {request : ClientRequest} {status : Int} (embodied : Embodied request status)
    (body : List (String × Json)) :
    Express.send request ⟨some (.number status), body⟩ = .ok ⟨status, some body⟩ := by
  have same : Express.sentStatus request status = status := by
    unfold Express.sentStatus
    split
    · rename_i fresh
      simp only [Bool.and_eq_true, decide_eq_true_eq] at fresh
      have := embodied.changed fresh.1
      omega
    · rfl
  simp only [Express.send, embodied.valid, and_self, ↓reduceIte, same, embodied.method,
    Bool.false_eq_true, embodied.bodied, or_self]

/-- A call that fails in another way than by a delivered exception: no answer, an
empty one, a peer that is not configured, or an error that is not recognised. -/
inductive OtherFailure (unrecognised : Value → Prop) : RpcClientService.Sent Json → Prop
  | silent : OtherFailure unrecognised .silent
  | empty : OtherFailure unrecognised .empty
  | missingPeer (message : String) : OtherFailure unrecognised (.threw (.error message))
  | failed {exception : Exception} : unrecognised exception.toValue →
      OtherFailure unrecognised (.failed exception)

/-- These failures are rejected as a timeout or as an unavailable service. -/
def RejectedAsUnavailable (failure : RpcClientService.Sent Json → Prop) : Prop :=
  ∀ service sent, failure sent → ∃ exception,
    RpcClientService.send service sent = .error (.http exception) ∧
      (exception.status = some (.number 504) ∨ exception.status = some (.number 503))

/-- A value that no exception of the services is delivered as. -/
def NeverDelivered (value : Value) : Prop :=
  ∀ status code message details traceId,
    ¬Delivered (tagged status code message details traceId) value

/-- A value without the marker, itself and under `error`. -/
def Unmarked (value : Value) : Prop :=
  isRpcErrorPayload value = false ∧ isRpcErrorPayload (field "error" value) = false

/-- From an exception without the marks of an RPC error no payload is extracted. -/
theorem Unmarked.extractRpcPayload {exception : Exception} (unmarked : Unmarked exception.toValue) :
    AllExceptionsFilter.extractRpcPayload exception = none := by
  simp only [AllExceptionsFilter.extractRpcPayload, unmarked.1, unmarked.2, Bool.false_eq_true,
    ↓reduceIte]

/-- The gateway's filter on an exception built from an object. -/
theorem catch_object (requestId : String) (status : Value) (fields : List (String × Json))
    (message : String) :
    AllExceptionsFilter.catch requestId (.http ⟨status, .object fields, message⟩) =
      AllExceptionsFilter.respond requestId status
        (coalesce (some (.string (codeOfStatus status))) (fields.lookup "code"))
        (coalesce (some (.string message)) (fields.lookup "message"))
        (fields.lookup "details") := by
  have unmarked : Unmarked (Exception.toValue (.http ⟨status, .object fields, message⟩)) := by
    simp only [Unmarked, Exception.toValue, errorObject, isRpcErrorPayload, field_object]
    cases status <;> exact ⟨rfl, rfl⟩
  simp only [AllExceptionsFilter.catch, unmarked.extractRpcPayload]

/-- An HTTP exception whose response is a text is answered with its status and that text,
under the code of an internal error. -/
theorem catch_text (requestId : String) (status : Value) (text message : String) :
    AllExceptionsFilter.catch requestId (.http ⟨status, .text text, message⟩) =
      AllExceptionsFilter.respond requestId status (some (.string ErrorCodes.internalError))
        (some (.string text)) none := by
  have unmarked : Unmarked (Exception.toValue (.http ⟨status, .text text, message⟩)) := by
    simp only [Unmarked, Exception.toValue, errorObject, isRpcErrorPayload, field_object]
    cases status <;> exact ⟨rfl, rfl⟩
  simp only [AllExceptionsFilter.catch, unmarked.extractRpcPayload]

/-- A rebuilt exception is answered with what its payload carries. -/
theorem catch_rebuild {exception : MicroserviceException} (coded : Present exception.code)
    (messaged : Present exception.messageText) (requestId : String) :
    AllExceptionsFilter.catch requestId
        (.http (RpcClientService.rebuild (some exception.payload))) =
      AllExceptionsFilter.respond requestId exception.status exception.code
        exception.messageText exception.details := by
  have distinct : ["statusCode", "code", "message", "details"].Nodup := by decide
  have read : ∀ name, (literal
      [("statusCode", exception.status), ("code", exception.code),
        ("message", exception.messageText),
        ("details", whenTruthy exception.details)]).lookup name =
      (List.lookup name
        [("statusCode", exception.status), ("code", exception.code),
          ("message", exception.messageText), ("details", whenTruthy exception.details)]).join :=
    fun name => lookup_literal distinct
  rw [rebuild_payload, catch_object, read, read, read]
  change AllExceptionsFilter.respond requestId exception.status (coalesce _ exception.code)
    (coalesce _ exception.messageText) (whenTruthy exception.details) = _
  rw [coded, messaged]
  simp only [AllExceptionsFilter.respond, whenTruthy_whenTruthy]

/-- A delivered exception whose code and message are present is answered with its own
status, code, message and details. -/
theorem Delivered.answers {exception : MicroserviceException} {value : Value}
    (delivered : Delivered exception value) (coded : Present exception.code)
    (messaged : Present exception.messageText) (requestId service : String) :
    Answers requestId service (.failed (.value value) : RpcClientService.Sent Json)
      (AllExceptionsFilter.respond requestId exception.status exception.code
        exception.messageText exception.details) := by
  refine ⟨_, rfl, ?_⟩
  rw [delivered.caught]
  exact catch_rebuild coded messaged requestId

/-- A call has one answer. -/
theorem Answers.unique {α : Type} {requestId service : String} {sent : RpcClientService.Sent α}
    {first second : ResponseCall} (left : Answers requestId service sent first)
    (right : Answers requestId service sent second) : first = second := by
  obtain ⟨thrown, failed, rfl⟩ := left
  obtain ⟨again, failed', rfl⟩ := right
  rw [failed] at failed'
  cases failed'
  rfl

/-- An unmarked error is an unavailable service, unless it cannot even be printed. -/
theorem Unmarked.unwrapError {exception : Exception} (unmarked : Unmarked exception.toValue)
    (service : String) :
    (∃ rejected, RpcClientService.unwrapError service exception = .ok rejected ∧
      (rejected.status = some (.number 504) ∨ rejected.status = some (.number 503))) ∨
    ∃ message, RpcClientService.unwrapError service exception = .error (.error message) := by
  cases exception with
  | timeout => exact .inl ⟨_, rfl, .inl rfl⟩
  | _ =>
      simp only [RpcClientService.unwrapError, unmarked.1, unmarked.2, Bool.false_eq_true,
        ↓reduceIte]
      split
      · exact .inl ⟨_, rfl, .inr rfl⟩
      · exact .inr ⟨_, rfl⟩

/-- The client handles the error its own log line may throw. -/
theorem Unmarked.caught {exception : Exception} (unmarked : Unmarked exception.toValue)
    (service : String) : ∃ rejected, RpcClientService.caught service exception = .http rejected ∧
      (rejected.status = some (.number 504) ∨ rejected.status = some (.number 503)) := by
  rcases unmarked.unwrapError service with ⟨rejected, unwrapped, status⟩ | ⟨message, thrown⟩
  · refine ⟨rejected, ?_, status⟩
    simp only [RpcClientService.caught, unwrapped, RpcClientService.rethrow]
  · refine ⟨RpcClientService.coded 503 ErrorCodes.internalError
      ("Upstream service '" ++ service ++ "' is unavailable"), ?_, .inr rfl⟩
    simp only [RpcClientService.caught, thrown]
    rfl

/-- Tagged exceptions survive the bus where their status can be sent with a body, unless their
details count as false; and every failure without the marker is rejected with 504 or 503. -/
theorem errorsSurvive :
    SurviveBus (fun request status details => Embodied request status ∧ Told details) ∧
      RejectedAsUnavailable (OtherFailure Unmarked) := by
  constructor
  · rintro request status code message details thrownTrace filterTrace requestId service value
      ⟨embodied, told⟩ ⟨exception, passed, delivered⟩
    cases passed
    refine ⟨_, delivered.answers (present_string code) (present_string message) requestId service,
      (embodied.send _).trans ?_⟩
    have kept : whenTruthy details = details := by
      unfold whenTruthy
      rcases told with rfl | truth
      · rfl
      · rw [if_pos truth]
    change Except.ok (Received.mk status (some (literal
      [_, _, _, ("details", whenTruthy details), _]))) = _
    rw [kept]
    rfl
  · intro service sent failure
    cases failure with
    | silent => exact ⟨_, rfl, .inl rfl⟩
    | empty => exact ⟨_, rfl, .inr rfl⟩
    | missingPeer message => exact ⟨_, rfl, .inr rfl⟩
    | failed unmarked =>
        obtain ⟨rejected, caught, status⟩ := unmarked.caught service
        exact ⟨rejected, congrArg Except.error caught, status⟩

/-- A status that is none is not sent, one like 204 without a body, and nothing but the status
in response to HEAD; details that count as false are dropped, and the marker alone passes for
a payload. -/
theorem not_errorsSurvive :
    ¬SurviveBus (fun request status details =>
        request = {} ∧ (status < 100 ∨ 999 < status) ∧ Told details) ∧
      ¬SurviveBus (fun request status details => request = {} ∧ status = 204 ∧ Told details) ∧
      ¬SurviveBus (fun request status details =>
        request.head = true ∧ 400 ≤ status ∧ status < 500 ∧ Told details) ∧
      ¬SurviveBus (fun request status _ => Embodied request status) ∧
      ¬RejectedAsUnavailable (OtherFailure NeverDelivered) := by
  have crosses : ∀ status details, Crosses (.microservice (tagged status "c" "m" details none))
      none (some (tagged status "c" "m" details none).payload) := fun _ _ => ⟨_, rfl, .payload⟩
  have answered : ∀ status details, Answers "r" "user"
      (.failed (.value (some (tagged status "c" "m" details none).payload)))
      (AllExceptionsFilter.respond "r" (some (.number status)) (some (.string "c"))
        (some (.string "m")) details) := fun status details =>
    Delivered.answers (.payload : Delivered (tagged status "c" "m" details none) _)
      (present_string "c") (present_string "m") "r" "user"
  refine ⟨fun survive => ?_, fun survive => ?_, fun survive => ?_, fun survive => ?_, ?_⟩
  · obtain ⟨call, answers, sent⟩ := survive _ 99 _ _ none _ _ "r" "user" _
      ⟨rfl, .inl (by decide), .inl rfl⟩ (crosses 99 none)
    rw [← (answered 99 none).unique answers] at sent
    cases sent
  · obtain ⟨call, answers, sent⟩ := survive _ 204 _ _ none _ _ "r" "user" _
      ⟨rfl, rfl, .inl rfl⟩ (crosses 204 none)
    rw [← (answered 204 none).unique answers] at sent
    cases sent
  · obtain ⟨call, answers, sent⟩ := survive { head := true } 404 _ _ none _ _ "r" "user" _
      ⟨rfl, by decide, by decide, .inl rfl⟩ (crosses 404 none)
    rw [← (answered 404 none).unique answers] at sent
    cases sent
  · have embodied : Embodied {} 409 := ⟨rfl, nofun, by decide, by decide⟩
    obtain ⟨call, answers, sent⟩ := survive {} 409 _ _ (some (.bool false)) _ _ "r" "user" _
      embodied (crosses 409 _)
    rw [← (answered 409 _).unique answers, AllExceptionsFilter.respond, embodied.send] at sent
    have bodies := congrArg Received.body (Except.ok.inj sent)
    have same := congrArg (List.lookup "details") (Option.some.inj bodies)
    cases same
  · intro rejected
    have undelivered : NeverDelivered (some (.object [("__rpcError", .bool true)])) := by
      intro status code message details traceId delivered
      generalize same : (some (.object [("__rpcError", .bool true)]) : Value) = value at delivered
      cases delivered with
      | payload =>
          have read := congrArg (field "status") same
          rw [field_payload] at read
          cases read
      | wrapped unmarked _ =>
          cases same
          cases unmarked
    obtain ⟨exception, sent, status⟩ := rejected "user"
      (.failed (.value (some (.object [("__rpcError", .bool true)])))) (.failed undelivered)
    cases sent
    rcases status with timedOut | unavailable
    · cases timedOut
    · cases unavailable

/-! ## The two error paths -/

/-- An exception is answered alike whether a gateway handler throws it or a
microservice handler does. -/
def PathsAgree (exception : HttpException) : Prop :=
  ∀ traceId requestId service value, Crosses (.http exception) traceId value →
    Answers requestId service (.failed (.value value) : RpcClientService.Sent Json)
      (AllExceptionsFilter.catch requestId (.http exception))

/-- The code of the body is the code that was given. -/
theorem respond_lookup_code (requestId : String) (status code message details : Value) :
    (AllExceptionsFilter.respond requestId status code message details).body.lookup "code" =
      code := by
  have distinct : ["statusCode", "code", "message", "details", "requestId"].Nodup := by decide
  have read : (AllExceptionsFilter.respond requestId status code message details).body.lookup
      "code" = (some code).join := lookup_literal distinct
  rw [read, Option.join_some]

/-- What a microservice makes of the exception arrives field by field. -/
theorem Crosses.answers {exception : HttpException} {traceId : Option String} {value : Value}
    (crosses : Crosses (.http exception) traceId value) (requestId service : String) :
    Answers requestId service (.failed (.value value) : RpcClientService.Sent Json)
      (AllExceptionsFilter.respond requestId exception.status
        (coalesce (some (.string (codeOfStatus exception.status)))
          (RpcAllExceptionsFilter.normalizeHttpResponse exception).1)
        (RpcAllExceptionsFilter.normalizeHttpResponse exception).2.1
        (RpcAllExceptionsFilter.normalizeHttpResponse exception).2.2) := by
  obtain ⟨tagged, caught, delivered⟩ := crosses
  cases caught
  refine delivered.answers (present_coalesce _) ?_ requestId service
  obtain ⟨status, response, message⟩ := exception
  cases response with
  | text text => exact present_string text
  | object fields => exact present_coalesce message

/-- The gateway gives every text body the code of an internal error. -/
theorem PathsAgree.code_eq {status : Value} {text message : String}
    (agree : PathsAgree ⟨status, .text text, message⟩) :
    codeOfStatus status = ErrorCodes.internalError := by
  have crosses : Crosses (.http ⟨status, .text text, message⟩) none _ := ⟨_, rfl, .payload⟩
  have same := (agree none "" "" _ crosses).unique (crosses.answers "" "")
  rw [catch_text] at same
  have codes := congrArg (fun response => response.body.lookup "code") same
  rw [respond_lookup_code, respond_lookup_code] at codes
  injection codes with codes
  injection codes with codes
  exact codes.symm

/-- The two paths agree on an exception unless its body is a text and its status has a code
of its own: such a text is an internal error to the gateway's filter, and has the status's
code behind the RPC filter. -/
theorem pathsAgree_iff (exception : HttpException) :
    PathsAgree exception ↔
      ¬((∃ text, exception.response = .text text) ∧
        codeOfStatus exception.status ≠ ErrorCodes.internalError) := by
  obtain ⟨status, response, message⟩ := exception
  constructor
  · rintro agree ⟨⟨text, rfl⟩, differ⟩
    exact differ agree.code_eq
  · intro agrees traceId requestId service value crosses
    have answers := crosses.answers requestId service
    cases response with
    | object fields => rwa [catch_object]
    | text text =>
        have plain : codeOfStatus status = ErrorCodes.internalError := by
          by_contra differ
          exact agrees ⟨⟨text, rfl⟩, differ⟩
        rw [catch_text, ← plain]
        exact answers

/-- What the throttler throws: a plain text with the status 429. -/
def ThrottlerException : HttpException where
  status := some (.number 429)
  response := .text "ThrottlerException: Too Many Requests"
  message := "ThrottlerException: Too Many Requests"

/-- The paths do not agree on the throttler's exception: thrown in the gateway it is
answered as an internal error, and from a microservice with the code of its status. -/
theorem not_pathsAgree_of_throttled : ¬PathsAgree ThrottlerException := by
  intro agree
  have plain : codeOfStatus (some (.number 429)) = ErrorCodes.internalError := agree.code_eq
  have limited : "rate_limited" = "internal_error" := plain
  revert limited
  decide

end Dynamic

end NestMonorepo
