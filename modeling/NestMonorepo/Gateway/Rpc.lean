import NestMonorepo.Users.Runs

/-! # Requests to the user service

`RpcClientService.user` sends one message to the user service. The answer or the
error arrives, or the request fares badly on the way: it is lost, or it is served
and the answer is lost.
-/

namespace NestMonorepo

/-- What the transport itself reports: a timeout, or an error that carries no
payload of the user service. -/
inductive TransportFailure where
  | timeout
  | unknown (message : Option String)
  deriving DecidableEq, Repr

/-- The failure as `RpcClientService.unwrapError` receives it. -/
def TransportFailure.toRpcFailure : TransportFailure → RpcFailure
  | .timeout => .timeout
  | .unknown message => .unknown message

/-- How a request to the user service fares. -/
inductive Delivery where
  | answered
  | lost (failure : TransportFailure)
  | unanswered (failure : TransportFailure)
  deriving DecidableEq, Repr

namespace RpcClientService

variable [Libraries]

/-- What an outcome of the user service is at the gateway. -/
def unwrap (outcome : Except ServiceError Answer) : Except HttpException Answer :=
  outcome.mapError fun error =>
    unwrapError "user" (.payload (RpcAllExceptionsFilter.catch none error))

/-- `rpc.user(operation)`. -/
def user (delivery : Delivery) (operation : UserOperation) (backend : Backend) :
    Backend × Except HttpException Answer :=
  match delivery with
  | .answered => ((serve operation backend).1, unwrap (serve operation backend).2)
  | .lost failure => (backend, .error (unwrapError "user" failure.toRpcFailure))
  | .unanswered failure =>
      ((serve operation backend).1, .error (unwrapError "user" failure.toRpcFailure))

end RpcClientService

/-- A request without an answer is never a `404`. -/
theorem TransportFailure.unwrapError_status (failure : TransportFailure) (service : String) :
    (RpcClientService.unwrapError service failure.toRpcFailure).status = 504 ∨
      (RpcClientService.unwrapError service failure.toRpcFailure).status = 503 := by
  cases failure with
  | timeout => exact .inl rfl
  | unknown message => exact .inr rfl

end NestMonorepo
