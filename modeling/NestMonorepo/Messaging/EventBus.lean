import NestMonorepo.Database.Entities

/-! # The event bus of a service

`EventBusService` owns one AMQP channel, created by `onApplicationBootstrap` and
closed by `onModuleDestroy`. `publish` drops the message when there is no
channel, and otherwise hands it to the channel without awaiting the outcome.
-/

namespace NestMonorepo

/-- A channel wrapper is open until `close()`; the service forgets it only after
the close has been awaited. -/
inductive ChannelState where
  | open
  | closed
  deriving DecidableEq, Repr

/-- A message as it is put on the exchange. -/
structure BusMessage where
  pattern : String
  data : Payload
  deriving DecidableEq, Repr

/-- The bus as `RpcClientService` sees it: whether it is wired at all, its
channel, whether the channel's `publish` throws, and the messages an open
channel accepted, with the outbox row each was sent for. -/
structure EventBus where
  wired : Bool
  channel : Option ChannelState
  publishThrows : Bool
  accepted : List (ObjectId × BusMessage)
  deriving DecidableEq, Repr

namespace EventBusService

/-- The payload with a `__traceId`, unless it carries one. -/
def attachTraceId (traceId : String) (payload : Payload) : Payload :=
  if payload.any (fun field => field.1 = "__traceId") then payload
  else payload ++ [("__traceId", .string traceId)]

/-- `EventBusService.publish`, called for one outbox row. A closed channel still
makes it answer `true`: the rejection is only logged. -/
def publish (row : ObjectId) (pattern : String) (payload : Payload) (traceId : String)
    (bus : EventBus) : EventBus × Except String Bool :=
  match bus.channel with
  | none => (bus, .ok false)
  | some state =>
      if bus.publishThrows then (bus, .error "channel.publish threw")
      else
        match state with
        | .open =>
            ({ bus with accepted :=
                bus.accepted ++ [(row, ⟨pattern, attachTraceId traceId payload⟩)] }, .ok true)
        | .closed => (bus, .ok true)

/-- What the outside does to the bus. -/
inductive Lifecycle where
  | channelCreated
  | channelClosed
  | channelForgotten
  | publishThrows (throws : Bool)
  deriving DecidableEq, Repr

/-- Start-up creates the channel, shutdown closes it and then forgets it. -/
def lifecycle : Lifecycle → EventBus → EventBus
  | .channelCreated, bus => { bus with channel := some .open }
  | .channelClosed, bus => { bus with channel := bus.channel.map fun _ => .closed }
  | .channelForgotten, bus => { bus with channel := none }
  | .publishThrows throws, bus => { bus with publishThrows := throws }

/-- The bus takes a message when it is wired, its channel is open and does not
throw. -/
def Ready (bus : EventBus) : Prop :=
  bus.wired = true ∧ bus.channel = some .open ∧ bus.publishThrows = false

instance (bus : EventBus) : Decidable (Ready bus) := inferInstanceAs (Decidable (_ ∧ _ ∧ _))

/-- What happens to its connection does not change which messages the bus has taken. -/
@[simp] theorem lifecycle_accepted (event : Lifecycle) (bus : EventBus) :
    (lifecycle event bus).accepted = bus.accepted := by
  cases event <;> rfl

end EventBusService

/-! ## What the outbox dispatcher calls -/

namespace RpcClientService

/-- `RpcClientService.publishEvent`: an unwired bus, a dropped message and a
thrown error all end in a normal return. -/
def publishEvent (row : ObjectId) (pattern : String) (payload : Payload) (traceId : String)
    (bus : EventBus) : EventBus × Except String Unit :=
  if bus.wired then ((EventBusService.publish row pattern payload traceId bus).1, .ok ())
  else (bus, .ok ())

/-- The caller learns nothing from `publishEvent`. -/
@[simp] theorem publishEvent_outcome (row : ObjectId) (pattern : String) (payload : Payload)
    (traceId : String) (bus : EventBus) :
    (publishEvent row pattern payload traceId bus).2 = .ok () := by
  unfold publishEvent
  split <;> rfl

/-- A publication never loses messages accepted before. -/
theorem accepted_subset_publishEvent (row : ObjectId) (pattern : String) (payload : Payload)
    (traceId : String) (bus : EventBus) :
    bus.accepted ⊆ (publishEvent row pattern payload traceId bus).1.accepted := by
  unfold publishEvent EventBusService.publish
  split
  · split
    · exact List.Subset.refl _
    · split
      · exact List.Subset.refl _
      · split
        · exact List.subset_append_left _ _
        · exact List.Subset.refl _
  · exact List.Subset.refl _

/-- An event published on a ready bus is accepted for its row, with a trace id. -/
theorem accepted_publishEvent_of_ready {bus : EventBus} (ready : EventBusService.Ready bus)
    (row : ObjectId) (pattern : String) (payload : Payload) (traceId : String) :
    (row, ⟨pattern, EventBusService.attachTraceId traceId payload⟩) ∈
      (publishEvent row pattern payload traceId bus).1.accepted := by
  obtain ⟨wired, opened, quiet⟩ := ready
  simp only [publishEvent, wired, EventBusService.publish, opened, quiet, Bool.false_eq_true,
    ↓reduceIte, List.mem_append, List.mem_singleton, or_true]

end RpcClientService

end NestMonorepo
