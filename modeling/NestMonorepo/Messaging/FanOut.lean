import NestMonorepo.Amqp.TopicExchange
import NestMonorepo.Concurrency.Fleets
import NestMonorepo.Messaging.EventBus
import NestMonorepo.Messaging.Stages

/-! # Fan-out of events to the services of a stage

Every service of a stage has a queue of its own, bound to the events exchange for the
patterns it subscribes to; the RPC clients of its peers send into the same queue. An event
handler that throws has its message put into the dead-letter queue of the service. The broker
does not wait for the handlers: what it has delivered, it forgets, also what is lost on the
way with the connection of a consumer.
-/

namespace NestMonorepo

open Amqp Concurrency

/-! ## Options -/

structure MessagingModuleOptions where
  url : String
  selfQueue : Option String
  subscribesTo : Option (List String)
  deriving DecidableEq, Repr

structure EventBusOptions where
  url : String
  selfQueue : Option String
  subscribesTo : Option (List String)
  deadLetterQueue : Option String
  deriving DecidableEq, Repr

namespace MessagingModule

/-- What `MessagingModule.build` provides as `EVENT_BUS_OPTIONS`. -/
def busOptions (env : ProcessEnv) (options : MessagingModuleOptions) : EventBusOptions where
  url := options.url
  selfQueue := (truthy options.selfQueue).map (prefixedQueue env)
  subscribesTo := options.subscribesTo
  deadLetterQueue := (truthy options.selfQueue).map fun queue => prefixedQueue env (queue ++ ".dlq")

/-- What it provides as `DLQ_SERVICE_NAME`. -/
def dlqServiceName (env : ProcessEnv) (options : MessagingModuleOptions) : String :=
  ((truthy options.selfQueue).map (prefixedQueue env)).getD "gateway"

end MessagingModule

/-! ## Messages -/

/-- An `Error` as a dead letter describes it. -/
structure HandlerError where
  message : String
  name : String
  stack : Option String
  deriving DecidableEq, Repr

/-- What a handler throws: an error, or a value that is turned into one. -/
inductive Thrown where
  | error (error : HandlerError)
  | value (text stack : String)
  deriving DecidableEq, Repr

/-- `err instanceof Error ? err : new Error(String(err))`. -/
def Thrown.toError : Thrown → HandlerError
  | .error thrown => thrown
  | .value text stack => ⟨text, "Error", some stack⟩

/-- The `data` of a message on one of the exchanges. -/
inductive EventData where
  | payload (fields : Payload)
  | deadLetter (service originalPattern : String) (originalPayload : EventData)
      (error : HandlerError) (deadLetteredAt : Millis) (traceId : String)
  deriving DecidableEq

structure Packet where
  pattern : String
  data : EventData
  deriving DecidableEq

/-- Why a message was sent: an event for the n-th time that a bus took a message, a letter
because the handling of a copy failed at a service, or something that an RPC client sent. -/
inductive Source where
  | event (serial : Nat)
  | failure (service : ServiceName) (copy : Nat)
  | client
  deriving DecidableEq

/-- A message on its way to an exchange. -/
structure Outgoing where
  exchange : String
  routingKey : String
  packet : Packet
  source : Source
  deriving DecidableEq

/-- A message in a queue, with the number of its routing. -/
structure Copy where
  number : Nat
  message : Outgoing
  deriving DecidableEq

/-! ## The bus -/

/-- A channel of `amqp-connection-manager`: messages wait while it is not connected, and are
kept until the broker confirms or refuses them. -/
structure ChannelWrapper where
  state : ChannelState
  connected : Bool
  waiting : List Outgoing
  unconfirmed : List Outgoing
  deriving DecidableEq

namespace ChannelWrapper

def created : ChannelWrapper := ⟨.open, false, [], []⟩

/-- A closed channel rejects what it is given. -/
def publish (message : Outgoing) (channel : ChannelWrapper) : ChannelWrapper :=
  match channel.state with
  | .open => { channel with waiting := channel.waiting ++ [message] }
  | .closed => channel

/-- On a new connection that could be set up, what the broker has not confirmed is sent
again, after what is waiting. -/
def connect (succeeded : Bool) (channel : ChannelWrapper) : ChannelWrapper :=
  match succeeded with
  | true => ⟨channel.state, true, channel.waiting ++ channel.unconfirmed, []⟩
  | false => { channel with connected := false }

def disconnect (channel : ChannelWrapper) : ChannelWrapper :=
  { channel with connected := false }

/-- What the channel still keeps. -/
def kept (channel : ChannelWrapper) : List Outgoing := channel.unconfirmed ++ channel.waiting

/-- The promise of a message that is kept is rejected: the broker has refused it, or it could
not be sent. -/
def refuse (index : Nat) (channel : ChannelWrapper) : ChannelWrapper :=
  if index < channel.unconfirmed.length then
    { channel with unconfirmed := channel.unconfirmed.eraseIdx index }
  else
    { channel with waiting := channel.waiting.eraseIdx (index - channel.unconfirmed.length) }

end ChannelWrapper

namespace EventBusService

def eventsExchangeName (env : ProcessEnv) : String := prefixedQueue env "events"

def eventsDlxName (env : ProcessEnv) : String := prefixedQueue env "events.dlx"

/-- The `setup` of the channel, run at the broker on every connection. -/
def setup (env : ProcessEnv) (options : EventBusOptions) : List Declaration :=
  [.assertExchange (eventsExchangeName env), .assertExchange (eventsDlxName env)] ++
    (match truthy options.selfQueue with
      | some selfQueue => (options.subscribesTo.getD []).map fun pattern =>
          .bindQueue selfQueue (eventsExchangeName env) pattern
      | none => []) ++
    match truthy options.deadLetterQueue, truthy options.selfQueue with
    | some deadLetterQueue, some selfQueue =>
        [.assertQueue deadLetterQueue, .bindQueue deadLetterQueue (eventsDlxName env) selfQueue]
    | _, _ => []

/-- Without a channel a message is dropped; whatever the channel makes of it, the answer is
`true`. -/
def handOver (message : Outgoing) : Option ChannelWrapper → Option ChannelWrapper × Bool
  | none => (none, false)
  | some channel => (some (channel.publish message), true)

/-- The message that `publish` puts on the events exchange. -/
def eventMessage (env : ProcessEnv) (pattern : String) (payload : Payload) (traceId : String)
    (source : Source) : Outgoing where
  exchange := eventsExchangeName env
  routingKey := pattern
  packet := ⟨pattern, .payload (attachTraceId traceId payload)⟩
  source := source

/-- The message that `publishToDeadLetter` puts on the dead-letter exchange. -/
def deadLetterMessage (env : ProcessEnv) (originalPattern : String) (originalPayload : EventData)
    (error : HandlerError) (serviceName : String) (now : Millis) (traceId : String)
    (source : Source) : Outgoing where
  exchange := eventsDlxName env
  routingKey := serviceName
  packet := ⟨"dlq.event_handler_failed",
    .deadLetter serviceName originalPattern originalPayload error now traceId⟩
  source := source

section Publish

variable {bus : EventBus} {channel : Option ChannelWrapper}

/-- To the outbox, `publish` is a bus that records what an open channel takes: without one
it returns as well, and hands nothing over. -/
theorem publish_eq_handOver (quiet : bus.publishThrows = false)
    (same : bus.channel = channel.map ChannelWrapper.state) (env : ProcessEnv) (row : ObjectId)
    (pattern : String) (payload : Payload) (traceId : String) (source : Source) :
    (publish row pattern payload traceId bus).2 =
        .ok (handOver (eventMessage env pattern payload traceId source) channel).2 ∧
      ((publish row pattern payload traceId bus).1.accepted = bus.accepted ↔
        (handOver (eventMessage env pattern payload traceId source) channel).1 = channel) := by
  cases channel with
  | none =>
      rw [publish, same]
      exact ⟨rfl, iff_of_true rfl rfl⟩
  | some channel =>
      obtain ⟨state, connected, waiting, unconfirmed⟩ := channel
      rw [publish, same, Option.map_some]
      dsimp only
      rw [quiet, if_neg Bool.false_ne_true]
      cases state with
      | closed => exact ⟨rfl, iff_of_true rfl rfl⟩
      | «open» =>
          refine ⟨rfl, iff_of_false ?_ ?_⟩
          · exact fun longer => List.cons_ne_nil _ _ (List.append_right_eq_self.mp longer)
          · intro longer
            injection longer with longer
            injection longer with _ _ longer _
            exact List.cons_ne_nil _ _ (List.append_right_eq_self.mp longer)

end Publish

end EventBusService

/-! ## Handlers -/

/-- What `@EventPattern` and `@MessagePattern` record of a handler. -/
inductive HandlerKind where
  | event
  | message
  deriving DecidableEq, Repr

/-- `EventDeadLetterInterceptor.intercept` after its handler: the error of an event handler is
published as a dead letter and swallowed, the error of a message handler goes back to the
caller. -/
def EventDeadLetterInterceptor.intercept (env : ProcessEnv) (serviceName : String)
    (kind : HandlerKind) (packet : Packet) (now : Millis) (traceId : String) (source : Source)
    (channel : Option ChannelWrapper) :
    Except Thrown Unit → Option ChannelWrapper × Except Thrown Unit
  | .ok () => (channel, .ok ())
  | .error thrown =>
      match kind with
      | .message => (channel, .error thrown)
      | .event => ((EventBusService.handOver (EventBusService.deadLetterMessage env packet.pattern
          packet.data thrown.toError serviceName now traceId source) channel).1, .ok ())

/-! ## A stage -/

inductive Member where
  | gateway
  | service (name : ServiceName)
  deriving DecidableEq

/-- What a stage is deployed with. -/
structure Stage where
  env : ProcessEnv
  url : String
  subscribesTo : ServiceName → Option (List String)
  handlers : ServiceName → String → Option HandlerKind

namespace Stage

variable (stage : Stage)

/-- The gateway only publishes; a service consumes from its own queue. -/
def options : Member → MessagingModuleOptions
  | .gateway => ⟨stage.url, none, none⟩
  | .service name => ⟨stage.url, some name.queue, stage.subscribesTo name⟩

/-- The queue of a service at the broker. -/
def queue (name : ServiceName) : String := prefixedQueue stage.env name.queue

def deadLetterQueue (name : ServiceName) : String := prefixedQueue stage.env (name.queue ++ ".dlq")

/-- The name its interceptor gives a service. -/
def dlqServiceName (name : ServiceName) : String :=
  MessagingModule.dlqServiceName stage.env (stage.options (.service name))

/-- What the set-up of a member's channel declares. -/
def setup (member : Member) : List Declaration :=
  EventBusService.setup stage.env (MessagingModule.busOptions stage.env (stage.options member))

end Stage

/-- A process of a member: the channel of its bus, and the copies that its consumer's own
connection is bringing and that its handlers work on. -/
structure Replica where
  member : Member
  channel : Option ChannelWrapper
  consuming : Bool
  inTransit : List Copy
  handling : List Copy
  deriving DecidableEq

namespace Replica

def started (member : Member) : Replica := ⟨member, none, false, [], []⟩

/-- The copies that were delivered to it and have not met their fate. -/
def held (replica : Replica) : List Copy := replica.inTransit ++ replica.handling

/-- The messages its channel still keeps. -/
def kept (replica : Replica) : List Outgoing := (replica.channel.map ChannelWrapper.kept).getD []

/-- The messages it has sent that the broker has not confirmed. -/
def unconfirmed (replica : Replica) : List Outgoing :=
  (replica.channel.map ChannelWrapper.unconfirmed).getD []

def connected (replica : Replica) : Bool := replica.channel.any ChannelWrapper.connected

end Replica

/-- What became of a copy that was delivered. -/
inductive Fate where
  | handled
  | deadLettered
  | unrecorded
  | unhandled
  | rejected
  | lost
  | crashed
  deriving DecidableEq, Repr

/-- The broker and the record of what went over it. -/
structure Traffic where
  broker : Broker Copy
  accepted : List Outgoing
  transmitted : List Outgoing
  confirmed : List Outgoing
  refused : List Outgoing
  discarded : List Outgoing
  arrived : List (String × Copy)
  settled : List (ServiceName × Copy × Fate)

def Traffic.empty : Traffic := ⟨.empty, [], [], [], [], [], [], []⟩

namespace Traffic

/-- The bus takes messages while its channel is open. -/
def takes (channel : Option ChannelWrapper) : Bool :=
  channel.any fun channel => channel.state = .open

def record (messages : List Outgoing) (traffic : Traffic) : Traffic :=
  { traffic with accepted := traffic.accepted ++ messages }

def accept (message : Outgoing) (channel : Option ChannelWrapper) (traffic : Traffic) : Traffic :=
  if takes channel then traffic.record [message] else traffic

/-- The broker routes a copy of the message into each queue it is bound to. -/
def transmit (message : Outgoing) (traffic : Traffic) : Traffic :=
  let copy := ⟨traffic.transmitted.length, message⟩
  { traffic with
    broker := traffic.broker.route message.exchange message.routingKey copy
    transmitted := traffic.transmitted ++ [message]
    arrived := traffic.arrived ++ (traffic.broker.targets message.exchange message.routingKey).map
      fun queue => (queue, copy) }

def discard (messages : List Outgoing) (traffic : Traffic) : Traffic :=
  { traffic with discarded := traffic.discarded ++ messages }

def settle (name : ServiceName) (fate : Fate) (copies : List Copy) (traffic : Traffic) : Traffic :=
  { traffic with settled := traffic.settled ++ copies.map fun copy => (name, copy, fate) }

end Traffic

/-! ## What a process does -/

/-- A process starts its bus, consumes from its queue, publishes events, sends to its peers
and handles what is delivered; the connections of its bus and of its consumer come and go; it
shuts its bus down or crashes. -/
inductive Action where
  | bootstrap
  | listen
  | connectClient (peer : ServiceName)
  | send (peer : ServiceName) (packet : Packet)
  | connect
  | disconnect
  | publish (pattern : String) (payload : Payload) (traceId : String)
  | transmit
  | confirm (index : Nat)
  | refuse (index : Nat)
  | deliver
  | receive
  | loseConsumer
  | finish (index : Nat) (outcome : Except Thrown Unit) (now : Millis) (traceId : String)
  | close
  | forget
  | crash

namespace Stage

variable (stage : Stage)

/-- What `send` and `emit` of the RPC client for a peer put into the peer's queue. -/
def clientMessage (peer : ServiceName) (packet : Packet) : Outgoing where
  exchange := Broker.defaultExchange
  routingKey := stage.queue peer
  packet := packet
  source := .client

/-- The dead letter of a copy whose handling failed. -/
def letter (name : ServiceName) (copy : Copy) (thrown : Thrown) (now : Millis) (traceId : String) :
    Outgoing :=
  EventBusService.deadLetterMessage stage.env copy.message.packet.pattern copy.message.packet.data
    thrown.toError (stage.dlqServiceName name) now traceId (.failure name copy.number)

/-- A delivered message is handled: without a handler for its pattern it is only logged, and
what the interceptor makes of an error depends on the handler's kind. -/
def handle (name : ServiceName) (copy : Copy) (outcome : Except Thrown Unit) (now : Millis)
    (traceId : String) (traffic : Traffic) (replica : Replica) : Traffic × Replica :=
  match stage.handlers name copy.message.packet.pattern with
  | none => (traffic.settle name .unhandled [copy], replica)
  | some kind =>
      let (channel, answer) := EventDeadLetterInterceptor.intercept stage.env
        (stage.dlqServiceName name) kind copy.message.packet now traceId
        (.failure name copy.number) replica.channel outcome
      match outcome, answer with
      | .ok (), _ => (traffic.settle name .handled [copy], { replica with channel := channel })
      | .error _, .error _ =>
          (traffic.settle name .rejected [copy], { replica with channel := channel })
      | .error thrown, .ok () =>
          ((traffic.accept (stage.letter name copy thrown now traceId) replica.channel).settle name
            (if Traffic.takes replica.channel then .deadLettered else .unrecorded) [copy],
            { replica with channel := channel })

/-- One action of a replica, on the broker and itself. -/
def perform : Action → Traffic → Replica → Traffic × Replica
  | .bootstrap, traffic, replica =>
      (traffic, { replica with channel := replica.channel.or (some .created) })
  | .listen, traffic, replica =>
      match replica.member with
      | .gateway => (traffic, replica)
      | .service name => ({ traffic with broker := traffic.broker.assertQueue (stage.queue name) },
          { replica with consuming := true })
  | .connectClient peer, traffic, replica =>
      ({ traffic with broker := traffic.broker.assertQueue (stage.queue peer) }, replica)
  | .send peer packet, traffic, replica =>
      (traffic.transmit (stage.clientMessage peer packet), replica)
  | .connect, traffic, replica =>
      match replica.channel with
      | some channel =>
          match channel.state with
          | .closed => (traffic, replica)
          | .open =>
              let (broker, succeeded) := traffic.broker.declareAll (stage.setup replica.member)
              ({ traffic with broker := broker },
                { replica with channel := some (channel.connect succeeded) })
      | none => (traffic, replica)
  | .disconnect, traffic, replica =>
      (traffic, { replica with channel := replica.channel.map .disconnect })
  | .publish pattern payload traceId, traffic, replica =>
      let message := EventBusService.eventMessage stage.env pattern payload traceId
        (.event traffic.accepted.length)
      (traffic.accept message replica.channel,
        { replica with channel := (EventBusService.handOver message replica.channel).1 })
  | .transmit, traffic, replica =>
      match replica.channel with
      | some ⟨.open, true, message :: waiting, unconfirmed⟩ => (traffic.transmit message,
          { replica with channel := some ⟨.open, true, waiting, unconfirmed ++ [message]⟩ })
      | _ => (traffic, replica)
  | .confirm index, traffic, replica =>
      match replica.channel with
      | some ⟨state, true, waiting, unconfirmed⟩ =>
          match unconfirmed[index]? with
          | some message => ({ traffic with confirmed := traffic.confirmed ++ [message] },
              { replica with
                channel := some ⟨state, true, waiting, unconfirmed.eraseIdx index⟩ })
          | none => (traffic, replica)
      | _ => (traffic, replica)
  | .refuse index, traffic, replica =>
      match replica.channel with
      | some channel =>
          match channel.kept[index]? with
          | some message => ({ traffic with refused := traffic.refused ++ [message] },
              { replica with channel := some (channel.refuse index) })
          | none => (traffic, replica)
      | none => (traffic, replica)
  | .deliver, traffic, replica =>
      match replica.member, replica.consuming with
      | .service name, true =>
          match traffic.broker.take (stage.queue name) with
          | some (copy, broker) => ({ traffic with broker := broker },
              { replica with inTransit := replica.inTransit ++ [copy] })
          | none => (traffic, replica)
      | _, _ => (traffic, replica)
  | .receive, traffic, replica =>
      match replica.inTransit with
      | [] => (traffic, replica)
      | copy :: rest => (traffic,
          { replica with inTransit := rest, handling := replica.handling ++ [copy] })
  | .loseConsumer, traffic, replica =>
      match replica.member with
      | .gateway => (traffic, replica)
      -- with `noAck` the broker does not have the copies any more
      | .service name => (traffic.settle name .lost replica.inTransit,
          { replica with consuming := false, inTransit := [] })
  | .finish index outcome now traceId, traffic, replica =>
      match replica.member, replica.handling[index]? with
      | .service name, some copy => stage.handle name copy outcome now traceId traffic
          { replica with handling := replica.handling.eraseIdx index }
      | _, _ => (traffic, replica)
  | .close, traffic, replica =>
      (traffic.discard replica.kept,
        { replica with channel := replica.channel.map fun _ => ⟨.closed, false, [], []⟩ })
  | .forget, traffic, replica =>
      match replica.channel with
      | some ⟨.closed, _, _, _⟩ =>
          (traffic.discard replica.kept, { replica with channel := none })
      | _ => (traffic, replica)
  | .crash, traffic, replica =>
      match replica.member with
      | .gateway => (traffic.discard replica.kept, .started .gateway)
      | .service name => ((traffic.discard replica.kept).settle name .crashed replica.held,
          .started (.service name))

/-- The processes of a stage around its broker. -/
def fleets : Fleets Member Action Traffic Replica := ⟨.started, stage.perform⟩

end Stage

/-! ## Names of a stage's queues -/

section Names

variable {name other : ServiceName} {env : ProcessEnv} {first second : String}

/-- The snake-case name without its underscores is the kebab-case one. -/
theorem toList_kebab_eq (name : ServiceName) : name.kebab.toList =
    name.snake.toList.map fun char => if char = '_' then '-' else char := by
  rw [ServiceName.snake, String.toList_ofList, List.map_map]
  conv_lhs => rw [← List.map_id name.kebab.toList]
  apply List.map_congr_left
  intro char member
  dsimp only [Function.comp_apply, id]
  split
  · rename_i hyphen
    rw [hyphen, if_pos rfl]
  · rename_i other
    have named := (isNameChar_of_mem_kebab member).resolve_left other
    have plain : char ≠ '_' := by
      intro underscore
      rw [underscore] at named
      cases named
    rw [if_neg plain]

/-- Different services have different names with underscores. -/
theorem snake_inj (same : name.snake = other.snake) : name = other := by
  have kebab : name.kebab = other.kebab := by
    rw [← String.toList_inj, toList_kebab_eq, toList_kebab_eq, same]
  cases name
  cases other
  cases kebab
  rfl

/-- A prefix keeps queues apart. -/
theorem prefixedQueue_inj :
    prefixedQueue env first = prefixedQueue env second ↔ first = second := by
  have split (queue : String) : (prefixedQueue env queue).toList =
      (getQueuePrefix env ++ "_").toList ++ queue.toList := String.toList_append
  rw [← String.toList_inj, split, split, List.append_right_inj, String.toList_inj]

/-- Different services have different queues. -/
theorem queue_inj (stage : Stage) : stage.queue name = stage.queue other ↔ name = other := by
  rw [Stage.queue, Stage.queue, prefixedQueue_inj, ServiceName.queue, ServiceName.queue,
    append_suffix_inj]
  exact ⟨snake_inj, congrArg _⟩

/-- And different dead letter queues. -/
theorem deadLetterQueue_inj (stage : Stage) :
    stage.deadLetterQueue name = stage.deadLetterQueue other ↔ name = other := by
  rw [Stage.deadLetterQueue, Stage.deadLetterQueue, prefixedQueue_inj, append_suffix_inj,
    ← queue_inj stage, Stage.queue, Stage.queue, prefixedQueue_inj]

/-- No service's queue is the dead letter queue of a service. -/
theorem queue_ne_deadLetterQueue (stage : Stage) :
    stage.queue name ≠ stage.deadLetterQueue other := by
  rw [Stage.queue, Stage.deadLetterQueue, ne_eq, prefixedQueue_inj]
  intro same
  have last := congrArg lastChar same
  rw [lastChar_queue, lastChar_deadLetters] at last
  cases last

end Names

end NestMonorepo
