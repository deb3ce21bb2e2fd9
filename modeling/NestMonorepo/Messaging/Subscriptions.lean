import NestMonorepo.Messaging.DeadLetters

/-! # What subscribers get

From the moment a process of a service is connected, the service gets, of all events, exactly
those that are sent under one of its patterns. A failure of an event handler has its letter in
the service's dead-letter queue, or on its way there, or the letter was lost with the bus. In a
calm run, where nothing of that kind happens, no event that has a handler is lost.
-/

namespace NestMonorepo

open Amqp Concurrency

/-- The service subscribes to the message. -/
def Stage.Subscribes (stage : Stage) (name : ServiceName) (message : Outgoing) : Prop :=
  message.exchange = EventBusService.eventsExchangeName stage.env ∧
    ∃ pattern ∈ (stage.subscribesTo name).getD [], Matches pattern message.routingKey

instance (stage : Stage) (name : ServiceName) : DecidablePred (stage.Subscribes name) :=
  fun _ => inferInstanceAs (Decidable (_ ∧ ∃ pattern ∈ _, _))

/-- The service's subscriptions are bound at the broker. -/
def Stage.Bound (stage : Stage) (name : ServiceName) (traffic : Traffic) : Prop :=
  ∀ pattern ∈ (stage.subscribesTo name).getD [],
    ⟨EventBusService.eventsExchangeName stage.env, pattern, stage.queue name⟩ ∈
      traffic.broker.bindings

/-- The events that came into the service's queue, oldest first. -/
def Stage.eventsAt (stage : Stage) (name : ServiceName) (traffic : Traffic) : List Outgoing :=
  ((traffic.arrivedAt (stage.queue name)).map Copy.message).filter fun message =>
    message.exchange = EventBusService.eventsExchangeName stage.env

/-- What was sent in between and which events came into the service's queue. -/
structure Stage.FansOut (stage : Stage) (name : ServiceName) (traffic after : Traffic) : Prop where
  bound : stage.Bound name after
  routed : ∃ sent, after.transmitted = traffic.transmitted ++ sent ∧
    stage.eventsAt name after = stage.eventsAt name traffic ++
      sent.filter fun message => stage.Subscribes name message

section FanOut

variable {stage : Stage} {action : Action} {traffic middle after : Traffic}
  {replica moved : Replica} {name : ServiceName}

/-- A service whose process is connected has its queue bound to every pattern that it
subscribes to. -/
theorem Stage.Belongs.setUp (belongs : stage.Belongs traffic replica)
    (isMember : replica.member = .service name) (connected : replica.connected = true) :
    stage.Bound name traffic := by
  intro pattern member
  apply belongs.bound connected
  rw [isMember, setup_service]
  exact List.mem_append_left _ (List.mem_append_right _ (List.mem_map.mpr ⟨pattern, member, rfl⟩))

/-- The queue of a service whose subscriptions are bound is a target of the events that it
subscribes to. -/
theorem target_iff (regular : stage.Regular traffic) (bound : stage.Bound name traffic)
    {message : Outgoing}
    (isEvent : message.exchange = EventBusService.eventsExchangeName stage.env) :
    stage.queue name ∈ traffic.broker.targets message.exchange message.routingKey ↔
      stage.Subscribes name message := by
  have named : message.exchange ≠ Broker.defaultExchange := by
    rw [isEvent]
    exact prefixedQueue_ne_default _ _
  rw [Broker.mem_targets named]
  constructor
  · intro target
    obtain ⟨pattern, isBound, matching⟩ := target
    generalize isQueue : stage.queue name = queue at isBound
    generalize isExchange : message.exchange = exchange at isBound
    have binds := regular.bindings _ isBound
    cases binds with
    | @subscription other pattern member =>
        have own := (queue_inj stage).mp isQueue
        subst own
        exact ⟨isExchange, pattern, member, matching⟩
    | deadLetters => exact (queue_ne_deadLetterQueue stage isQueue).elim
  · intro subscribes
    obtain ⟨exchange, pattern, member, matching⟩ := subscribes
    rw [exchange]
    exact ⟨pattern, bound pattern member, matching⟩

/-- Traffic that stands still fans out nothing. -/
theorem Stage.FansOut.refl (bound : stage.Bound name traffic) :
    stage.FansOut name traffic traffic :=
  ⟨bound, [], (List.append_nil _).symm, (List.append_nil _).symm⟩

/-- Two spans of a run that fan out do so together: what the queue got is what was
transmitted, one span after the other. -/
theorem Stage.FansOut.trans (first : stage.FansOut name traffic middle)
    (second : stage.FansOut name middle after) : stage.FansOut name traffic after := by
  obtain ⟨-, sent, transmitted, arrived⟩ := first
  obtain ⟨bound, more, transmittedMore, arrivedMore⟩ := second
  refine ⟨bound, sent ++ more, ?_, ?_⟩
  · rw [transmittedMore, transmitted, List.append_assoc]
  · rw [arrivedMore, arrived, List.filter_append, List.append_assoc]

/-- A bound queue stays bound, as nobody unbinds it. -/
theorem Stage.Bound.grow (bound : stage.Bound name traffic) (grows : stage.Grows traffic after) :
    stage.Bound name after := fun pattern member => grows.bindings (bound pattern member)

/-- Of the events, one that is sent comes into the queues of its subscribers, once; what is
sent over another exchange is none. -/
theorem eventsAt_transmit (regular : stage.Regular traffic) (bound : stage.Bound name traffic)
    (message : Outgoing) : stage.eventsAt name (traffic.transmit message) =
      stage.eventsAt name traffic ++
        [message].filter fun message => stage.Subscribes name message := by
  rw [Stage.eventsAt, Traffic.arrivedAt_transmit, List.map_append, List.filter_append]
  refine congrArg _ ?_
  by_cases isEvent : message.exchange = EventBusService.eventsExchangeName stage.env
  · by_cases subscribes : stage.Subscribes name message
    · rw [if_pos ((target_iff regular bound isEvent).mpr subscribes), List.map_singleton,
        List.filter_singleton, List.filter_singleton, decide_eq_true isEvent,
        decide_eq_true subscribes]
    · rw [if_neg fun target => subscribes ((target_iff regular bound isEvent).mp target),
        List.filter_singleton, decide_eq_false subscribes]
      rfl
  · have other : ¬stage.Subscribes name message := fun subscribes => isEvent subscribes.1
    rw [List.filter_singleton, decide_eq_false other]
    split
    · rw [List.map_singleton, List.filter_singleton, decide_eq_false isEvent]
    · rfl

/-- One action. -/
theorem Stage.Effect.fansOut (effect : stage.Effect action traffic replica after moved)
    (regular : stage.Regular traffic) (bound : stage.Bound name traffic) :
    stage.FansOut name traffic after := by
  refine ⟨bound.grow effect.grows, ?_⟩
  rcases effect.transmits with ⟨arrived, transmitted⟩ | ⟨message, rfl, -⟩
  · refine ⟨[], ?_, ?_⟩
    · rw [transmitted, List.append_nil]
    · rw [List.filter_nil, List.append_nil, Stage.eventsAt, Traffic.arrivedAt, arrived,
        Stage.eventsAt, Traffic.arrivedAt]
  · exact ⟨[message], rfl, eventsAt_transmit regular bound message⟩

end FanOut

/-! ## Calm runs -/

/-- Nothing is shut down or crashes, no publication is refused, no copy is lost on its way to a
process, and a process consumes only while its bus takes messages. -/
def Calm : FleetLabel Member Action → Fleet Traffic Replica → Prop
  | .act _ .close, _ => False
  | .act _ .forget, _ => False
  | .act _ .crash, _ => False
  | .act _ (.refuse _), _ => False
  | .act index .loseConsumer, fleet =>
      (fleet.members[index]?).all (fun replica => replica.inTransit.isEmpty) = true
  | .act index .deliver, fleet =>
      (fleet.members[index]?).all (fun replica => Traffic.takes replica.channel) = true
  | _, _ => True

instance : ∀ label fleet, Decidable (Calm label fleet)
  | .join _, _ => inferInstanceAs (Decidable True)
  | .act _ .bootstrap, _ => inferInstanceAs (Decidable True)
  | .act _ .listen, _ => inferInstanceAs (Decidable True)
  | .act _ (.connectClient _), _ => inferInstanceAs (Decidable True)
  | .act _ (.send _ _), _ => inferInstanceAs (Decidable True)
  | .act _ .connect, _ => inferInstanceAs (Decidable True)
  | .act _ .disconnect, _ => inferInstanceAs (Decidable True)
  | .act _ (.publish _ _ _), _ => inferInstanceAs (Decidable True)
  | .act _ .transmit, _ => inferInstanceAs (Decidable True)
  | .act _ (.confirm _), _ => inferInstanceAs (Decidable True)
  | .act _ (.refuse _), _ => inferInstanceAs (Decidable False)
  | .act _ .deliver, _ => inferInstanceAs (Decidable (_ = true))
  | .act _ .receive, _ => inferInstanceAs (Decidable True)
  | .act _ .loseConsumer, _ => inferInstanceAs (Decidable (_ = true))
  | .act _ (.finish _ _ _ _), _ => inferInstanceAs (Decidable True)
  | .act _ .close, _ => inferInstanceAs (Decidable False)
  | .act _ .forget, _ => inferInstanceAs (Decidable False)
  | .act _ .crash, _ => inferInstanceAs (Decidable False)

/-- What a calm action of a process is not. -/
structure Action.Gentle (action : Action) (replica : Replica) : Prop where
  lasts : action ≠ .close ∧ action ≠ .forget ∧ action ≠ .crash
  refuses : ∀ index, action ≠ .refuse index
  loses : action = .loseConsumer → replica.inTransit = []
  attends : action = .deliver → Traffic.takes replica.channel = true

/-- The broker's side of a calm run: nothing is refused or discarded, and what an event handler
is there for is handled or recorded. -/
structure Stage.Settles (stage : Stage) (traffic : Traffic) : Prop where
  refused : traffic.refused = []
  discarded : traffic.discarded = []
  fates : ∀ name copy fate, (name, copy, fate) ∈ traffic.settled →
    stage.handlers name copy.message.packet.pattern = some .event →
      fate = .handled ∨ fate = .deadLettered

/-- A process that holds copies has a bus that takes messages. -/
def Replica.Attended (replica : Replica) : Prop :=
  replica.held ≠ [] → Traffic.takes replica.channel = true

section Calm

variable {stage : Stage} {action : Action} {index : Nat} {traffic after : Traffic}
  {replica moved : Replica} {fleet : Fleet Traffic Replica}

/-- In a calm run an action closes, forgets and refuses nothing, and a copy is delivered
only to a process whose bus takes messages. -/
theorem Calm.gentle (calm : Calm (.act index action) fleet)
    (present : fleet.members[index]? = some replica) : action.Gentle replica where
  lasts := by refine ⟨?_, ?_, ?_⟩ <;> rintro rfl <;> exact calm
  refuses position := by
    rintro rfl
    exact calm
  loses := by
    rintro rfl
    dsimp only [Calm] at calm
    rw [present] at calm
    exact List.isEmpty_iff.mp calm
  attends := by
    rintro rfl
    dsimp only [Calm] at calm
    rw [present] at calm
    exact calm

/-- A bus that takes messages goes on to do so unless it is shut down or crashes: a lost
connection leaves its channel wrapper open. -/
theorem Stage.takes_perform (lasts : action ≠ .close ∧ action ≠ .forget ∧ action ≠ .crash)
    (takes : Traffic.takes replica.channel = true) :
    Traffic.takes (stage.perform action traffic replica).2.channel = true := by
  obtain ⟨member, channel, consuming, inTransit, handling⟩ := replica
  cases channel with
  | none => cases takes
  | some channel =>
      obtain ⟨state, connected, waiting, unconfirmed⟩ := channel
      cases state with
      | closed => cases takes
      | «open» =>
          cases action with
          | bootstrap => rfl
          | listen => cases member <;> rfl
          | connectClient peer => rfl
          | send peer packet => rfl
          | connect =>
              dsimp only [perform]
              cases (traffic.broker.declareAll (stage.setup member)).2 <;> rfl
          | disconnect => rfl
          | publish pattern payload traceId => rfl
          | transmit =>
              cases connected with
              | false => rfl
              | true => cases waiting <;> rfl
          | confirm index =>
              cases connected with
              | false => rfl
              | true =>
                  dsimp only [perform]
                  cases unconfirmed[index]? <;> rfl
          | refuse index =>
              dsimp only [perform]
              split
              · dsimp only [ChannelWrapper.refuse]
                split <;> rfl
              · rfl
          | deliver =>
              dsimp only [perform]
              split
              · split <;> rfl
              · rfl
          | receive => cases inTransit <;> rfl
          | loseConsumer => cases member <;> rfl
          | finish index outcome now traceId =>
              cases member with
              | gateway => rfl
              | service name =>
                  dsimp only [perform]
                  cases handling[index]? with
                  | none => rfl
                  | some copy =>
                      dsimp only [handle]
                      cases stage.handlers name copy.message.packet.pattern with
                      | none => rfl
                      | some kind =>
                          cases outcome with
                          | ok value => rfl
                          | error thrown => cases kind <;> rfl
          | close => exact (lasts.1 rfl).elim
          | forget => exact (lasts.2.1 rfl).elim
          | crash => exact (lasts.2.2 rfl).elim

/-- An event that a bus took has the serial number of its place. -/
def Traffic.Numbered (traffic : Traffic) : Prop :=
  ∀ (index : Nat) (message : Outgoing) (serial : Nat), traffic.accepted[index]? = some message →
    message.source = .event serial → serial = index

/-- An action numbers the event that it publishes by its place, and renumbers none. -/
theorem Stage.Effect.numbered (effect : stage.Effect action traffic replica after moved)
    (numbered : traffic.Numbered) : after.Numbered := by
  have append {message : Outgoing}
      (new : ∀ serial, message.source = .event serial → serial = traffic.accepted.length) :
      (traffic.record [message]).Numbered := by
    intro index other serial present source
    change (traffic.accepted ++ [message])[index]? = some other at present
    rcases Nat.lt_or_ge index traffic.accepted.length with before | beyond
    · rw [List.getElem?_append_left before] at present
      exact numbered index other serial present source
    · rw [List.getElem?_append_right beyond, List.getElem?_singleton] at present
      split at present
      · cases present
        have last := new serial source
        omega
      · cases present
  cases effect with
  | publish pattern payload traceId kept held =>
      apply append
      intro serial source
      exact (Source.event.inj source).symm
  | bury name copy thrown now traceId isMember handler kept held =>
      apply append
      intro serial source
      cases source
  | _ => exact numbered

/-- A gentle action of a process that is attended refuses and discards nothing, and handles
or records what an event handler is there for. -/
theorem Stage.Effect.settles (effect : stage.Effect action traffic replica after moved)
    (gentle : action.Gentle replica) (settles : stage.Settles traffic)
    (attended : replica.Attended) : stage.Settles after := by
  cases effect with
  | refuse message index isRefuse kept held => exact (gentle.refuses index isRefuse).elim
  | settle name copy fate isMember explained kept held =>
      refine ⟨settles.refused, settles.discarded, ?_⟩
      intro other settled otherFate member handler
      rcases List.mem_append.mp member with before | now
      · exact settles.fates other settled otherFate before handler
      · cases List.mem_singleton.mp now
        cases explained with
        | handled registered => exact .inl rfl
        | unhandled none =>
            rw [none] at handler
            cases handler
        | rejected message =>
            rw [message] at handler
            cases handler
        | unrecorded event closed =>
            have filled : replica.held ≠ [] := by
              intro empty
              rw [empty] at held
              exact List.cons_ne_nil _ _ (List.nil_perm.mp held)
            rw [attended filled] at closed
            cases closed
  | bury name copy thrown now traceId isMember handler kept held =>
      refine ⟨settles.refused, settles.discarded, ?_⟩
      intro other settled otherFate member handler
      rcases List.mem_append.mp member with before | this
      · exact settles.fates other settled otherFate before handler
      · cases List.mem_singleton.mp this
        exact .inr rfl
  | lose name isLose isMember kept held =>
      refine ⟨settles.refused, settles.discarded, ?_⟩
      intro other settled otherFate member handler
      rw [gentle.loses isLose] at member
      rcases List.mem_append.mp member with before | none
      · exact settles.fates other settled otherFate before handler
      · cases none
  | discard isEnd kept held => exact (isEnd.elim gentle.lasts.1 gentle.lasts.2.1).elim
  | crashGateway isCrash isMember kept held => exact (gentle.lasts.2.2 isCrash).elim
  | crash name isCrash isMember kept held => exact (gentle.lasts.2.2 isCrash).elim
  | _ => exact ⟨settles.refused, settles.discarded, settles.fates⟩

/-- A process that acts gently stays attended. -/
theorem attended_perform (gentle : action.Gentle replica) (attended : replica.Attended) :
    (stage.perform action traffic replica).2.Attended := by
  intro filled
  apply stage.takes_perform gentle.lasts
  have effect : stage.Effect action traffic replica _ _ := stage.perform_effect action
  by_cases before : replica.held = []
  · obtain ⟨copy, member⟩ := List.exists_mem_of_ne_nil _ filled
    rcases effect.holds copy member with held | ⟨isDeliver, -⟩
    · rw [before] at held
      cases held
    · exact gentle.attends isDeliver
  · exact attended before

end Calm

/-! ## Whole runs -/

/-- The letter is kept by a process of the service or in its dead-letter queue. -/
def Stage.Records (stage : Stage) (name : ServiceName) (letter : Outgoing)
    (fleet : Fleet Traffic Replica) : Prop :=
  (∃ replica ∈ fleet.members, replica.member = .service name ∧ letter ∈ replica.kept) ∨
    ∃ delivered ∈ fleet.shared.broker.contents (stage.deadLetterQueue name),
      delivered.message = letter

/-- The copy is in the service's queue, held by a process of it, was handled, or failed and
has a letter. -/
def Stage.Keeps (stage : Stage) (name : ServiceName) (copy : Copy)
    (fleet : Fleet Traffic Replica) : Prop :=
  copy ∈ fleet.shared.broker.contents (stage.queue name) ∨
    (∃ replica ∈ fleet.members, copy ∈ replica.holding name) ∨
    (name, copy, .handled) ∈ fleet.shared.settled ∨
    (name, copy, .deadLettered) ∈ fleet.shared.settled ∧ ∃ thrown now traceId,
      stage.Records name (stage.letter name copy thrown now traceId) fleet

section Runs

variable {stage : Stage} {allowed : FleetLabel Member Action → Fleet Traffic Replica → Prop}
  {start finish fleet : Fleet Traffic Replica} {name : ServiceName} {replica : Replica}
  {message : Outgoing}

/-- From a fleet with bound subscriptions on, the service gets what it subscribes to. -/
theorem fansOut_of_reaches (toStart : stage.fleets.Reaches allowed idleStage start)
    (bound : stage.Bound name start.shared) (reached : stage.fleets.Reaches allowed start finish) :
    stage.FansOut name start.shared finish.shared := by
  have either := reached.relates
    (fun traffic after => stage.Bound name traffic → stage.FansOut name traffic after)
    (fun traffic => .refl) ?_ ?_
  · exact either bound
  · intro first second third one two bound
    exact (one bound).trans (two (one bound).bound)
  · intro index action replica fleet _ toFleet present bound
    have regular := (regular_of_reaches (toStart.trans toFleet)).1
    exact (stage.perform_effect action).fansOut regular bound

/-- In a calm run no message is refused or discarded, and a copy with an event handler is
handled or recorded. -/
theorem settles_of_reaches (reached : stage.fleets.Reaches Calm idleStage fleet) :
    stage.Settles fleet.shared := by
  refine (reached.invariant stage.Settles (fun _ replica => replica.Attended) ?_ ?_ ?_).1
  · refine ⟨⟨rfl, rfl, ?_⟩, fun replica absent => by cases absent⟩
    intro name copy fate absent
    cases absent
  · exact fun member fleet _ _ filled => (filled rfl).elim
  · intro index action replica fleet calm present settles attended
    have gentle := calm.gentle present
    exact ⟨(stage.perform_effect action).settles gentle settles attended,
      attended_perform gentle attended, fun _ holds => holds⟩

/-- In every state of a run an event that a bus took carries the serial number of its place. -/
theorem numbered_of_reaches (reached : stage.fleets.Reaches allowed idleStage fleet) :
    fleet.shared.Numbered := by
  refine (reached.invariant Traffic.Numbered (fun _ _ => True) ?_ ?_ ?_).1
  · refine ⟨?_, fun _ _ => trivial⟩
    intro index message serial absent
    cases absent
  · exact fun _ _ _ _ => trivial
  · intro index action replica fleet _ _ numbered _
    exact ⟨(stage.perform_effect action).numbered numbered, trivial, fun _ _ => trivial⟩

/-- An event that was taken later was not sent before, since its serial number is that of
its place among the taken ones. -/
theorem not_sent_before (toStart : stage.fleets.Reaches allowed idleStage start)
    (reached : stage.fleets.Reaches allowed start finish)
    (taken : message ∈ finish.shared.accepted.drop start.shared.accepted.length)
    (subscribes : stage.Subscribes name message) : message ∉ start.shared.transmitted := by
  intro sent
  have named : message.exchange ≠ Broker.defaultExchange := by
    rw [subscribes.1]
    exact prefixedQueue_ne_default _ _
  have early := (regular_of_reaches toStart).1.taken_of_named sent named
  rcases (regular_of_reaches toStart).1.accepted message early with event | letter
  · obtain ⟨pattern, payload, traceId, serial, same⟩ := event
    have source : message.source = .event serial := by rw [same]; rfl
    obtain ⟨first, firstBound, firstThere⟩ := List.getElem_of_mem early
    obtain ⟨second, secondBound, secondThere⟩ := List.getElem_of_mem taken
    rw [List.getElem_drop] at secondThere
    have one := numbered_of_reaches toStart first message serial
      (List.getElem?_eq_some_iff.mpr ⟨firstBound, firstThere⟩) source
    have other := numbered_of_reaches (toStart.trans reached) _ message serial
      (List.getElem?_eq_some_iff.mpr ⟨_, secondThere⟩) source
    omega
  · obtain ⟨other, copy, thrown, now, traceId, same, -⟩ := letter
    have exchange := subscribes.1
    rw [same] at exchange
    exact events_ne_dlx stage exchange.symm

/-- An event's key is the pattern that its handler is looked up by. -/
theorem pattern_of_subscribes (reached : stage.fleets.Reaches allowed idleStage fleet)
    (taken : message ∈ fleet.shared.accepted) (subscribes : stage.Subscribes name message) :
    message.packet.pattern = message.routingKey := by
  rcases (regular_of_reaches reached).1.accepted message taken with event | letter
  · obtain ⟨pattern, payload, traceId, serial, same⟩ := event
    rw [same]
    rfl
  · obtain ⟨other, copy, thrown, now, traceId, same, -⟩ := letter
    have exchange := subscribes.1
    rw [same] at exchange
    exact (events_ne_dlx stage exchange.symm).elim

/-- In a calm run no copy of an event that has a handler is lost: it waits, is in hand, was
handled, or is on record as a letter. -/
theorem copy_kept (reached : stage.fleets.Reaches Calm idleStage fleet) {copy : Copy}
    (arrived : copy ∈ fleet.shared.arrivedAt (stage.queue name))
    (handler : stage.handlers name copy.message.packet.pattern = some .event) :
    stage.Keeps name copy fleet := by
  have settles := settles_of_reaches reached
  have somewhere := Multiset.mem_coe.mpr arrived
  rw [copies_accounted reached name, Multiset.mem_add, Multiset.mem_add] at somewhere
  rcases somewhere with (waiting | settled) | held
  · exact .inl (Multiset.mem_coe.mp waiting)
  · obtain ⟨entry, isSettled, same⟩ := List.mem_filterMap.mp (Multiset.mem_coe.mp settled)
    obtain ⟨other, found, fate⟩ := entry
    split at same
    · rename_i own
      dsimp only at own
      cases same
      subst own
      rcases settles.fates _ _ fate isSettled handler with rfl | rfl
      · exact .inr (.inr (.inl isSettled))
      · obtain ⟨-, thrown, now, traceId, taken⟩ :=
          (regular_of_reaches reached).1.buried _ _ isSettled
        refine .inr (.inr (.inr ⟨isSettled, thrown, now, traceId, ?_⟩))
        rcases letter_found reached taken with kept | delivered | refused | discarded
        · exact .inl kept
        · exact .inr delivered
        · rw [settles.refused] at refused
          cases refused
        · rw [settles.discarded] at discarded
          cases discarded
    · cases same
  · obtain ⟨replica, present, holds⟩ := Fleets.mem_sum.mp held
    exact .inr (.inl ⟨replica, present, Multiset.mem_coe.mp holds⟩)

end Runs

/-- A failure of an event handler has its letter taken by an open channel of the bus, or is
only logged. -/
theorem perform_finish_failed {stage : Stage} {name : ServiceName} {traffic : Traffic}
    {replica : Replica} {position : Nat} {copy : Copy} (thrown : Thrown) (now : Millis)
    (traceId : String) (isMember : replica.member = .service name)
    (handling : replica.handling[position]? = some copy)
    (handler : stage.handlers name copy.message.packet.pattern = some .event) :
    (stage.perform (.finish position (.error thrown) now traceId) traffic replica).1 =
      (traffic.accept (stage.letter name copy thrown now traceId) replica.channel).settle name
        (if Traffic.takes replica.channel then .deadLettered else .unrecorded) [copy] := by
  simp only [Stage.perform, isMember, handling, Stage.handle, handler,
    EventDeadLetterInterceptor.intercept]

/-- What happens to a failure of an event handler, in every run before and after it. If the
process has an open channel, the letter is from then on kept by a process of the service or in
its dead-letter queue, unless it is refused or discarded with a channel; otherwise the
dead-letter queue never gets a letter about the copy. -/
theorem failures_recorded (stage : Stage) (labels more : List (FleetLabel Member Action))
    {name : ServiceName} {index position : Nat} {replica : Replica} {copy : Copy}
    (thrown : Thrown) (now : Millis) (traceId : String)
    (present : (stage.fleets.schedule idleStage labels).members[index]? = some replica)
    (isMember : replica.member = .service name)
    (handling : replica.handling[position]? = some copy)
    (handler : stage.handlers name copy.message.packet.pattern = some .event) :
    let failed := stage.fleets.next (.act index (.finish position (.error thrown) now traceId))
      (stage.fleets.schedule idleStage labels)
    let letter := stage.letter name copy thrown now traceId
    (Traffic.takes replica.channel = true →
      stage.Records name letter (stage.fleets.schedule failed more) ∨
        letter ∈ (stage.fleets.schedule failed more).shared.refused ∨
        letter ∈ (stage.fleets.schedule failed more).shared.discarded) ∧
    (Traffic.takes replica.channel = false →
      ∀ found ∈ (stage.fleets.schedule failed more).shared.broker.contents
          (stage.deadLetterQueue name),
        ∀ other at_ trace, found.message ≠ stage.letter name copy other at_ trace) := by
  intro failed letter
  have toFailed : stage.fleets.Reaches (fun _ _ => True) idleStage failed :=
    (Fleets.Reaches.of_schedule labels).step _ trivial
  have later : stage.fleets.Reaches (fun _ _ => True) failed
      (stage.fleets.schedule failed more) := .of_schedule more
  have whole := toFailed.trans later
  have grows := grows_of_reaches later
  have step : failed.shared = ((stage.fleets.schedule idleStage labels).shared.accept letter
      replica.channel).settle name
        (if Traffic.takes replica.channel then .deadLettered else .unrecorded) [copy] := by
    change (stage.fleets.next _ _).shared = _
    rw [Fleets.next_act_of_get present]
    exact perform_finish_failed thrown now traceId isMember handling handler
  constructor
  · intro takes
    have taken : letter ∈ failed.shared.accepted := by
      rw [step, takes, Traffic.accept, takes]
      exact List.mem_append_right _ List.mem_cons_self
    rcases letter_found whole (grows.accepted taken) with kept | delivered | refused | discarded
    · exact .inl (.inl kept)
    · exact .inl (.inr delivered)
    · exact .inr (.inl refused)
    · exact .inr (.inr discarded)
  · intro closed found there other at_ trace same
    have unrecorded : (name, copy, Fate.unrecorded) ∈ failed.shared.settled := by
      rw [step, closed]
      exact List.mem_append_right _ List.mem_cons_self
    have regular := (regular_of_reaches whole).1
    obtain ⟨buried, error, at', trace', isLetter, recorded⟩ :=
      regular.letter_of_arrived (regular.contents _ found there)
    have numbers : Source.failure name buried.number = Source.failure name copy.number :=
      congrArg Outgoing.source (isLetter.symm.trans same)
    injection numbers with _ numbers
    have isCopy := arrival_unique whole (regular.settled _ _ _ recorded)
      (regular.settled _ _ _ (grows.settled unrecorded)) numbers
    rw [isCopy] at recorded
    cases fate_unique whole name recorded (grows.settled unrecorded)

/-- Once a process of a service is connected, the events that come into the service's queue are
exactly those that are sent under one of its patterns, in the order of sending; an event that a
bus sends again comes in again. -/
theorem subscribers_get (stage : Stage) (labels more : List (FleetLabel Member Action))
    (name : ServiceName) {replica : Replica}
    (present : replica ∈ (stage.fleets.schedule idleStage labels).members)
    (isMember : replica.member = .service name) (connected : replica.connected = true) :
    ∃ sent,
      (stage.fleets.schedule (stage.fleets.schedule idleStage labels) more).shared.transmitted =
        (stage.fleets.schedule idleStage labels).shared.transmitted ++ sent ∧
      stage.eventsAt name
          (stage.fleets.schedule (stage.fleets.schedule idleStage labels) more).shared =
        stage.eventsAt name (stage.fleets.schedule idleStage labels).shared ++
          sent.filter fun message => stage.Subscribes name message := by
  have toStart : stage.fleets.Reaches (fun _ _ => True) idleStage
      (stage.fleets.schedule idleStage labels) := .of_schedule labels
  have bound := ((regular_of_reaches toStart).2 replica present).setUp isMember connected
  exact (fansOut_of_reaches toStart bound (.of_schedule more)).routed

/-- In a calm run, no event is lost that a bus takes after a process of a service connected, if
the service subscribes to plain keys that each have an event handler: the event is kept by its
bus, in the service's queue, held by a process, handled, or a failure that has a letter. -/
theorem events_kept {stage : Stage} {name : ServiceName} {start finish : Fleet Traffic Replica}
    {replica : Replica} (toStart : stage.fleets.Reaches Calm idleStage start)
    (present : replica ∈ start.members) (isMember : replica.member = .service name)
    (connected : replica.connected = true)
    (handlers : ∀ pattern ∈ (stage.subscribesTo name).getD [], Literal pattern ∧
      stage.handlers name pattern = some .event)
    (reached : stage.fleets.Reaches Calm start finish) :
    ∀ message ∈ finish.shared.accepted.drop start.shared.accepted.length,
      stage.Subscribes name message →
      (∃ publisher ∈ finish.members, message ∈ publisher.kept) ∨
        ∃ copy, copy.message = message ∧ stage.Keeps name copy finish := by
  intro message taken subscribes
  have whole := toStart.trans reached
  have somewhere := Multiset.mem_coe.mpr (List.mem_of_mem_drop taken)
  rw [messages_accounted whole, Multiset.mem_add, Multiset.mem_add, Multiset.mem_add] at somewhere
  rcases somewhere with ((confirmed | refused) | discarded) | kept
  · refine .inr ?_
    have sent := (regular_of_reaches whole).1.confirmed _ (Multiset.mem_coe.mp confirmed)
    have bound := ((regular_of_reaches toStart).2 replica present).setUp isMember connected
    obtain ⟨between, transmitted, arrived⟩ := (fansOut_of_reaches toStart bound reached).routed
    rw [transmitted] at sent
    have later := (List.mem_append.mp sent).resolve_left
      (not_sent_before toStart reached taken subscribes)
    have came : message ∈ stage.eventsAt name finish.shared := by
      rw [arrived]
      exact List.mem_append_right _ (List.mem_filter.mpr ⟨later, decide_eq_true subscribes⟩)
    obtain ⟨copy, isCopy, same⟩ := List.mem_map.mp (List.mem_filter.mp came).1
    refine ⟨copy, same, copy_kept whole isCopy ?_⟩
    rw [same, pattern_of_subscribes whole (List.mem_of_mem_drop taken) subscribes]
    obtain ⟨-, pattern, member, matching⟩ := subscribes
    obtain ⟨literal, handler⟩ := handlers pattern member
    rw [literal.matches_iff.mp matching]
    exact handler
  · rw [(settles_of_reaches whole).refused] at refused
    cases Multiset.mem_coe.mp refused
  · rw [(settles_of_reaches whole).discarded] at discarded
    cases Multiset.mem_coe.mp discarded
  · obtain ⟨publisher, there, keeps⟩ := Fleets.mem_sum.mp kept
    exact .inl ⟨publisher, there, Multiset.mem_coe.mp keeps⟩

section Deletion

/-- A stage whose user service handles the deletions that it publishes. -/
def deletionStage : Stage where
  env := prefixEnv "prod"
  url := "amqp://mq"
  subscribesTo _ := some ["user.deleted"]
  handlers _ pattern := if pattern = "user.deleted" then some .event else none

/-- A user service that starts and connects. -/
def startUp : List (FleetLabel Member Action) :=
  [.join (.service .user), .act 0 .bootstrap, .act 0 .listen, .act 0 .connect]

/-- The event of a deletion reaches its handler. -/
def handledDeletion : List (FleetLabel Member Action) :=
  [.act 0 (.publish "user.deleted" [] "tr"), .act 0 .transmit, .act 0 .deliver, .act 0 .receive]

/-- The handler fails. -/
def failedDeletion : List (FleetLabel Member Action) :=
  handledDeletion ++
    [.act 0 (.finish 0 (.error (.value "boom" "")) 0 "tr"), .act 0 .transmit]

/-- The process that is connected. -/
def connectedUser : Replica := ⟨.service .user, some ⟨.open, true, [], []⟩, true, [], []⟩

/-- The user service is connected once the stage has started up. -/
theorem connectedUser_joined :
    connectedUser ∈ (deletionStage.fleets.schedule idleStage startUp).members := by decide

/-- The event of the deletion and its first copy. -/
def deletionCopy : Copy :=
  ⟨0, EventBusService.eventMessage deletionStage.env "user.deleted" [] "tr" (.event 0)⟩

/-- The process that handles it, with the event not confirmed yet. -/
def handlingUser : Replica :=
  ⟨.service .user, some ⟨.open, true, [], [deletionCopy.message]⟩, true, [], [deletionCopy]⟩

/-- The premises are met by a deletion whose handling fails at a service with an open
channel: its letter is on record, or the broker has refused or discarded it. -/
theorem failures_recorded_failedDeletion :
    Traffic.takes handlingUser.channel = true ∧
    let fleet := deletionStage.fleets.schedule (deletionStage.fleets.next
      (.act 0 (.finish 0 (.error (.value "boom" "")) 0 "tr"))
      (deletionStage.fleets.schedule idleStage (startUp ++ handledDeletion))) [.act 0 .transmit]
    let letter := deletionStage.letter .user deletionCopy (.value "boom" "") 0 "tr"
    deletionStage.Records .user letter fleet ∨ letter ∈ fleet.shared.refused ∨
      letter ∈ fleet.shared.discarded := by
  have takes : Traffic.takes handlingUser.channel = true := by decide
  have present : (deletionStage.fleets.schedule idleStage
      (startUp ++ handledDeletion)).members[0]? = some handlingUser := by decide
  have handling : handlingUser.handling[0]? = some deletionCopy := rfl
  have handler : deletionStage.handlers .user deletionCopy.message.packet.pattern = some .event :=
    by decide
  exact ⟨takes, (failures_recorded deletionStage (startUp ++ handledDeletion) [.act 0 .transmit]
    (.value "boom" "") 0 "tr" present rfl handling handler).1 takes⟩

/-- The premises are met by that run: of what was sent in it, the user service's queue got
exactly the subscribed events. -/
theorem subscribers_get_failedDeletion :
    ∃ sent, (deletionStage.fleets.schedule (deletionStage.fleets.schedule idleStage startUp)
          failedDeletion).shared.transmitted =
        (deletionStage.fleets.schedule idleStage startUp).shared.transmitted ++ sent ∧
      deletionStage.eventsAt .user (deletionStage.fleets.schedule
          (deletionStage.fleets.schedule idleStage startUp) failedDeletion).shared =
        deletionStage.eventsAt .user (deletionStage.fleets.schedule idleStage startUp).shared ++
          sent.filter fun message => deletionStage.Subscribes .user message :=
  subscribers_get deletionStage startUp failedDeletion .user connectedUser_joined rfl rfl

/-- The premises are met by that run: the event of the failed deletion is kept by its
publisher or by the service. -/
theorem events_kept_failedDeletion :
    (∃ publisher ∈ (deletionStage.fleets.schedule
        (deletionStage.fleets.schedule idleStage startUp) failedDeletion).members,
      deletionCopy.message ∈ publisher.kept) ∨
    ∃ copy, copy.message = deletionCopy.message ∧
      deletionStage.Keeps .user copy (deletionStage.fleets.schedule
        (deletionStage.fleets.schedule idleStage startUp) failedDeletion) := by
  have handlers : ∀ pattern ∈ (deletionStage.subscribesTo .user).getD [], Literal pattern ∧
      deletionStage.handlers .user pattern = some .event := by
    intro pattern member
    rw [List.mem_singleton.mp member]
    decide
  exact events_kept (.of_admits (by decide)) connectedUser_joined rfl rfl handlers
    (.of_admits (by decide)) _ (by decide) (by decide)

end Deletion

end NestMonorepo
