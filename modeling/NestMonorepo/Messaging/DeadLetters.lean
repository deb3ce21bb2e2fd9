import NestMonorepo.Messaging.Accounting

/-! # The dead-letter queues

The dead-letter queue of a service is bound under the service's own queue name, which the
exchange reads as a pattern: the prefix of the stage may have wildcards in it. Still a service's
letters get into its own queue, and nothing else does.
-/

namespace NestMonorepo

open Amqp Concurrency

/-! ## Bindings -/

/-- The bindings that the services of a stage ask for. -/
inductive Stage.Binds (stage : Stage) : Binding → Prop
  | subscription {name : ServiceName} {pattern : String} :
      pattern ∈ (stage.subscribesTo name).getD [] →
      Binds stage ⟨EventBusService.eventsExchangeName stage.env, pattern, stage.queue name⟩
  | deadLetters {name : ServiceName} :
      Binds stage ⟨EventBusService.eventsDlxName stage.env, stage.queue name,
        stage.deadLetterQueue name⟩

section Bindings

variable (stage : Stage) {name other : ServiceName} {queue exchange pattern key : String}

/-- A text with a last character is truthy. -/
theorem truthy_of_lastChar {text : String} (filled : (lastChar text).isSome) :
    truthy (some text) = some text := by
  rw [truthy_eq_some]
  refine ⟨rfl, ?_⟩
  intro empty
  rw [empty] at filled
  cases filled

/-- A prefix leaves the last character of a queue's name. -/
theorem lastChar_prefixedQueue {env : ProcessEnv} (filled : (lastChar queue).isSome) :
    lastChar (prefixedQueue env queue) = lastChar queue := by
  rw [prefixedQueue, lastChar_append, Option.or_of_isSome filled]

/-- The name of a service's queue has a last character. -/
theorem isSome_lastChar_queue (name : ServiceName) : (lastChar name.queue).isSome := by
  rw [lastChar_queue, Option.isSome_some]

/-- A service's bus is given its own queue, the patterns that it subscribes to and its dead
letter queue. -/
theorem busOptions_service (name : ServiceName) :
    MessagingModule.busOptions stage.env (stage.options (.service name)) =
      ⟨stage.url, some (stage.queue name), stage.subscribesTo name,
        some (stage.deadLetterQueue name)⟩ := by
  have own : truthy (stage.options (.service name)).selfQueue = some name.queue :=
    truthy_of_lastChar (isSome_lastChar_queue name)
  rw [MessagingModule.busOptions, own]
  rfl

/-- The name under which a service's letters are published is that of its queue. -/
theorem dlqServiceName_eq (name : ServiceName) : stage.dlqServiceName name = stage.queue name := by
  have own : truthy (stage.options (.service name)).selfQueue = some name.queue :=
    truthy_of_lastChar (isSome_lastChar_queue name)
  rw [Stage.dlqServiceName, MessagingModule.dlqServiceName, own]
  rfl

/-- What a service's bus declares. -/
theorem setup_service (name : ServiceName) : stage.setup (.service name) =
    [.assertExchange (EventBusService.eventsExchangeName stage.env),
      .assertExchange (EventBusService.eventsDlxName stage.env)] ++
      (((stage.subscribesTo name).getD []).map fun pattern => .bindQueue (stage.queue name)
        (EventBusService.eventsExchangeName stage.env) pattern) ++
      [.assertQueue (stage.deadLetterQueue name), .bindQueue (stage.deadLetterQueue name)
        (EventBusService.eventsDlxName stage.env) (stage.queue name)] := by
  have own : truthy (some (stage.queue name)) = some (stage.queue name) := by
    apply truthy_of_lastChar
    rw [Stage.queue, lastChar_prefixedQueue (isSome_lastChar_queue name)]
    exact isSome_lastChar_queue name
  have letters :
      truthy (some (stage.deadLetterQueue name)) = some (stage.deadLetterQueue name) := by
    have filled : (lastChar (name.queue ++ ".dlq")).isSome := by
      rw [lastChar_deadLetters, Option.isSome_some]
    apply truthy_of_lastChar
    rw [Stage.deadLetterQueue, lastChar_prefixedQueue filled]
    exact filled
  rw [Stage.setup, busOptions_service, EventBusService.setup, own, letters]

/-- A bus asks for the bindings of its stage only. -/
theorem binds_of_mem_setup {member : Member}
    (asked : .bindQueue queue exchange pattern ∈ stage.setup member) :
    stage.Binds ⟨exchange, pattern, queue⟩ := by
  cases member with
  | gateway =>
      have none : stage.setup .gateway =
          [.assertExchange (EventBusService.eventsExchangeName stage.env),
            .assertExchange (EventBusService.eventsDlxName stage.env)] := rfl
      rw [none] at asked
      simp only [List.mem_cons, reduceCtorEq, List.not_mem_nil, or_self] at asked
  | service name =>
      rw [setup_service] at asked
      simp only [List.mem_append, List.mem_cons, reduceCtorEq, List.not_mem_nil, or_false, or_self,
        List.mem_map, Declaration.bindQueue.injEq, false_or] at asked
      rcases asked with ⟨subscribed, member, rfl, rfl, rfl⟩ | ⟨rfl, rfl, rfl⟩
      · exact .subscription member
      · exact .deadLetters

/-- No queue is named like the default exchange. -/
theorem prefixedQueue_ne_default (env : ProcessEnv) (queue : String) :
    prefixedQueue env queue ≠ Broker.defaultExchange := by
  intro empty
  have none := congrArg String.toList empty
  rw [prefixedQueue, String.toList_append, String.toList_append] at none
  exact List.cons_ne_nil _ _ (List.append_eq_nil_iff.mp (List.append_eq_nil_iff.mp none).1).2

/-- What a service binds, it binds to an exchange of the stage. -/
theorem Stage.Binds.named {stage : Stage} {binding : Binding} (binds : stage.Binds binding) :
    binding.exchange ≠ Broker.defaultExchange := by
  cases binds with
  | subscription member => exact prefixedQueue_ne_default _ _
  | deadLetters => exact prefixedQueue_ne_default _ _

/-- The exchange of events is not the exchange of dead letters. -/
theorem events_ne_dlx :
    EventBusService.eventsExchangeName stage.env ≠ EventBusService.eventsDlxName stage.env := by
  rw [EventBusService.eventsExchangeName, EventBusService.eventsDlxName, ne_eq, prefixedQueue_inj]
  decide

/-- A letter's key matches the binding of its own service only. Whatever the prefix spells,
wildcards and dots included, the last word ends in the name of the queue. -/
theorem matches_queue_iff : Matches (stage.queue name) (stage.queue other) ↔ name = other := by
  have plain (name : ServiceName) : '.' ∉ ("_" ++ name.queue).toList := by
    rw [not_mem_append]
    exact ⟨by decide, (isWord_queue name).not_mem rfl⟩
  have long (name : ServiceName) : 1 < ("_" ++ name.queue).toList.length := by
    rw [ServiceName.queue, String.toList_append, String.toList_append, List.length_append,
      List.length_append]
    have suffix : "_service_queue".toList.length = 14 := by decide
    omega
  have present : "_" ++ other.queue ≠ "" := by
    intro empty
    have none := long other
    rw [empty] at none
    exact absurd none (by decide)
  have spelled (name : ServiceName) :
      stage.queue name = getQueuePrefix stage.env ++ ("_" ++ name.queue) := by
    rw [Stage.queue, prefixedQueue, String.append_assoc]
  rw [spelled name, spelled other,
    matches_append_iff (plain name) (plain other) (long name) present]
  constructor
  · intro same
    rw [← queue_inj stage, spelled name, spelled other, same]
  · intro same
    rw [same]

end Bindings

/-! ## What the broker has -/

/-- What holds of the broker's side in every run of a stage. -/
structure Stage.Regular (stage : Stage) (traffic : Traffic) : Prop where
  bindings : ∀ binding ∈ traffic.broker.bindings, stage.Binds binding
  arrived : ∀ arrival ∈ traffic.arrived, arrival.2.message ∈ traffic.transmitted ∧
    (arrival.2.message.exchange = Broker.defaultExchange ∧
        arrival.1 = arrival.2.message.routingKey ∨
      ∃ pattern, stage.Binds ⟨arrival.2.message.exchange, pattern, arrival.1⟩ ∧
        Matches pattern arrival.2.message.routingKey)
  contents : ∀ queue, ∀ copy ∈ traffic.broker.contents queue, (queue, copy) ∈ traffic.arrived
  transmitted : ∀ message ∈ traffic.transmitted, message ∈ traffic.accepted ∨
    ∃ peer packet, message = stage.clientMessage peer packet
  confirmed : ∀ message ∈ traffic.confirmed, message ∈ traffic.transmitted
  accepted : ∀ message ∈ traffic.accepted,
    (∃ pattern payload traceId serial, message =
      EventBusService.eventMessage stage.env pattern payload traceId (.event serial)) ∨
    ∃ name copy thrown now traceId, message = stage.letter name copy thrown now traceId ∧
      (name, copy, .deadLettered) ∈ traffic.settled
  settled : ∀ name copy fate, (name, copy, fate) ∈ traffic.settled →
    (stage.queue name, copy) ∈ traffic.arrived
  buried : ∀ name copy, (name, copy, .deadLettered) ∈ traffic.settled →
    stage.handlers name copy.message.packet.pattern = some .event ∧
      ∃ thrown now traceId, stage.letter name copy thrown now traceId ∈ traffic.accepted
  delivered : ∀ name copy thrown now traceId,
    stage.letter name copy thrown now traceId ∈ traffic.transmitted →
      ∃ delivered ∈ traffic.broker.contents (stage.deadLetterQueue name),
        delivered.message = stage.letter name copy thrown now traceId

/-- What holds of a process beside it. -/
structure Stage.Belongs (stage : Stage) (traffic : Traffic) (replica : Replica) : Prop where
  kept : ∀ message ∈ replica.kept, message ∈ traffic.accepted
  unconfirmed : ∀ message ∈ replica.unconfirmed, message ∈ traffic.transmitted
  held : ∀ name, replica.member = .service name → ∀ copy ∈ replica.held,
    (stage.queue name, copy) ∈ traffic.arrived
  letters : ∀ name copy thrown now traceId,
    stage.letter name copy thrown now traceId ∈ replica.kept → replica.member = .service name
  bound : replica.connected = true → ∀ queue exchange pattern,
    .bindQueue queue exchange pattern ∈ stage.setup replica.member →
      ⟨exchange, pattern, queue⟩ ∈ traffic.broker.bindings

/-- What the broker's side never loses. -/
structure Stage.Grows (stage : Stage) (traffic after : Traffic) : Prop where
  bindings : traffic.broker.bindings ⊆ after.broker.bindings
  arrived : traffic.arrived ⊆ after.arrived
  accepted : traffic.accepted ⊆ after.accepted
  transmitted : traffic.transmitted ⊆ after.transmitted
  settled : traffic.settled ⊆ after.settled
  letters : ∀ name, traffic.broker.contents (stage.deadLetterQueue name) ⊆
    after.broker.contents (stage.deadLetterQueue name)

section Steps

variable {stage : Stage} {action : Action} {traffic after : Traffic} {replica moved : Replica}

/-- Traffic that stands still has grown by nothing. -/
theorem Stage.Grows.refl (stage : Stage) (traffic : Traffic) : stage.Grows traffic traffic where
  bindings := List.Subset.refl _
  arrived := List.Subset.refl _
  accepted := List.Subset.refl _
  transmitted := List.Subset.refl _
  settled := List.Subset.refl _
  letters _ := List.Subset.refl _

/-- Growth followed by growth is growth. -/
theorem Stage.Grows.trans {middle : Traffic} (first : stage.Grows traffic middle)
    (second : stage.Grows middle after) : stage.Grows traffic after where
  bindings := List.Subset.trans first.bindings second.bindings
  arrived := List.Subset.trans first.arrived second.arrived
  accepted := List.Subset.trans first.accepted second.accepted
  transmitted := List.Subset.trans first.transmitted second.transmitted
  settled := List.Subset.trans first.settled second.settled
  letters name := List.Subset.trans (first.letters name) (second.letters name)

/-- A message that is sent adds to what there is. -/
theorem Stage.Grows.transmit (stage : Stage) (message : Outgoing) (traffic : Traffic) :
    stage.Grows traffic (traffic.transmit message) where
  bindings := List.Subset.refl _
  arrived := List.subset_append_left _ _
  accepted := List.Subset.refl _
  transmitted := List.subset_append_left _ _
  settled := List.Subset.refl _
  letters name := by
    rw [Traffic.contents_transmit]
    exact List.subset_append_left _ _

/-- Nobody takes anything out of a dead-letter queue, unbinds a queue or takes back what was
recorded. -/
theorem Stage.Effect.grows (effect : stage.Effect action traffic replica after moved) :
    stage.Grows traffic after := by
  have same := Stage.Grows.refl stage traffic
  cases effect with
  | idle steady => exact same
  | declare declarations asked steady =>
      obtain ⟨contents, grows, -, -⟩ := Broker.declareAll_spec declarations traffic.broker
      exact { same with
        bindings := grows
        letters := fun name => by rw [contents]; exact List.Subset.refl _ }
  | publish pattern payload traceId kept held =>
      exact { same with accepted := List.subset_append_left _ _ }
  | send peer packet steady => exact .transmit stage _ _
  | transmit message connected present steady => exact .transmit stage _ _
  | confirm message sent kept held => exact { same with }
  | refuse message index isRefuse kept held => exact { same with }
  | deliver name copy broker isDeliver isMember took kept held =>
      obtain ⟨-, bindings, others⟩ := Broker.take_eq_some took
      exact { same with
        bindings := by rw [bindings]; exact List.Subset.refl _
        letters := fun other => by
          rw [others _ (queue_ne_deadLetterQueue stage).symm]
          exact List.Subset.refl _ }
  | settle name copy fate isMember explained kept held =>
      exact { same with settled := List.subset_append_left _ _ }
  | bury name copy thrown now traceId isMember handler kept held =>
      exact { same with
        accepted := List.subset_append_left _ _
        settled := List.subset_append_left _ _ }
  | lose name isLose isMember kept held =>
      exact { same with settled := List.subset_append_left _ _ }
  | discard isEnd kept held => exact { same with }
  | crashGateway isCrash isMember kept held => exact { same with }
  | crash name isCrash isMember kept held =>
      exact { same with settled := List.subset_append_left _ _ }

/-- What holds of a process does not depend on what the others do. -/
theorem Stage.Belongs.grow (belongs : stage.Belongs traffic replica)
    (grows : stage.Grows traffic after) : stage.Belongs after replica where
  kept message member := grows.accepted (belongs.kept message member)
  unconfirmed message member := grows.transmitted (belongs.unconfirmed message member)
  held name isMember copy member := grows.arrived (belongs.held name isMember copy member)
  letters := belongs.letters
  bound connected queue exchange pattern asked :=
    grows.bindings (belongs.bound connected queue exchange pattern asked)

/-- A dead letter is never one of the messages that clients send to a queue. -/
theorem letter_ne_clientMessage {name peer : ServiceName} {copy : Copy} {thrown : Thrown}
    {now : Millis} {traceId : String} {packet : Packet} :
    stage.letter name copy thrown now traceId ≠ stage.clientMessage peer packet := by
  intro same
  cases congrArg Outgoing.source same

/-- A dead letter is never an event. -/
theorem letter_ne_event {name : ServiceName} {copy : Copy} {thrown : Thrown} {now : Millis}
    {traceId pattern eventTrace : String} {payload : Payload} {serial : Nat} :
    stage.letter name copy thrown now traceId ≠
      EventBusService.eventMessage stage.env pattern payload eventTrace (.event serial) := by
  intro same
  cases congrArg Outgoing.source same

/-- A letter tells the service that it is from. -/
theorem letter_service {name other : ServiceName} {copy otherCopy : Copy}
    {thrown otherThrown : Thrown} {now otherNow : Millis} {traceId otherTrace : String}
    (same : stage.letter name copy thrown now traceId =
      stage.letter other otherCopy otherThrown otherNow otherTrace) : name = other := by
  have sources : Source.failure name copy.number = Source.failure other otherCopy.number :=
    congrArg Outgoing.source same
  injection sources

/-- A process comes to keep what its bus takes: events, and letters of its own service. -/
theorem Stage.Effect.keeps (effect : stage.Effect action traffic replica after moved) :
    ∀ message ∈ moved.kept, message ∈ replica.kept ∨ message ∈ after.accepted ∧
      ∀ name copy thrown now traceId, message = stage.letter name copy thrown now traceId →
        replica.member = .service name := by
  cases effect with
  | publish pattern payload traceId kept held =>
      intro message member
      rw [kept] at member
      rcases List.mem_append.mp member with before | now
      · exact .inl before
      · refine .inr ⟨List.mem_append_right _ now, ?_⟩
        intro name copy thrown now' traceId' same
        rw [List.mem_singleton.mp now] at same
        exact (letter_ne_event same.symm).elim
  | bury name copy thrown now traceId isMember handler kept held =>
      intro message member
      rw [kept] at member
      rcases List.mem_append.mp member with before | now
      · exact .inl before
      · refine .inr ⟨List.mem_append_right _ now, ?_⟩
        intro other copy thrown now' traceId' same
        rw [List.mem_singleton.mp now] at same
        rw [isMember, letter_service same]
  | confirm message sent kept held =>
      exact fun message member => .inl (kept.symm.subset (List.mem_cons_of_mem _ member))
  | refuse message index isRefuse kept held =>
      exact fun message member => .inl (kept.symm.subset (List.mem_cons_of_mem _ member))
  | idle steady => exact fun message member => .inl (steady.kept.subset member)
  | declare declarations asked steady =>
      exact fun message member => .inl (steady.kept.subset member)
  | send peer packet steady => exact fun message member => .inl (steady.kept.subset member)
  | transmit message connected present steady =>
      exact fun message member => .inl (steady.kept.subset member)
  | deliver name copy broker isDeliver isMember took kept held =>
      exact fun message member => .inl (kept ▸ member)
  | settle name copy fate isMember explained kept held =>
      exact fun message member => .inl (kept ▸ member)
  | lose name isLose isMember kept held => exact fun message member => .inl (kept ▸ member)
  | discard isEnd kept held =>
      intro message member
      rw [kept] at member
      cases member
  | crashGateway isCrash isMember kept held =>
      intro message member
      rw [kept] at member
      cases member
  | crash name isCrash isMember kept held =>
      intro message member
      rw [kept] at member
      cases member

/-- A process comes to hold what waits in its service's queue, and only when it is delivered. -/
theorem Stage.Effect.holds (effect : stage.Effect action traffic replica after moved) :
    ∀ copy ∈ moved.held, copy ∈ replica.held ∨ action = .deliver ∧ ∃ name,
      replica.member = .service name ∧ copy ∈ traffic.broker.contents (stage.queue name) := by
  cases effect with
  | deliver name copy broker isDeliver isMember took kept held =>
      intro other member
      rcases List.mem_cons.mp (held.subset member) with now | before
      · rw [now]
        refine .inr ⟨isDeliver, name, isMember, ?_⟩
        rw [(Broker.take_eq_some took).1]
        exact List.mem_cons_self
      · exact .inl before
  | settle name copy fate isMember explained kept held =>
      exact fun other member => .inl (held.symm.subset (List.mem_cons_of_mem _ member))
  | bury name copy thrown now traceId isMember handler kept held =>
      exact fun other member => .inl (held.symm.subset (List.mem_cons_of_mem _ member))
  | lose name isLose isMember kept held =>
      exact fun copy member => .inl (held.symm.subset (List.mem_append_right _ member))
  | idle steady => exact fun copy member => .inl (steady.held.subset member)
  | declare declarations asked steady => exact fun copy member => .inl (steady.held.subset member)
  | send peer packet steady => exact fun copy member => .inl (steady.held.subset member)
  | transmit message connected present steady =>
      exact fun copy member => .inl (steady.held.subset member)
  | publish pattern payload traceId kept held => exact fun copy member => .inl (held ▸ member)
  | confirm message sent kept held => exact fun copy member => .inl (held ▸ member)
  | refuse message index isRefuse kept held => exact fun copy member => .inl (held ▸ member)
  | discard isEnd kept held => exact fun copy member => .inl (held ▸ member)
  | crashGateway isCrash isMember kept held =>
      intro copy member
      rw [held] at member
      cases member
  | crash name isCrash isMember kept held =>
      intro copy member
      rw [held] at member
      cases member

/-- A process that acts still belongs to the broker's side: what it keeps was taken, and
what it holds has arrived. -/
theorem Stage.Effect.belongs (effect : stage.Effect action traffic replica after moved)
    (regular : stage.Regular traffic) (belongs : stage.Belongs traffic replica)
    (member : moved.member = replica.member)
    (unconfirmed : ∀ message ∈ moved.unconfirmed,
      message ∈ replica.unconfirmed ∨ message ∈ after.transmitted)
    (bound : moved.connected = true → ∀ queue exchange pattern,
      .bindQueue queue exchange pattern ∈ stage.setup replica.member →
        ⟨exchange, pattern, queue⟩ ∈ after.broker.bindings) :
    stage.Belongs after moved := by
  have grown := belongs.grow effect.grows
  constructor
  · intro message present
    rcases effect.keeps message present with before | ⟨now, -⟩
    · exact grown.kept message before
    · exact now
  · exact fun message present => (unconfirmed message present).elim (grown.unconfirmed message) id
  · intro name isMember copy present
    rw [member] at isMember
    rcases effect.holds copy present with before | ⟨-, other, own, waiting⟩
    · exact grown.held name isMember copy before
    · rw [isMember] at own
      injection own with own
      subst own
      exact effect.grows.arrived (regular.contents _ copy waiting)
  · intro name copy thrown now traceId present
    rw [member]
    rcases effect.keeps _ present with before | ⟨-, own⟩
    · exact belongs.letters name copy thrown now traceId before
    · exact own name copy thrown now traceId rfl
  · rw [member]
    exact bound

/-- A letter that is sent gets into its service's dead-letter queue, since a connected
process has that queue bound. -/
theorem letter_delivered (belongs : stage.Belongs traffic replica)
    (connected : replica.connected = true) {name : ServiceName} {copy : Copy} {thrown : Thrown}
    {now : Millis} {traceId : String}
    (kept : stage.letter name copy thrown now traceId ∈ replica.kept) :
    ∃ delivered ∈ (traffic.transmit (stage.letter name copy thrown now traceId)).broker.contents
      (stage.deadLetterQueue name),
        delivered.message = stage.letter name copy thrown now traceId := by
  have isMember := belongs.letters name copy thrown now traceId kept
  have asked : .bindQueue (stage.deadLetterQueue name) (EventBusService.eventsDlxName stage.env)
      (stage.queue name) ∈ stage.setup replica.member := by
    rw [isMember, setup_service]
    exact List.mem_append_right _ (List.mem_cons_of_mem _ List.mem_cons_self)
  have matching :
      Matches (stage.queue name) (stage.letter name copy thrown now traceId).routingKey := by
    change Matches (stage.queue name) (stage.dlqServiceName name)
    rw [dlqServiceName_eq]
    exact matches_self _
  have target : stage.deadLetterQueue name ∈ traffic.broker.targets
      (stage.letter name copy thrown now traceId).exchange
      (stage.letter name copy thrown now traceId).routingKey :=
    (Broker.mem_targets (prefixedQueue_ne_default _ _)).mpr
      ⟨_, belongs.bound connected _ _ _ asked, matching⟩
  rw [Traffic.contents_transmit, if_pos target]
  exact ⟨_, List.mem_append_right _ List.mem_cons_self, rfl⟩

/-- A message that is sent comes into queues that it is meant for, and the broker's side
stays regular. -/
theorem Stage.Regular.transmit (regular : stage.Regular traffic) (message : Outgoing)
    (known : message ∈ traffic.accepted ∨
      ∃ peer packet, message = stage.clientMessage peer packet)
    (delivered : ∀ name copy thrown now traceId,
      message = stage.letter name copy thrown now traceId →
        ∃ delivered ∈ (traffic.transmit message).broker.contents (stage.deadLetterQueue name),
          delivered.message = message) :
    stage.Regular (traffic.transmit message) := by
  have grows := Stage.Grows.transmit stage message traffic
  refine { regular with
    arrived := ?_, contents := ?_, transmitted := ?_, confirmed := ?_, settled := ?_,
    delivered := ?_ }
  · intro arrival member
    rcases List.mem_append.mp member with before | now
    · obtain ⟨sent, meant⟩ := regular.arrived arrival before
      exact ⟨grows.transmitted sent, meant⟩
    · obtain ⟨queue, target, rfl⟩ := List.mem_map.mp now
      refine ⟨List.mem_append_right _ List.mem_cons_self, ?_⟩
      by_cases named : message.exchange = Broker.defaultExchange
      · rw [named] at target
        exact .inl ⟨named, Broker.eq_of_mem_targets_default target⟩
      · obtain ⟨pattern, bound, matching⟩ := (Broker.mem_targets named).mp target
        exact .inr ⟨pattern, regular.bindings _ bound, matching⟩
  · intro queue copy waiting
    rw [Traffic.contents_transmit] at waiting
    rcases List.mem_append.mp waiting with before | now
    · exact grows.arrived (regular.contents queue copy before)
    · split at now
      · rename_i target
        rw [List.mem_singleton.mp now]
        exact List.mem_append_right _ (List.mem_map.mpr ⟨queue, target, rfl⟩)
      · cases now
  · intro other sent
    rcases List.mem_append.mp sent with before | now
    · exact regular.transmitted other before
    · rw [List.mem_singleton.mp now]
      exact known
  · exact fun other confirmed => grows.transmitted (regular.confirmed other confirmed)
  · exact fun name copy fate settled => grows.arrived (regular.settled name copy fate settled)
  · intro name copy thrown now traceId sent
    rcases List.mem_append.mp sent with before | same
    · obtain ⟨copy, there, letter⟩ := regular.delivered name copy thrown now traceId before
      exact ⟨copy, grows.letters name there, letter⟩
    · have same := (List.mem_singleton.mp same).symm
      rw [← same]
      exact delivered name copy thrown now traceId same

/-- Copies that a process held and that are lost with it were delivered to its service. -/
theorem Stage.Regular.settle (regular : stage.Regular traffic) {name : ServiceName} {fate : Fate}
    {copies : List Copy} (unburied : fate ≠ .deadLettered)
    (arrived : ∀ copy ∈ copies, (stage.queue name, copy) ∈ traffic.arrived) :
    stage.Regular (traffic.settle name fate copies) := by
  refine { regular with accepted := ?_, settled := ?_, buried := ?_ }
  · intro message member
    apply (regular.accepted message member).imp_right
    intro letter
    obtain ⟨other, failed, thrown, now, traceId, same, buried⟩ := letter
    exact ⟨other, failed, thrown, now, traceId, same, List.mem_append_left _ buried⟩
  · intro other settled otherFate member
    rcases List.mem_append.mp member with before | now
    · exact regular.settled other settled otherFate before
    · obtain ⟨copy, lost, same⟩ := List.mem_map.mp now
      cases same
      exact arrived _ lost
  · intro other buried member
    rcases List.mem_append.mp member with before | now
    · exact regular.buried other buried before
    · obtain ⟨copy, -, same⟩ := List.mem_map.mp now
      cases same
      exact (unburied rfl).elim

/-- Every action keeps the broker's side regular. The cases are the effects that an action
may have. -/
theorem Stage.Effect.regular (effect : stage.Effect action traffic replica after moved)
    (regular : stage.Regular traffic) (belongs : stage.Belongs traffic replica) :
    stage.Regular after := by
  have grows := effect.grows
  cases effect with
  | idle steady => exact regular
  | declare declarations asked steady =>
      obtain ⟨contents, -, origin, -⟩ := Broker.declareAll_spec declarations traffic.broker
      refine { regular with bindings := ?_, contents := ?_, delivered := ?_ }
      · intro binding member
        rcases origin binding member with before | requested
        · exact regular.bindings binding before
        · rcases asked with setup | ⟨name, queue⟩
          · rw [setup] at requested
            exact binds_of_mem_setup stage requested
          · rw [queue, List.mem_singleton] at requested
            cases requested
      · rw [contents]
        exact regular.contents
      · rw [contents]
        exact regular.delivered
  | publish pattern payload traceId kept held =>
      refine { regular with transmitted := ?_, accepted := ?_, buried := ?_ }
      · exact fun message sent => (regular.transmitted message sent).imp_left (grows.accepted ·)
      · intro message member
        rcases List.mem_append.mp member with before | now
        · exact regular.accepted message before
        · exact .inl ⟨pattern, payload, traceId, _, List.mem_singleton.mp now⟩
      · intro name copy buried
        obtain ⟨handler, thrown, now, trace, taken⟩ := regular.buried name copy buried
        exact ⟨handler, thrown, now, trace, grows.accepted taken⟩
  | send peer packet steady =>
      apply regular.transmit _ (.inr ⟨peer, packet, rfl⟩)
      exact fun name copy thrown now traceId same => (letter_ne_clientMessage same.symm).elim
  | transmit message connected present steady =>
      apply regular.transmit message (.inl (belongs.kept message present))
      rintro name copy thrown now traceId rfl
      exact letter_delivered belongs connected present
  | confirm message sent kept held =>
      refine { regular with confirmed := ?_ }
      intro other member
      rcases List.mem_append.mp member with before | now
      · exact regular.confirmed other before
      · rw [List.mem_singleton.mp now]
        exact belongs.unconfirmed message sent
  | refuse message index isRefuse kept held => exact { regular with }
  | deliver name copy broker isDeliver isMember took kept held =>
      obtain ⟨contents, bindings, others⟩ := Broker.take_eq_some took
      refine { regular with bindings := ?_, contents := ?_, delivered := ?_ }
      · rw [bindings]
        exact regular.bindings
      · intro queue other waiting
        by_cases own : queue = stage.queue name
        · rw [own] at waiting ⊢
          apply regular.contents
          rw [contents]
          exact List.mem_cons_of_mem _ waiting
        · rw [others queue own] at waiting
          exact regular.contents queue other waiting
      · intro other failed thrown now traceId sent
        rw [others _ (queue_ne_deadLetterQueue stage).symm]
        exact regular.delivered other failed thrown now traceId sent
  | settle name copy fate isMember explained kept held =>
      apply regular.settle
      · rintro rfl
        cases explained
      · intro other same
        rw [List.mem_singleton.mp same]
        exact belongs.held name isMember copy (held.symm.subset List.mem_cons_self)
  | bury name copy thrown now traceId isMember handler kept held =>
      refine { regular with
        transmitted := ?_, accepted := ?_, settled := ?_, buried := ?_ }
      · exact fun message sent => (regular.transmitted message sent).imp_left (grows.accepted ·)
      · intro message member
        rcases List.mem_append.mp member with before | letter
        · apply (regular.accepted message before).imp_right
          intro letter
          obtain ⟨other, failed, error, at', trace, same, buried⟩ := letter
          exact ⟨other, failed, error, at', trace, same, grows.settled buried⟩
        · exact .inr ⟨name, copy, thrown, now, traceId, List.mem_singleton.mp letter,
            List.mem_append_right _ List.mem_cons_self⟩
      · intro other settled otherFate member
        rcases List.mem_append.mp member with before | this
        · exact regular.settled other settled otherFate before
        · cases List.mem_singleton.mp this
          exact belongs.held name isMember copy (held.symm.subset List.mem_cons_self)
      · intro other buried member
        rcases List.mem_append.mp member with before | this
        · obtain ⟨kind, error, at', trace, taken⟩ := regular.buried other buried before
          exact ⟨kind, error, at', trace, grows.accepted taken⟩
        · cases List.mem_singleton.mp this
          exact ⟨handler, thrown, now, traceId, List.mem_append_right _ List.mem_cons_self⟩
  | lose name isLose isMember kept held =>
      apply regular.settle
      · exact nofun
      · exact fun copy lost =>
          belongs.held name isMember copy (held.symm.subset (List.mem_append_left _ lost))
  | discard isEnd kept held => exact { regular with }
  | crashGateway isCrash isMember kept held => exact { regular with }
  | crash name isCrash isMember kept held =>
      have discarded : stage.Regular (traffic.discard replica.kept) := { regular with }
      apply discarded.settle
      · exact nofun
      · exact fun copy lost => belongs.held name isMember copy lost

end Steps

/-! ## Whole runs -/

section Runs

variable {stage : Stage} {allowed : FleetLabel Member Action → Fleet Traffic Replica → Prop}
  {fleet : Fleet Traffic Replica} {traffic : Traffic} {name : ServiceName} {copy : Copy}

/-- Nothing of this is lost in a run. -/
theorem grows_of_reaches {start finish : Fleet Traffic Replica}
    (reached : stage.fleets.Reaches allowed start finish) :
    stage.Grows start.shared finish.shared := by
  apply reached.relates stage.Grows (.refl stage) .trans
  intro index action replica fleet _ _ _
  exact (stage.perform_effect action).grows

/-- In every run the broker's side is regular and the processes belong to it. -/
theorem regular_of_reaches (reached : stage.fleets.Reaches allowed idleStage fleet) :
    stage.Regular fleet.shared ∧ ∀ replica ∈ fleet.members,
      stage.Belongs fleet.shared replica := by
  refine reached.invariant stage.Regular stage.Belongs ?_ ?_ ?_
  · refine ⟨?_, fun replica absent => by cases absent⟩
    constructor <;> intros <;> contradiction
  · intro member fleet _ _
    constructor <;> intros <;> contradiction
  · intro index action replica fleet _ _ regular belongs
    have effect : stage.Effect action fleet.shared replica _ _ := stage.perform_effect action
    obtain ⟨unconfirmed, connected⟩ : _ ∧ (_ → replica.connected = true ∨ _) :=
      stage.perform_channel action
    refine ⟨effect.regular regular belongs, ?_, fun other holds => holds.grow effect.grows⟩
    apply effect.belongs regular belongs (stage.perform_member action) unconfirmed
    intro isConnected queue exchange pattern asked
    rcases connected isConnected with before | ⟨succeeded, same⟩
    · exact effect.grows.bindings (belongs.bound before queue exchange pattern asked)
    · rw [same]
      exact (Broker.declareAll_spec _ _).2.2.2 succeeded queue exchange pattern asked

/-- What was sent over the default exchange is a message of an RPC client. -/
theorem Stage.Regular.client_of_default (regular : stage.Regular traffic) {message : Outgoing}
    (sent : message ∈ traffic.transmitted) (unnamed : message.exchange = Broker.defaultExchange) :
    ∃ peer packet, message = stage.clientMessage peer packet := by
  rcases regular.transmitted _ sent with taken | client
  · rcases regular.accepted _ taken with event | letter
    · obtain ⟨pattern, payload, traceId, serial, rfl⟩ := event
      exact (prefixedQueue_ne_default _ _ unnamed).elim
    · obtain ⟨other, failed, thrown, now, traceId, rfl, -⟩ := letter
      exact (prefixedQueue_ne_default _ _ unnamed).elim
  · exact client

/-- What was sent over an exchange of the stage, a bus took. -/
theorem Stage.Regular.taken_of_named (regular : stage.Regular traffic) {message : Outgoing}
    (sent : message ∈ traffic.transmitted) (named : message.exchange ≠ Broker.defaultExchange) :
    message ∈ traffic.accepted := by
  rcases regular.transmitted _ sent with taken | client
  · exact taken
  · obtain ⟨peer, packet, rfl⟩ := client
    exact (named rfl).elim

/-- What came into a service's queue are events that it subscribes to and what the clients of
its peers sent to it. -/
theorem Stage.Regular.subscribed (regular : stage.Regular traffic)
    (arrived : (stage.queue name, copy) ∈ traffic.arrived) :
    (∃ packet, copy.message = stage.clientMessage name packet) ∨
    (∃ pattern payload traceId serial, copy.message =
      EventBusService.eventMessage stage.env pattern payload traceId (.event serial)) ∧
    ∃ pattern ∈ (stage.subscribesTo name).getD [], Matches pattern copy.message.routingKey := by
  obtain ⟨sent, ⟨unnamed, isKey⟩ | ⟨pattern, bound, matching⟩⟩ := regular.arrived _ arrived
  · obtain ⟨peer, packet, same⟩ := regular.client_of_default sent unnamed
    have key : stage.queue name = copy.message.routingKey := isKey
    rw [same] at key
    have own := (queue_inj stage).mp key
    subst own
    exact .inl ⟨packet, same⟩
  · have named := bound.named
    generalize isQueue : stage.queue name = queue at bound
    generalize isExchange : copy.message.exchange = exchange at bound
    cases bound with
    | @subscription other pattern member =>
        have own := (queue_inj stage).mp isQueue
        subst own
        refine .inr ⟨?_, pattern, member, matching⟩
        rcases regular.accepted _ (regular.taken_of_named sent named) with event | letter
        · exact event
        · obtain ⟨other, failed, thrown, now, traceId, same, -⟩ := letter
          rw [same] at isExchange
          exact (events_ne_dlx stage isExchange.symm).elim
    | @deadLetters other => exact (queue_ne_deadLetterQueue stage isQueue).elim

/-- What came into a service's dead-letter queue are its own letters, each with the copy
that it was written for. -/
theorem Stage.Regular.letter_of_arrived (regular : stage.Regular traffic)
    (arrived : (stage.deadLetterQueue name, copy) ∈ traffic.arrived) :
    ∃ failed thrown now traceId, copy.message = stage.letter name failed thrown now traceId ∧
      (name, failed, .deadLettered) ∈ traffic.settled := by
  obtain ⟨sent, ⟨unnamed, isKey⟩ | ⟨pattern, bound, matching⟩⟩ := regular.arrived _ arrived
  · obtain ⟨peer, packet, same⟩ := regular.client_of_default sent unnamed
    have key : stage.deadLetterQueue name = copy.message.routingKey := isKey
    rw [same] at key
    exact (queue_ne_deadLetterQueue stage key.symm).elim
  · have named := bound.named
    generalize isQueue : stage.deadLetterQueue name = queue at bound
    generalize isExchange : copy.message.exchange = exchange at bound
    cases bound with
    | subscription member => exact (queue_ne_deadLetterQueue stage isQueue.symm).elim
    | @deadLetters other =>
        have own := (deadLetterQueue_inj stage).mp isQueue
        subst own
        rcases regular.accepted _ (regular.taken_of_named sent named) with event | letter
        · obtain ⟨pattern, payload, traceId, serial, same⟩ := event
          rw [same] at isExchange
          exact (events_ne_dlx stage isExchange).elim
        · obtain ⟨other, failed, thrown, now, traceId, same, buried⟩ := letter
          have key : copy.message.routingKey = stage.queue other := by
            rw [same, ← dlqServiceName_eq]
            rfl
          rw [key, matches_queue_iff] at matching
          subst matching
          exact ⟨failed, thrown, now, traceId, same, buried⟩

/-- A letter that a bus took is kept by a process of the service, in the service's dead-letter
queue, refused, or discarded with the channel of a process. -/
theorem letter_found (reached : stage.fleets.Reaches allowed idleStage fleet) {thrown : Thrown}
    {now : Millis} {traceId : String}
    (taken : stage.letter name copy thrown now traceId ∈ fleet.shared.accepted) :
    (∃ replica ∈ fleet.members, replica.member = .service name ∧
        stage.letter name copy thrown now traceId ∈ replica.kept) ∨
      (∃ delivered ∈ fleet.shared.broker.contents (stage.deadLetterQueue name),
        delivered.message = stage.letter name copy thrown now traceId) ∨
      stage.letter name copy thrown now traceId ∈ fleet.shared.refused ∨
      stage.letter name copy thrown now traceId ∈ fleet.shared.discarded := by
  obtain ⟨regular, belongs⟩ := regular_of_reaches reached
  have somewhere := Multiset.mem_coe.mpr taken
  rw [messages_accounted reached, Multiset.mem_add, Multiset.mem_add, Multiset.mem_add] at somewhere
  rcases somewhere with ((confirmed | refused) | discarded) | kept
  · exact .inr (.inl (regular.delivered name copy thrown now traceId
      (regular.confirmed _ (Multiset.mem_coe.mp confirmed))))
  · exact .inr (.inr (.inl (Multiset.mem_coe.mp refused)))
  · exact .inr (.inr (.inr (Multiset.mem_coe.mp discarded)))
  · obtain ⟨replica, present, keeps⟩ := Fleets.mem_sum.mp kept
    have own := Multiset.mem_coe.mp keeps
    exact .inl ⟨replica, present, (belongs replica present).letters _ _ _ _ _ own, own⟩

end Runs

/-- After every run, whatever the prefix of the stage: a service's dead-letter queue has
letters about messages that came into the service's own queue and that an event handler of the
service failed on. Its queue has events that it subscribes to and what RPC clients sent to
it. -/
theorem queues_isolated (stage : Stage) (labels : List (FleetLabel Member Action))
    (name : ServiceName) :
    (∀ copy ∈ (stage.fleets.schedule idleStage labels).shared.broker.contents
        (stage.deadLetterQueue name), ∃ failed thrown now traceId,
      copy.message = stage.letter name failed thrown now traceId ∧
      stage.handlers name failed.message.packet.pattern = some .event ∧
      (stage.queue name, failed) ∈ (stage.fleets.schedule idleStage labels).shared.arrived ∧
      (name, failed, .deadLettered) ∈ (stage.fleets.schedule idleStage labels).shared.settled) ∧
    ∀ copy ∈ (stage.fleets.schedule idleStage labels).shared.broker.contents (stage.queue name),
      (∃ packet, copy.message = stage.clientMessage name packet) ∨
      (∃ pattern payload traceId serial, copy.message =
        EventBusService.eventMessage stage.env pattern payload traceId (.event serial)) ∧
      ∃ pattern ∈ (stage.subscribesTo name).getD [],
        Matches pattern copy.message.routingKey := by
  have reached : stage.fleets.Reaches (fun _ _ => True) idleStage
      (stage.fleets.schedule idleStage labels) := .of_schedule labels
  have regular := (regular_of_reaches reached).1
  constructor
  · intro copy waiting
    obtain ⟨failed, thrown, now, traceId, same, buried⟩ :=
      regular.letter_of_arrived (regular.contents _ copy waiting)
    exact ⟨failed, thrown, now, traceId, same, (regular.buried name failed buried).1,
      regular.settled name failed _ buried, buried⟩
  · exact fun copy waiting => regular.subscribed (regular.contents _ copy waiting)

end NestMonorepo
