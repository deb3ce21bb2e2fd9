import NestMonorepo.Messaging.FanOut
import Mathlib.Algebra.Order.Group.Multiset
import Mathlib.Tactic.Abel

/-! # What becomes of the messages

Every message that a bus took is still kept by its channel, or was confirmed, refused or
discarded with the channel; every copy that came into a service's queue waits in it, is on
its way to a process or handled there, or has met its fate. No message and no copy is in two
places.
-/

namespace NestMonorepo

open Amqp Concurrency

/-! ## What one action does -/

/-- Why a copy meets the fate it meets. -/
inductive Stage.Explains (stage : Stage) (replica : Replica) (name : ServiceName) (copy : Copy) :
    Fate → Prop
  | handled {kind : HandlerKind} : stage.handlers name copy.message.packet.pattern = some kind →
      Explains stage replica name copy .handled
  | unhandled : stage.handlers name copy.message.packet.pattern = none →
      Explains stage replica name copy .unhandled
  | rejected : stage.handlers name copy.message.packet.pattern = some .message →
      Explains stage replica name copy .rejected
  | unrecorded : stage.handlers name copy.message.packet.pattern = some .event →
      Traffic.takes replica.channel = false → Explains stage replica name copy .unrecorded

/-- A process keeps the messages and holds the copies that it did. -/
structure Replica.Steady (replica moved : Replica) : Prop where
  kept : moved.kept.Perm replica.kept
  held : moved.held.Perm replica.held

/-- What an action does to the broker's side, to what the process keeps and to the copies it
holds. -/
inductive Stage.Effect (stage : Stage) (action : Action) (traffic : Traffic)
    (replica : Replica) : Traffic → Replica → Prop
  | idle {moved : Replica} : replica.Steady moved →
      Effect stage action traffic replica traffic moved
  | declare {moved : Replica} (declarations : List Declaration) :
      (declarations = stage.setup replica.member ∨
        ∃ name, declarations = [.assertQueue (stage.queue name)]) →
      replica.Steady moved →
      Effect stage action traffic replica
        { traffic with broker := (traffic.broker.declareAll declarations).1 } moved
  | publish {moved : Replica} (pattern : String) (payload : Payload) (traceId : String) :
      moved.kept = replica.kept ++ [EventBusService.eventMessage stage.env pattern payload traceId
        (.event traffic.accepted.length)] →
      moved.held = replica.held →
      Effect stage action traffic replica
        (traffic.record [EventBusService.eventMessage stage.env pattern payload traceId
          (.event traffic.accepted.length)]) moved
  | send {moved : Replica} (peer : ServiceName) (packet : Packet) : replica.Steady moved →
      Effect stage action traffic replica (traffic.transmit (stage.clientMessage peer packet))
        moved
  | transmit {moved : Replica} (message : Outgoing) :
      replica.connected = true → message ∈ replica.kept → replica.Steady moved →
      Effect stage action traffic replica (traffic.transmit message) moved
  | confirm {moved : Replica} (message : Outgoing) :
      message ∈ replica.unconfirmed → replica.kept.Perm (message :: moved.kept) →
      moved.held = replica.held →
      Effect stage action traffic replica
        { traffic with confirmed := traffic.confirmed ++ [message] } moved
  | refuse {moved : Replica} (message : Outgoing) (index : Nat) :
      action = .refuse index → replica.kept.Perm (message :: moved.kept) →
      moved.held = replica.held →
      Effect stage action traffic replica
        { traffic with refused := traffic.refused ++ [message] } moved
  | deliver {moved : Replica} (name : ServiceName) (copy : Copy) (broker : Broker Copy) :
      action = .deliver → replica.member = .service name →
      traffic.broker.take (stage.queue name) = some (copy, broker) →
      moved.kept = replica.kept → moved.held.Perm (copy :: replica.held) →
      Effect stage action traffic replica { traffic with broker := broker } moved
  | settle {moved : Replica} (name : ServiceName) (copy : Copy) (fate : Fate) :
      replica.member = .service name → stage.Explains replica name copy fate →
      moved.kept = replica.kept → replica.held.Perm (copy :: moved.held) →
      Effect stage action traffic replica (traffic.settle name fate [copy]) moved
  | bury {moved : Replica} (name : ServiceName) (copy : Copy) (thrown : Thrown) (now : Millis)
      (traceId : String) :
      replica.member = .service name →
      stage.handlers name copy.message.packet.pattern = some .event →
      moved.kept = replica.kept ++ [stage.letter name copy thrown now traceId] →
      replica.held.Perm (copy :: moved.held) →
      Effect stage action traffic replica
        ((traffic.record [stage.letter name copy thrown now traceId]).settle name .deadLettered
          [copy]) moved
  | lose {moved : Replica} (name : ServiceName) : action = .loseConsumer →
      replica.member = .service name →
      moved.kept = replica.kept → replica.held.Perm (replica.inTransit ++ moved.held) →
      Effect stage action traffic replica (traffic.settle name .lost replica.inTransit) moved
  | discard {moved : Replica} : action = .close ∨ action = .forget →
      moved.kept = [] → moved.held = replica.held →
      Effect stage action traffic replica (traffic.discard replica.kept) moved
  | crashGateway {moved : Replica} : action = .crash → replica.member = .gateway →
      moved.kept = [] → moved.held = [] →
      Effect stage action traffic replica (traffic.discard replica.kept) moved
  | crash {moved : Replica} (name : ServiceName) : action = .crash →
      replica.member = .service name → moved.kept = [] → moved.held = [] →
      Effect stage action traffic replica
        ((traffic.discard replica.kept).settle name .crashed replica.held) moved

section Effects

variable (stage : Stage) {action : Action} {traffic : Traffic} {replica : Replica}

/-- What the channel keeps after a message was handed to it. -/
theorem kept_handOver (message : Outgoing) (replica : Replica) :
    { replica with channel := (EventBusService.handOver message replica.channel).1 }.kept =
      if Traffic.takes replica.channel then replica.kept ++ [message] else replica.kept := by
  obtain ⟨member, channel, consuming, inTransit, handling⟩ := replica
  cases channel with
  | none => rfl
  | some channel =>
      obtain ⟨state, connected, waiting, unconfirmed⟩ := channel
      cases state with
      | «open» => exact (List.append_assoc _ _ _).symm
      | closed => rfl

/-- A replica is steady while nothing happens to it. -/
theorem Replica.Steady.refl (replica : Replica) : replica.Steady replica := ⟨.refl _, .refl _⟩

/-- A channel keeps what it kept over a connection. -/
theorem kept_connect (succeeded : Bool) (channel : ChannelWrapper) :
    (channel.connect succeeded).kept.Perm channel.kept := by
  cases succeeded with
  | true =>
      change (channel.waiting ++ channel.unconfirmed).Perm (channel.unconfirmed ++ channel.waiting)
      exact List.perm_append_comm
  | false => exact .refl _

/-- A refusal takes one message out of what the channel keeps. -/
theorem kept_refuse (index : Nat) (channel : ChannelWrapper) :
    (channel.refuse index).kept = channel.kept.eraseIdx index := by
  unfold ChannelWrapper.refuse ChannelWrapper.kept
  split
  · rename_i sent
    exact (List.eraseIdx_append_of_lt_length sent _).symm
  · rename_i waits
    exact (List.eraseIdx_append_of_length_le (Nat.le_of_not_lt waits) _).symm

/-- Taking an entry out of a list and putting it in front permutes the list. -/
theorem perm_eraseIdx {α : Type} {entries : List α} {index : Nat} {entry : α}
    (present : entries[index]? = some entry) : entries.Perm (entry :: entries.eraseIdx index) := by
  obtain ⟨bound, there⟩ := List.getElem?_eq_some_iff.mp present
  rw [← there]
  exact (List.getElem_cons_eraseIdx_perm bound).symm

/-- Handling a copy settles it, or buries it with a letter that the bus takes. The cases are
the handler for its pattern, the outcome and the channel. -/
theorem Stage.handle_effect {name : ServiceName} {copy : Copy} {moved : Replica}
    (isMember : replica.member = .service name) (channel : moved.channel = replica.channel)
    (held : replica.held.Perm (copy :: moved.held)) (outcome : Except Thrown Unit)
    (now : Millis) (traceId : String) :
    stage.Effect action traffic replica (stage.handle name copy outcome now traceId traffic moved).1
      (stage.handle name copy outcome now traceId traffic moved).2 := by
  have same : moved.kept = replica.kept := by rw [Replica.kept, channel, Replica.kept]
  unfold Stage.handle
  cases handler : stage.handlers name copy.message.packet.pattern with
  | none => exact .settle name copy _ isMember (.unhandled handler) same held
  | some kind =>
      cases outcome with
      | ok value => exact .settle name copy _ isMember (.handled handler) same held
      | error thrown =>
          cases kind with
          | message => exact .settle name copy _ isMember (.rejected handler) same held
          | event =>
              have keeps := kept_handOver (stage.letter name copy thrown now traceId) moved
              cases takes : Traffic.takes moved.channel with
              | false =>
                  rw [takes] at keeps
                  dsimp only [EventDeadLetterInterceptor.intercept, Traffic.accept]
                  rw [takes]
                  refine .settle name copy _ isMember (.unrecorded handler ?_) ?_ held
                  · rw [← channel, takes]
                  · exact keeps.trans same
              | true =>
                  rw [takes] at keeps
                  dsimp only [EventDeadLetterInterceptor.intercept, Traffic.accept]
                  rw [takes]
                  refine .bury name copy thrown now traceId isMember handler ?_ held
                  rw [← same]
                  exact keeps

/-- Every action has one of the effects. The cases are the actions, one by one; later proofs
split the effects and not the actions. -/
theorem Stage.perform_effect (action : Action) : stage.Effect action traffic replica
    (stage.perform action traffic replica).1 (stage.perform action traffic replica).2 := by
  obtain ⟨member, channel, consuming, inTransit, handling⟩ := replica
  have steady := Replica.Steady.refl ⟨member, channel, consuming, inTransit, handling⟩
  cases action with
  | bootstrap =>
      cases channel with
      | none => exact .idle ⟨.refl _, .refl _⟩
      | some channel => exact .idle steady
  | listen =>
      cases member with
      | gateway => exact .idle steady
      | service name => exact .declare _ (.inr ⟨name, rfl⟩) ⟨.refl _, .refl _⟩
  | connectClient peer => exact .declare _ (.inr ⟨peer, rfl⟩) steady
  | send peer packet => exact .send peer packet steady
  | connect =>
      cases channel with
      | none => exact .idle steady
      | some channel =>
          obtain ⟨state, connected, waiting, unconfirmed⟩ := channel
          cases state with
          | «open» => exact .declare _ (.inl rfl) ⟨kept_connect _ _, .refl _⟩
          | closed => exact .idle steady
  | disconnect =>
      cases channel with
      | none => exact .idle steady
      | some channel => exact .idle ⟨.refl _, .refl _⟩
  | publish pattern payload traceId =>
      have keeps := kept_handOver (EventBusService.eventMessage stage.env pattern payload traceId
        (.event traffic.accepted.length)) ⟨member, channel, consuming, inTransit, handling⟩
      cases takes : Traffic.takes channel with
      | false =>
          dsimp only [perform, Traffic.accept]
          rw [takes] at keeps ⊢
          exact .idle ⟨.of_eq keeps, .refl _⟩
      | true =>
          dsimp only [perform, Traffic.accept]
          rw [takes] at keeps ⊢
          exact .publish pattern payload traceId keeps rfl
  | transmit =>
      cases channel with
      | none => exact .idle steady
      | some channel =>
          obtain ⟨state, connected, waiting, unconfirmed⟩ := channel
          cases state with
          | closed => exact .idle steady
          | «open» =>
              cases connected with
              | false => exact .idle steady
              | true =>
                  cases waiting with
                  | nil => exact .idle steady
                  | cons message waiting =>
                      refine .transmit message rfl ?_ ⟨.of_eq ?_, .refl _⟩
                      · exact List.mem_append_right _ List.mem_cons_self
                      · exact List.append_assoc _ _ _
  | confirm index =>
      dsimp only [perform]
      split
      · rename_i state waiting unconfirmed
        split
        · rename_i message present
          exact .confirm message (List.mem_of_getElem? present)
            ((perm_eraseIdx present).append_right waiting) rfl
        · exact .idle steady
      · exact .idle steady
  | refuse index =>
      cases channel with
      | none => exact .idle steady
      | some channel =>
          dsimp only [perform]
          split
          · rename_i message present
            refine .refuse message index rfl ?_ rfl
            change channel.kept.Perm (message :: (channel.refuse index).kept)
            rw [kept_refuse]
            exact perm_eraseIdx present
          · exact .idle steady
  | deliver =>
      cases member with
      | gateway => exact .idle steady
      | service name =>
          cases consuming with
          | false => exact .idle steady
          | true =>
              dsimp only [perform]
              cases took : traffic.broker.take (stage.queue name) with
              | none => exact .idle steady
              | some taken =>
                  refine .deliver name taken.1 taken.2 rfl rfl took rfl ?_
                  change (inTransit ++ [taken.1] ++ handling).Perm _
                  rw [List.append_assoc]
                  exact List.perm_middle
  | receive =>
      cases inTransit with
      | nil => exact .idle steady
      | cons copy rest =>
          refine .idle ⟨.refl _, ?_⟩
          change (rest ++ (handling ++ [copy])).Perm (copy :: (rest ++ handling))
          rw [← List.append_assoc]
          exact List.perm_append_singleton _ _
  | loseConsumer =>
      cases member with
      | gateway => exact .idle steady
      | service name => exact .lose name rfl rfl rfl (.refl _)
  | finish index outcome now traceId =>
      cases member with
      | gateway => exact .idle steady
      | service name =>
          dsimp only [perform]
          cases present : handling[index]? with
          | none => exact .idle steady
          | some copy =>
              apply stage.handle_effect
              · rfl
              · rfl
              · exact ((perm_eraseIdx present).append_left inTransit).trans List.perm_middle
  | close =>
      refine .discard (.inl rfl) ?_ rfl
      cases channel <;> rfl
  | forget =>
      dsimp only [perform]
      split
      · exact .discard (.inr rfl) rfl rfl
      · exact .idle steady
  | crash =>
      cases member with
      | gateway => exact .crashGateway rfl rfl rfl rfl
      | service name => exact .crash name rfl rfl rfl rfl

/-- Handling a copy does not change whose replica it is. -/
theorem Stage.handle_member (name : ServiceName) (copy : Copy) (outcome : Except Thrown Unit)
    (now : Millis) (traceId : String) :
    (stage.handle name copy outcome now traceId traffic replica).2.member = replica.member := by
  unfold handle
  split
  · rfl
  · dsimp only
    split <;> rfl

/-- A process stays its member's. -/
theorem Stage.perform_member (action : Action) :
    (stage.perform action traffic replica).2.member = replica.member := by
  obtain ⟨member, channel, consuming, inTransit, handling⟩ := replica
  cases action with
  | listen => cases member <;> rfl
  | connect =>
      dsimp only [perform]
      split
      · split <;> rfl
      · rfl
  | transmit =>
      dsimp only [perform]
      split <;> rfl
  | confirm index =>
      dsimp only [perform]
      split
      · split <;> rfl
      · rfl
  | refuse index =>
      dsimp only [perform]
      split
      · split <;> rfl
      · rfl
  | deliver =>
      dsimp only [perform]
      split
      · split <;> rfl
      · rfl
  | receive => cases inTransit <;> rfl
  | loseConsumer => cases member <;> rfl
  | finish index outcome now traceId =>
      dsimp only [perform]
      split
      · exact stage.handle_member _ _ _ _ _
      · rfl
  | forget =>
      dsimp only [perform]
      split <;> rfl
  | crash => cases member <;> rfl
  | _ => rfl

/-- Handing over a message sends nothing. -/
theorem handOver_channel (message : Outgoing) (replica : Replica) :
    { replica with channel := (EventBusService.handOver message replica.channel).1 }.unconfirmed =
        replica.unconfirmed ∧
      { replica with channel := (EventBusService.handOver message replica.channel).1 }.connected =
        replica.connected := by
  obtain ⟨member, channel, consuming, inTransit, handling⟩ := replica
  cases channel with
  | none => exact ⟨rfl, rfl⟩
  | some channel =>
      obtain ⟨state, connected, waiting, unconfirmed⟩ := channel
      cases state <;> exact ⟨rfl, rfl⟩

/-- Handling a copy neither confirms a message nor drops the connection of the channel. -/
theorem Stage.handle_channel (name : ServiceName) (copy : Copy) (outcome : Except Thrown Unit)
    (now : Millis) (traceId : String) :
    (stage.handle name copy outcome now traceId traffic replica).2.unconfirmed =
        replica.unconfirmed ∧
      (stage.handle name copy outcome now traceId traffic replica).2.connected =
        replica.connected := by
  unfold handle
  cases stage.handlers name copy.message.packet.pattern with
  | none => exact ⟨rfl, rfl⟩
  | some kind =>
      cases outcome with
      | ok value => exact ⟨rfl, rfl⟩
      | error thrown =>
          cases kind with
          | message => exact ⟨rfl, rfl⟩
          | event => exact handOver_channel _ _

/-- What a channel waits to have confirmed was sent, and it is connected only after a set-up
that succeeded. -/
theorem Stage.perform_channel (action : Action) :
    (∀ message ∈ (stage.perform action traffic replica).2.unconfirmed,
      message ∈ replica.unconfirmed ∨
        message ∈ (stage.perform action traffic replica).1.transmitted) ∧
      ((stage.perform action traffic replica).2.connected = true → replica.connected = true ∨
        (traffic.broker.declareAll (stage.setup replica.member)).2 = true ∧
          (stage.perform action traffic replica).1.broker =
            (traffic.broker.declareAll (stage.setup replica.member)).1) := by
  obtain ⟨member, channel, consuming, inTransit, handling⟩ := replica
  have same : (∀ message ∈ (Replica.mk member channel consuming inTransit handling).unconfirmed,
      message ∈ (Replica.mk member channel consuming inTransit handling).unconfirmed ∨
        message ∈ traffic.transmitted) := fun message member => .inl member
  cases action with
  | bootstrap =>
      cases channel with
      | none =>
          refine ⟨?_, ?_⟩
          · intro message absent
            cases absent
          · intro impossible
            cases impossible
      | some channel => exact ⟨same, .inl⟩
  | listen => cases member <;> exact ⟨same, .inl⟩
  | connectClient peer => exact ⟨same, .inl⟩
  | send peer packet => exact ⟨fun message member => .inl member, .inl⟩
  | connect =>
      cases channel with
      | none => exact ⟨same, .inl⟩
      | some channel =>
          obtain ⟨state, connected, waiting, unconfirmed⟩ := channel
          cases state with
          | closed => exact ⟨same, .inl⟩
          | «open» =>
              dsimp only [perform]
              cases (traffic.broker.declareAll (stage.setup member)).2 with
              | true =>
                  refine ⟨?_, fun _ => .inr ⟨rfl, rfl⟩⟩
                  intro message absent
                  cases absent
              | false =>
                  refine ⟨same, ?_⟩
                  intro impossible
                  cases impossible
  | disconnect =>
      refine ⟨?_, ?_⟩
      · cases channel <;> exact same
      · intro impossible
        cases channel <;> cases impossible
  | publish pattern payload traceId =>
      obtain ⟨unconfirmed, connected⟩ := handOver_channel (EventBusService.eventMessage stage.env
        pattern payload traceId (.event traffic.accepted.length))
        ⟨member, channel, consuming, inTransit, handling⟩
      dsimp only [perform]
      rw [unconfirmed, connected]
      exact ⟨fun message member => .inl member, .inl⟩
  | transmit =>
      cases channel with
      | none => exact ⟨same, .inl⟩
      | some channel =>
          obtain ⟨state, connected, waiting, unconfirmed⟩ := channel
          cases state with
          | closed => exact ⟨same, .inl⟩
          | «open» =>
              cases connected with
              | false => exact ⟨same, .inl⟩
              | true =>
                  cases waiting with
                  | nil => exact ⟨same, .inl⟩
                  | cons first waiting =>
                      refine ⟨fun message member => ?_, .inl⟩
                      rcases List.mem_append.mp member with before | now
                      · exact .inl before
                      · exact .inr (List.mem_append_right _ now)
  | confirm index =>
      dsimp only [perform]
      split
      · split
        · exact ⟨fun message member => .inl (List.mem_of_mem_eraseIdx member), .inl⟩
        · exact ⟨same, .inl⟩
      · exact ⟨same, .inl⟩
  | refuse index =>
      cases channel with
      | none => exact ⟨same, .inl⟩
      | some channel =>
          dsimp only [perform]
          cases channel.kept[index]? with
          | none => exact ⟨same, .inl⟩
          | some message =>
              dsimp only [Replica.unconfirmed, Replica.connected, ChannelWrapper.refuse]
              split
              · exact ⟨fun message member => .inl (List.mem_of_mem_eraseIdx member), .inl⟩
              · exact ⟨same, .inl⟩
  | deliver =>
      dsimp only [perform]
      split
      · split <;> exact ⟨same, .inl⟩
      · exact ⟨same, .inl⟩
  | receive => cases inTransit <;> exact ⟨same, .inl⟩
  | loseConsumer => cases member <;> exact ⟨same, .inl⟩
  | finish index outcome now traceId =>
      cases member with
      | gateway => exact ⟨same, .inl⟩
      | service name =>
          dsimp only [perform]
          cases handling[index]? with
          | none => exact ⟨same, .inl⟩
          | some copy =>
              dsimp only
              rw [(stage.handle_channel name copy outcome now traceId).1,
                (stage.handle_channel name copy outcome now traceId).2]
              exact ⟨fun message member => .inl member, .inl⟩
  | close =>
      refine ⟨?_, ?_⟩
      · intro message absent
        cases channel <;> cases absent
      · intro impossible
        cases channel <;> cases impossible
  | forget =>
      dsimp only [perform]
      split
      · refine ⟨?_, ?_⟩
        · intro message absent
          cases absent
        · intro impossible
          cases impossible
      · exact ⟨same, .inl⟩
  | crash =>
      refine ⟨?_, ?_⟩
      · intro message absent
        cases member <;> cases absent
      · intro impossible
        cases member <;> cases impossible

end Effects

/-! ## Copies -/

namespace Traffic

/-- The copies that came into a queue, oldest first. -/
def arrivedAt (queue : String) (traffic : Traffic) : List Copy :=
  traffic.arrived.filterMap fun arrival => if arrival.1 = queue then some arrival.2 else none

/-- The copies that met their fate at a service. -/
def settledAt (name : ServiceName) (traffic : Traffic) : List Copy :=
  traffic.settled.filterMap fun settled => if settled.1 = name then some settled.2.1 else none

variable {traffic : Traffic} {queue : String} {name other : ServiceName}

/-- A copy has arrived at a queue when the log of arrivals says so. -/
theorem mem_arrivedAt {copy : Copy} :
    copy ∈ traffic.arrivedAt queue ↔ (queue, copy) ∈ traffic.arrived := by
  rw [arrivedAt, List.mem_filterMap]
  constructor
  · intro found
    obtain ⟨⟨place, there⟩, member, same⟩ := found
    split at same
    · rename_i here
      cases same
      have here : place = queue := here
      rw [← here]
      exact member
    · cases same
  · exact fun member => ⟨(queue, copy), member, if_pos rfl⟩

/-- Of one transmission a queue gets its copy once, as it is named once among the targets. -/
theorem filterMap_of_nodup {copy : Copy} {queues : List String} (nodup : queues.Nodup) :
    (queues.map fun name => (name, copy)).filterMap
        (fun arrival => if arrival.1 = queue then some arrival.2 else none) =
      if queue ∈ queues then [copy] else [] := by
  induction queues with
  | nil => rfl
  | cons first rest ih =>
      obtain ⟨absent, nodup⟩ := List.nodup_cons.mp nodup
      rw [List.map_cons, List.filterMap_cons]
      by_cases same : first = queue
      · rw [same] at absent ⊢
        rw [if_pos rfl, if_pos List.mem_cons_self]
        dsimp only
        rw [ih nodup, if_neg absent]
      · rw [if_neg same]
        dsimp only
        rw [ih nodup]
        simp only [List.mem_cons, Ne.symm same, false_or]

/-- A transmission arrives, numbered by its place, at exactly the queues that are bound for
it. -/
theorem arrivedAt_transmit (message : Outgoing) (traffic : Traffic) :
    (traffic.transmit message).arrivedAt queue = traffic.arrivedAt queue ++
      if queue ∈ traffic.broker.targets message.exchange message.routingKey then
        [⟨traffic.transmitted.length, message⟩] else [] := by
  rw [arrivedAt, transmit, List.filterMap_append,
    filterMap_of_nodup (Broker.nodup_targets _ _ _)]
  rfl

/-- A transmission is put at the end of exactly the queues that are bound for it. -/
theorem contents_transmit (message : Outgoing) (traffic : Traffic) :
    (traffic.transmit message).broker.contents queue = traffic.broker.contents queue ++
      if queue ∈ traffic.broker.targets message.exchange message.routingKey then
        [⟨traffic.transmitted.length, message⟩] else [] := by
  dsimp only [transmit, Broker.route]
  split
  · rfl
  · exact (List.append_nil _).symm

/-- Settling copies of a service adds them to what it has settled, and to no other service's. -/
theorem settledAt_settle (fate : Fate) (copies : List Copy) :
    (traffic.settle other fate copies).settledAt name =
      traffic.settledAt name ++ if other = name then copies else [] := by
  rw [settledAt, settle, List.filterMap_append, List.filterMap_map]
  by_cases same : other = name
  · rw [if_pos same]
    refine congrArg _ ?_
    calc _ = copies.filterMap some := by
          congr 1
          funext copy
          exact if_pos same
      _ = copies := List.filterMap_some
  · rw [if_neg same]
    refine congrArg _ ?_
    rw [List.filterMap_eq_nil_iff]
    exact fun copy _ => if_neg same

end Traffic

/-- The copies that a process holds for a service. -/
def Replica.holding (name : ServiceName) (replica : Replica) : List Copy :=
  if replica.member = .service name then replica.held else []

section Balances

variable {stage : Stage} {action : Action} {traffic after : Traffic} {replica moved : Replica}
  {name : ServiceName}

/-- Two replicas of one service that have the same copies in hand hold the same for it. -/
theorem holding_perm (same : moved.member = replica.member)
    (held : moved.held.Perm replica.held) :
    (moved.holding name : Multiset Copy) = replica.holding name := by
  rw [Replica.holding, Replica.holding, same]
  split
  · exact Multiset.coe_eq_coe.mpr held
  · rfl

/-- For its own service a replica holds what it has in hand. -/
theorem holding_of_member (isMember : replica.member = .service name) :
    replica.holding name = replica.held := if_pos isMember

/-- For another service a replica holds nothing. -/
theorem holding_of_other {other : ServiceName} (isMember : replica.member = .service other)
    (different : other ≠ name) : replica.holding name = [] := by
  apply if_neg
  rw [isMember]
  exact fun same => different (Member.service.inj same)

/-- A copy that leaves a process, for its service and for the others. -/
theorem holding_add {other : ServiceName} {gone : List Copy}
    (isMember : replica.member = .service other) (same : moved.member = replica.member)
    (left : replica.held.Perm (gone ++ moved.held)) :
    (replica.holding name : Multiset Copy) =
      (if other = name then gone else [] : List Copy) + moved.holding name := by
  by_cases own : other = name
  · subst own
    rw [if_pos rfl, holding_of_member isMember, holding_of_member (same.trans isMember),
      Multiset.coe_add, Multiset.coe_eq_coe]
    exact left
  · rw [if_neg own, holding_of_other isMember own, holding_of_other (same.trans isMember) own]
    exact (zero_add _).symm

/-- A message that is sent comes into the queues that it is routed to. -/
theorem custody_transmit (message : Outgoing) (holding : Multiset Copy) :
    ((traffic.transmit message).arrivedAt (stage.queue name) : Multiset Copy) +
        ((traffic.broker.contents (stage.queue name) + traffic.settledAt name : Multiset Copy) +
          holding) =
      traffic.arrivedAt (stage.queue name) +
        (((traffic.transmit message).broker.contents (stage.queue name) +
          (traffic.transmit message).settledAt name : Multiset Copy) + holding) := by
  rw [Traffic.arrivedAt_transmit, Traffic.contents_transmit, ← Multiset.coe_add,
    ← Multiset.coe_add]
  change _ = _ + (_ + (traffic.settledAt name : Multiset Copy) + _)
  abel

/-- An action moves copies between the queue, the process and the record of fates: together
they stay what has arrived. -/
theorem Stage.Effect.custody (effect : stage.Effect action traffic replica after moved)
    (same : moved.member = replica.member) (name : ServiceName) :
    (after.arrivedAt (stage.queue name) : Multiset Copy) +
        ((traffic.broker.contents (stage.queue name) + traffic.settledAt name : Multiset Copy) +
          replica.holding name) =
      traffic.arrivedAt (stage.queue name) +
        ((after.broker.contents (stage.queue name) + after.settledAt name : Multiset Copy) +
          moved.holding name) := by
  cases effect with
  | idle steady => rw [holding_perm same steady.held]
  | declare declarations asked steady =>
      rw [holding_perm same steady.held, (Broker.declareAll_spec declarations traffic.broker).1]
      rfl
  | publish pattern payload traceId kept held =>
      rw [holding_perm same (.of_eq held)]
      rfl
  | send peer packet steady =>
      rw [holding_perm same steady.held]
      exact custody_transmit _ _
  | transmit message connected present steady =>
      rw [holding_perm same steady.held]
      exact custody_transmit _ _
  | confirm message sent kept held =>
      rw [holding_perm same (.of_eq held)]
      rfl
  | refuse message index isRefuse kept held =>
      rw [holding_perm same (.of_eq held)]
      rfl
  | deliver other copy broker isDeliver isMember took kept held =>
      obtain ⟨contents, -, others⟩ := Broker.take_eq_some took
      change _ = _ + (_ + (traffic.settledAt name : Multiset Copy) + _)
      by_cases own : other = name
      · subst own
        rw [holding_of_member isMember, holding_of_member (same.trans isMember),
          Multiset.coe_eq_coe.mpr held, contents, ← Multiset.cons_coe, ← Multiset.cons_coe,
          ← Multiset.singleton_add, ← Multiset.singleton_add]
        change (traffic.arrivedAt _ : Multiset Copy) + _ = _
        abel
      · rw [others _ fun queues => own ((queue_inj stage).mp queues).symm,
          holding_of_other isMember own, holding_of_other (same.trans isMember) own]
        rfl
  | settle other copy fate isMember explained kept held =>
      have gone : replica.held.Perm ([copy] ++ moved.held) := held
      rw [Traffic.settledAt_settle, holding_add isMember same gone, ← Multiset.coe_add]
      change (traffic.arrivedAt _ : Multiset Copy) + _ = _ + (traffic.broker.contents _ + _ + _)
      abel
  | bury other copy thrown now traceId isMember handler kept held =>
      have gone : replica.held.Perm ([copy] ++ moved.held) := held
      rw [Traffic.settledAt_settle, holding_add isMember same gone, ← Multiset.coe_add]
      change (traffic.arrivedAt _ : Multiset Copy) + _ =
        _ + (traffic.broker.contents _ + (traffic.settledAt name + _) + _)
      abel
  | lose other isLose isMember kept held =>
      rw [Traffic.settledAt_settle, holding_add isMember same held, ← Multiset.coe_add]
      change (traffic.arrivedAt _ : Multiset Copy) + _ = _ + (traffic.broker.contents _ + _ + _)
      abel
  | discard isEnd kept held =>
      rw [holding_perm same (.of_eq held)]
      rfl
  | crashGateway isCrash isMember kept held =>
      have none {process : Replica} (isGateway : process.member = .gateway) :
          process.holding name = [] := by
        apply if_neg
        rw [isGateway]
        exact Member.noConfusion
      rw [none isMember, none (same.trans isMember)]
      rfl
  | crash other isCrash isMember kept held =>
      have gone : replica.held.Perm (replica.held ++ moved.held) := by
        rw [held, List.append_nil]
      rw [Traffic.settledAt_settle, holding_add isMember same gone, ← Multiset.coe_add]
      change (traffic.arrivedAt _ : Multiset Copy) + _ =
        _ + (traffic.broker.contents _ + (traffic.settledAt name + _) + _)
      abel

/-- An action moves messages between the bus, the records of confirmations and refusals and
what is lost with a channel. -/
theorem Stage.Effect.messages (effect : stage.Effect action traffic replica after moved) :
    (after.accepted : Multiset Outgoing) +
        ((traffic.confirmed + traffic.refused + traffic.discarded : Multiset Outgoing) +
          replica.kept) =
      traffic.accepted +
        ((after.confirmed + after.refused + after.discarded : Multiset Outgoing) + moved.kept) := by
  cases effect with
  | idle steady => rw [Multiset.coe_eq_coe.mpr steady.kept]
  | declare declarations asked steady => rw [Multiset.coe_eq_coe.mpr steady.kept]
  | send peer packet steady =>
      rw [Multiset.coe_eq_coe.mpr steady.kept]
      rfl
  | publish pattern payload traceId kept held =>
      rw [kept, Traffic.record, ← Multiset.coe_add, ← Multiset.coe_add]
      abel
  | transmit message connected present steady =>
      rw [Multiset.coe_eq_coe.mpr steady.kept]
      rfl
  | confirm message sent kept held =>
      rw [Multiset.coe_eq_coe.mpr kept, ← Multiset.coe_add, ← Multiset.cons_coe,
        ← Multiset.singleton_add, Multiset.coe_singleton]
      abel
  | refuse message index isRefuse kept held =>
      rw [Multiset.coe_eq_coe.mpr kept, ← Multiset.coe_add, ← Multiset.cons_coe,
        ← Multiset.singleton_add, Multiset.coe_singleton]
      abel
  | deliver other copy broker isDeliver isMember took kept held => rw [kept]
  | settle other copy fate isMember explained kept held =>
      rw [kept]
      rfl
  | bury other copy thrown now traceId isMember handler kept held =>
      rw [kept, Traffic.settle, Traffic.record, ← Multiset.coe_add, ← Multiset.coe_add]
      abel
  | lose other isLose isMember kept held =>
      rw [kept]
      rfl
  | discard isEnd kept held =>
      rw [kept, Traffic.discard, ← Multiset.coe_add, Multiset.coe_nil]
      abel
  | crashGateway isCrash isMember kept held =>
      rw [kept, Traffic.discard, ← Multiset.coe_add, Multiset.coe_nil]
      abel
  | crash other isCrash isMember kept held =>
      rw [kept, Traffic.settle, Traffic.discard, ← Multiset.coe_add, Multiset.coe_nil]
      abel

/-- Copies arrive when a connected bus sends a message that it keeps, or an RPC client sends
one. -/
theorem Stage.Effect.transmits (effect : stage.Effect action traffic replica after moved) :
    (after.arrived = traffic.arrived ∧ after.transmitted = traffic.transmitted) ∨
      ∃ message, after = traffic.transmit message ∧
        (replica.connected = true ∧ message ∈ replica.kept ∨
          ∃ peer packet, message = stage.clientMessage peer packet) := by
  cases effect with
  | transmit message connected present steady =>
      exact .inr ⟨message, rfl, .inl ⟨connected, present⟩⟩
  | send peer packet steady => exact .inr ⟨_, rfl, .inr ⟨peer, packet, rfl⟩⟩
  | _ => exact .inl ⟨rfl, rfl⟩

end Balances

/-! ## Whole runs -/

/-- A stage before its first process. -/
def idleStage : Fleet Traffic Replica := ⟨.empty, []⟩

section Runs

variable {stage : Stage} {allowed : FleetLabel Member Action → Fleet Traffic Replica → Prop}
  {fleet : Fleet Traffic Replica} (reached : stage.fleets.Reaches allowed idleStage fleet)
  (name : ServiceName)

include reached

/-- Each copy that came into a service's queue is in one place: it waits there, one of the
service's processes holds it, or it has met its fate. -/
theorem copies_accounted : (fleet.shared.arrivedAt (stage.queue name) : Multiset Copy) =
    fleet.shared.broker.contents (stage.queue name) + fleet.shared.settledAt name +
      (fleet.members.map fun replica => (replica.holding name : Multiset Copy)).sum := by
  refine reached.balance
    (fun traffic : Traffic => (traffic.arrivedAt (stage.queue name) : Multiset Copy))
    (fun traffic => traffic.broker.contents (stage.queue name) + traffic.settledAt name)
    (fun replica : Replica => replica.holding name) rfl (fun seed => ?_) ?_
  · change ((if seed = .service name then [] else [] : List Copy) : Multiset Copy) = 0
    rw [ite_self, Multiset.coe_nil]
  · intro action traffic replica
    exact (stage.perform_effect action).custody (stage.perform_member action) name

/-- Each message that a bus took is in one place: its channel keeps it, the broker has
confirmed or refused it, or it was discarded with the channel. -/
theorem messages_accounted : (fleet.shared.accepted : Multiset Outgoing) =
    fleet.shared.confirmed + fleet.shared.refused + fleet.shared.discarded +
      (fleet.members.map fun replica => (replica.kept : Multiset Outgoing)).sum := by
  refine reached.balance
    (fun traffic : Traffic => (traffic.accepted : Multiset Outgoing))
    (fun traffic => traffic.confirmed + traffic.refused + traffic.discarded)
    (fun replica : Replica => replica.kept) rfl (fun seed => rfl) ?_
  intro action traffic replica
  exact (stage.perform_effect action).messages

/-- The copies that come into a queue have increasing numbers, as each transmission is
numbered by its place in the log. -/
theorem arrivals_numbered (queue : String) :
    ((fleet.shared.arrivedAt queue).map Copy.number).Pairwise (· < ·) := by
  have numbered : ((fleet.shared.arrivedAt queue).map Copy.number).Pairwise (· < ·) ∧
      ∀ number ∈ (fleet.shared.arrivedAt queue).map Copy.number,
        number < fleet.shared.transmitted.length := by
    refine (reached.invariant (fun traffic : Traffic =>
      ((traffic.arrivedAt queue).map Copy.number).Pairwise (· < ·) ∧
        ∀ number ∈ (traffic.arrivedAt queue).map Copy.number, number < traffic.transmitted.length)
      (fun _ _ => True) ?_ ?_ ?_).1
    · refine ⟨⟨.nil, ?_⟩, fun _ _ => trivial⟩
      intro number absent
      cases absent
    · exact fun _ _ _ _ => trivial
    · intro index action replica fleet _ _ holds _
      refine ⟨?_, trivial, fun _ _ => trivial⟩
      rcases (stage.perform_effect action).transmits with ⟨arrived, transmitted⟩ |
        ⟨message, sent, -⟩
      · dsimp only [Traffic.arrivedAt]
        rw [show stage.fleets.perform = stage.perform from rfl, arrived, transmitted]
        exact holds
      · obtain ⟨increasing, below⟩ := holds
        rw [show stage.fleets.perform = stage.perform from rfl, sent, Traffic.arrivedAt_transmit]
        have longer : (fleet.shared.transmit message).transmitted.length =
            fleet.shared.transmitted.length + 1 := List.length_append
        rw [longer]
        split
        · rw [List.map_append, List.map_singleton]
          constructor
          · rw [List.pairwise_append]
            refine ⟨increasing, List.pairwise_singleton _ _, ?_⟩
            intro number before other now
            rw [List.mem_singleton.mp now]
            exact below number before
          · intro number member
            rcases List.mem_append.mp member with before | now
            · exact (below number before).trans (Nat.lt_succ_self _)
            · rw [List.mem_singleton.mp now]
              exact Nat.lt_succ_self _
        · rw [List.append_nil]
          exact ⟨increasing, fun number member => (below number member).trans (Nat.lt_succ_self _)⟩
  exact numbered.1

/-- A copy is told by its number from the others that came into its queue. -/
theorem arrival_unique {queue : String} {copy other : Copy}
    (first : (queue, copy) ∈ fleet.shared.arrived) (second : (queue, other) ∈ fleet.shared.arrived)
    (same : copy.number = other.number) : copy = other := by
  have numbers : ((fleet.shared.arrivedAt queue).map Copy.number).Nodup :=
    (arrivals_numbered reached queue).imp fun {_ _} less => Nat.ne_of_lt less
  exact List.inj_on_of_nodup_map numbers (Traffic.mem_arrivedAt.mpr first)
    (Traffic.mem_arrivedAt.mpr second) same

/-- A copy that came into a service's queue meets one fate: it is settled once, since its
number arrived there once. -/
theorem fate_unique {copy : Copy} {fate other : Fate}
    (first : (name, copy, fate) ∈ fleet.shared.settled)
    (second : (name, copy, other) ∈ fleet.shared.settled) : fate = other := by
  have arrivals : (fleet.shared.arrivedAt (stage.queue name)).Nodup :=
    List.Nodup.of_map Copy.number
      ((arrivals_numbered reached _).imp fun {_ _} less => Nat.ne_of_lt less)
  have fates : (fleet.shared.settledAt name).Nodup := by
    have whole : (fleet.shared.arrivedAt (stage.queue name) : Multiset Copy).Nodup :=
      Multiset.coe_nodup.mpr arrivals
    rw [copies_accounted reached name] at whole
    exact Multiset.coe_nodup.mp
      (Multiset.nodup_of_le ((Multiset.le_add_left _ _).trans (Multiset.le_add_right _ _)) whole)
  have spelled : fleet.shared.settledAt name =
      (fleet.shared.settled.filter fun entry => entry.1 = name).map fun entry => entry.2.1 := by
    rw [Traffic.settledAt, ← List.filterMap_eq_map', ← List.filterMap_eq_filter,
      List.filterMap_filterMap]
    congr 1
    funext entry
    by_cases own : entry.1 = name
    · rw [if_pos own, Option.guard, if_pos (decide_eq_true own)]
      rfl
    · rw [if_neg own, Option.guard, if_neg (by rw [decide_eq_false own]; exact Bool.false_ne_true)]
      rfl
  rw [spelled] at fates
  have same := List.inj_on_of_nodup_map fates
    (List.mem_filter.mpr ⟨first, decide_eq_true rfl⟩)
    (List.mem_filter.mpr ⟨second, decide_eq_true rfl⟩) rfl
  exact congrArg (fun entry => entry.2.2) same

end Runs

/-- After every run, the copies that came into a service's queue have numbers of their own and
each is in one place: the queue, one of the service's processes, or the record of fates, which
has a fate for what is lost with the connection of a consumer and with a process. So is each
message that a bus took: a channel, or the record of what was confirmed, refused or
discarded. -/
theorem traffic_accounted (stage : Stage) (labels : List (FleetLabel Member Action))
    (name : ServiceName) :
    (((stage.fleets.schedule idleStage labels).shared.arrivedAt (stage.queue name)).map
      Copy.number).Pairwise (· < ·) ∧
    ((stage.fleets.schedule idleStage labels).shared.arrivedAt (stage.queue name) :
        Multiset Copy) =
      (stage.fleets.schedule idleStage labels).shared.broker.contents (stage.queue name) +
        (stage.fleets.schedule idleStage labels).shared.settledAt name +
          ((stage.fleets.schedule idleStage labels).members.map fun replica =>
            (replica.holding name : Multiset Copy)).sum ∧
    ((stage.fleets.schedule idleStage labels).shared.accepted : Multiset Outgoing) =
      (stage.fleets.schedule idleStage labels).shared.confirmed +
        (stage.fleets.schedule idleStage labels).shared.refused +
        (stage.fleets.schedule idleStage labels).shared.discarded +
          ((stage.fleets.schedule idleStage labels).members.map fun replica =>
            (replica.kept : Multiset Outgoing)).sum := by
  have reached : stage.fleets.Reaches (fun _ _ => True) idleStage
      (stage.fleets.schedule idleStage labels) := .of_schedule labels
  exact ⟨arrivals_numbered reached _, copies_accounted reached name, messages_accounted reached⟩

end NestMonorepo
