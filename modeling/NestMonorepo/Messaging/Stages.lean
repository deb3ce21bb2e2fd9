import NestMonorepo.Collections.Separators
import NestMonorepo.Common.Env
import NestMonorepo.Tooling.ServiceNames
import Mathlib.Data.Set.Lattice
import Mathlib.Order.CompletePartialOrder

/-! # Stages that share a broker

Everything a stage declares at the broker has the stage's prefix before an underscore. Both
the prefixes and the names may have underscores of their own.
-/

namespace NestMonorepo

open Collections

/-- The names that the services of a stage give to what they declare. -/
inductive LocalName (services : Set ServiceName) : String → Prop
  | queue {service : ServiceName} : service ∈ services → LocalName services service.queue
  | deadLetters {service : ServiceName} : service ∈ services →
      LocalName services (service.queue ++ ".dlq")
  | events : LocalName services "events"
  | eventsDlx : LocalName services "events.dlx"

/-- The names of a stage's queues and exchanges at the broker. -/
def brokerNames (env : ProcessEnv) (services : Set ServiceName) : Set String :=
  {name | ∃ queue, LocalName services queue ∧ prefixedQueue env queue = name}

/-- Two texts with an underscore between them. -/
def joined (left right : String) : String := left ++ "_" ++ right

/-- The one prefix continues the other with an underscore and the start of a service's name,
and the rest of that name is a service of the other stage. -/
def Overlaps (env other : ProcessEnv) (services others : Set ServiceName) : Prop :=
  ∃ start, getQueuePrefix other = joined (getQueuePrefix env) start ∧
    ∃ service ∈ services, ∃ peer ∈ others, service.snake = joined start peer.snake

section Joined

variable {left right other rest suffix : String}

/-- A joined name has one underscore between its parts. -/
theorem toList_joined : (joined left right).toList = left.toList ++ '_' :: right.toList := by
  rw [joined, String.toList_append, String.toList_append, List.append_assoc]
  rfl

/-- A joined text has one split, up to what one of its parts has of the other. -/
theorem joined_eq_joined_iff : joined left right = joined other rest ↔
    (left = other ∧ right = rest) ∨
      (∃ moved, other = joined left moved ∧ right = joined moved rest) ∨
      ∃ moved, left = joined other moved ∧ rest = joined moved right := by
  simp only [← String.toList_inj, toList_joined, append_cons_eq_append_cons]
  have texts (condition : List Char → Prop) :
      (∃ moved, condition moved) ↔ ∃ moved : String, condition moved.toList :=
    ⟨fun found => found.imp' String.ofList fun _ holds => String.toList_ofList.symm ▸ holds,
      fun found => found.imp' String.toList fun _ holds => holds⟩
  rw [texts, texts]

/-- A suffix of a joined name is one of its second part. -/
theorem joined_append : joined left (right ++ suffix) = joined left right ++ suffix := by
  rw [joined, joined, ← String.append_assoc]

/-- A common suffix may be dropped from an equation of names. -/
theorem append_suffix_inj : left ++ suffix = right ++ suffix ↔ left = right := by
  rw [← String.toList_inj, String.toList_append, String.toList_append, List.append_left_inj,
    String.toList_inj]

/-- A joined name ends as its second part does. -/
theorem lastChar_joined (left : String) (filled : (lastChar right).isSome) :
    lastChar (joined left right) = lastChar right := by
  rw [joined, lastChar_append, Option.or_of_isSome filled]

end Joined

section Stages

variable {env other : ProcessEnv} {services others : Set ServiceName} {start : String}
  {service peer : ServiceName} {first second : String}

/-- The name of every service's queue ends in e. -/
theorem lastChar_queue : lastChar service.queue = some 'e' := by
  rw [ServiceName.queue, lastChar_append]
  rfl

theorem lastChar_deadLetters : lastChar (service.queue ++ ".dlq") = some 'q' := by
  rw [lastChar_append]
  rfl

/-- A service's queue is a peer's with a start in front only when their names are so. -/
theorem queue_eq_joined_iff :
    service.queue = joined start peer.queue ↔ service.snake = joined start peer.snake := by
  rw [ServiceName.queue, ServiceName.queue, joined_append, append_suffix_inj]

/-- A local name is not empty. -/
theorem LocalName.filled (name : LocalName services first) : (lastChar first).isSome := by
  cases name with
  | queue member => rw [lastChar_queue, Option.isSome_some]
  | deadLetters member => rw [lastChar_deadLetters, Option.isSome_some]
  | events => rfl
  | eventsDlx => rfl

/-- A name without an underscore is not a joined one. -/
theorem ne_joined {text : String} (plain : '_' ∉ text.toList) : text ≠ joined start second := by
  rintro rfl
  rw [toList_joined] at plain
  exact plain (List.mem_append_right _ List.mem_cons_self)

/-- If a local name ends in another, both are queues or both are dead-letter queues, so one
service's name ends in the other's. -/
theorem LocalName.overlap (name : LocalName services first) (inner : LocalName others second)
    (same : first = joined start second) :
    ∃ service ∈ services, ∃ peer ∈ others, service.snake = joined start peer.snake := by
  have last := lastChar_joined start inner.filled
  rw [← same] at last
  cases name with
  | events => exact (ne_joined (by decide) same).elim
  | eventsDlx => exact (ne_joined (by decide) same).elim
  | queue member =>
      cases inner with
      | queue peerMember => exact ⟨_, member, _, peerMember, queue_eq_joined_iff.mp same⟩
      | deadLetters peerMember =>
          rw [lastChar_queue, lastChar_deadLetters] at last
          exact absurd last (by decide)
      | events =>
          rw [lastChar_queue] at last
          exact absurd last (by decide)
      | eventsDlx =>
          rw [lastChar_queue] at last
          exact absurd last (by decide)
  | deadLetters member =>
      cases inner with
      | deadLetters peerMember =>
          rw [joined_append, append_suffix_inj] at same
          exact ⟨_, member, _, peerMember, queue_eq_joined_iff.mp same⟩
      | queue peerMember =>
          rw [lastChar_queue, lastChar_deadLetters] at last
          exact absurd last (by decide)
      | events =>
          rw [lastChar_deadLetters] at last
          exact absurd last (by decide)
      | eventsDlx =>
          rw [lastChar_deadLetters] at last
          exact absurd last (by decide)

/-- Stages whose prefixes and services overlap share a queue. -/
theorem Overlaps.not_disjoint (overlap : Overlaps env other services others) :
    ¬Disjoint (brokerNames env services) (brokerNames other others) := by
  obtain ⟨start, prefixes, service, member, peer, peerMember, names⟩ := overlap
  rw [Set.not_disjoint_iff]
  refine ⟨_, ⟨_, .queue member, rfl⟩, _, .queue peerMember, ?_⟩
  apply joined_eq_joined_iff.mpr
  exact .inr (.inr ⟨start, prefixes, queue_eq_joined_iff.mpr names⟩)

/-- The names of two stages are disjoint exactly if their prefixes and services do not
overlap. -/
theorem disjoint_brokerNames_iff (distinct : getQueuePrefix env ≠ getQueuePrefix other)
    (services others : Set ServiceName) :
    Disjoint (brokerNames env (insert .user services)) (brokerNames other (insert .user others)) ↔
      ¬Overlaps env other (insert .user services) (insert .user others) ∧
        ¬Overlaps other env (insert .user others) (insert .user services) := by
  constructor
  · intro disjoint
    constructor
    · intro overlap
      exact overlap.not_disjoint disjoint
    · intro overlap
      exact overlap.not_disjoint disjoint.symm
  · intro apart
    obtain ⟨apart, otherApart⟩ := apart
    rw [Set.disjoint_left]
    intro name own foreign
    obtain ⟨first, localName, rfl⟩ := own
    obtain ⟨second, peerName, same⟩ := foreign
    rcases joined_eq_joined_iff.mp same with ⟨prefixes, -⟩ | ⟨start, prefixes, names⟩ |
      ⟨start, prefixes, names⟩
    · exact distinct prefixes.symm
    · exact otherApart ⟨start, prefixes, peerName.overlap localName names⟩
    · exact apart ⟨start, prefixes, localName.overlap peerName names⟩

end Stages

section UserUser

/-- An environment with a prefix. -/
def prefixEnv (queuePrefix : String) : ProcessEnv := fun name =>
  if name = "RMQ_QUEUE_PREFIX" then some queuePrefix else none

def userUser : ServiceName := ⟨"user-user", by decide⟩

/-- The premises are met by production and development with the user service only: the names
of the one are none of the other's. -/
theorem disjoint_brokerNames_iff_user :
    getQueuePrefix (prefixEnv "prod") ≠ getQueuePrefix (prefixEnv "dev") ∧
      Disjoint (brokerNames (prefixEnv "prod") (insert .user ∅))
        (brokerNames (prefixEnv "dev") (insert .user ∅)) := by
  have distinct : getQueuePrefix (prefixEnv "prod") ≠ getQueuePrefix (prefixEnv "dev") := by decide
  refine ⟨distinct, (disjoint_brokerNames_iff distinct ∅ ∅).mpr ⟨?_, ?_⟩⟩
  · intro overlap
    obtain ⟨start, prefixes, -⟩ := overlap
    have heads := congrArg (fun text => text.toList.head?) prefixes
    simp only [toList_joined] at heads
    cases heads
  · intro overlap
    obtain ⟨start, prefixes, -⟩ := overlap
    have heads := congrArg (fun text => text.toList.head?) prefixes
    simp only [toList_joined] at heads
    cases heads

/-- A service `user-user` under the prefix `dev` has the queue of the user service under
`dev_user`: the prefix is joined to the name by the underscore that names have as well. -/
theorem not_disjoint_brokerNames_of_userUser :
    ¬∀ (env other : ProcessEnv) (services others : Set ServiceName),
      getQueuePrefix env ≠ getQueuePrefix other →
        Disjoint (brokerNames env (insert .user services))
          (brokerNames other (insert .user others)) := by
  intro isolated
  have disjoint := isolated (prefixEnv "dev") (prefixEnv "dev_user") {userUser} ∅ (by decide)
  apply Overlaps.not_disjoint _ disjoint
  exact ⟨"user", rfl, userUser, .inr rfl, .user, .inl rfl, by decide⟩

end UserUser

end NestMonorepo
