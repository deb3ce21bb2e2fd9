import Mathlib.Data.List.Dedup
import Mathlib.Data.List.Infix

/-! # Topic exchanges

A topic exchange routes a message by its key, a text of words between dots. A queue is bound
to the exchange by a pattern, in which `*` stands for one word and `#` for any number of
words, and gets one copy of a message however many of its patterns match. Besides, a message
that names no exchange goes to the queue whose name is its key.
-/

namespace Amqp

/-! ## Patterns -/

/-- A word of a pattern. -/
inductive TopicWord where
  | word (text : List Char)
  | one
  | rest
  deriving DecidableEq, Repr

def TopicWord.parse (text : List Char) : TopicWord :=
  if text = ['*'] then .one else if text = ['#'] then .rest else .word text

/-- The words of a key or a pattern; the empty text has none. -/
def words (key : String) : List (List Char) :=
  if key = "" then [] else key.toList.splitOn '.'

/-- The words of a key are those that the pattern stands for. -/
def accepts : List TopicWord → List (List Char) → Bool
  | [], key => key.isEmpty
  | .word text :: pattern, key => key.head? == some text && accepts pattern key.tail
  | .one :: pattern, key => !key.isEmpty && accepts pattern key.tail
  | .rest :: pattern, key => key.tails.any fun left => accepts pattern left

/-- A message with the key goes where the pattern is bound. -/
def Matches (pattern key : String) : Prop :=
  accepts ((words pattern).map .parse) (words key) = true

instance (pattern key : String) : Decidable (Matches pattern key) :=
  inferInstanceAs (Decidable (_ = _))

/-- A pattern without wildcards. -/
def Literal (pattern : String) : Prop := ∀ text ∈ words pattern, text ≠ ['*'] ∧ text ≠ ['#']

instance (pattern : String) : Decidable (Literal pattern) := List.decidableBAll _ _

section Patterns

variable {text : List Char} {texts key : List (List Char)} {pattern : List TopicWord}
  {name other : String}

/-- A word that is not a wildcard stands for itself. -/
theorem parse_of_literal (one : text ≠ ['*']) (rest : text ≠ ['#']) :
    TopicWord.parse text = .word text := by
  rw [TopicWord.parse, if_neg one, if_neg rest]

/-- The empty pattern accepts the empty key only. -/
@[simp] theorem accepts_nil : accepts [] key = true ↔ key = [] := by
  rw [accepts, List.isEmpty_iff]

/-- A literal word accepts itself in front of what the rest of the pattern accepts. -/
theorem accepts_word : accepts (.word text :: pattern) key = true ↔
    ∃ left, key = text :: left ∧ accepts pattern left = true := by
  rw [accepts, Bool.and_eq_true, beq_iff_eq, List.head?_eq_some_iff]
  constructor
  · intro accepted
    obtain ⟨⟨left, split⟩, rest⟩ := accepted
    subst split
    exact ⟨left, rfl, rest⟩
  · intro accepted
    obtain ⟨left, split, rest⟩ := accepted
    subst split
    exact ⟨⟨left, rfl⟩, rest⟩

/-- A star accepts any one word in front of what the rest of the pattern accepts. -/
theorem accepts_one : accepts (.one :: pattern) key = true ↔
    ∃ first left, key = first :: left ∧ accepts pattern left = true := by
  rw [accepts, Bool.and_eq_true, Bool.not_eq_true', List.isEmpty_eq_false_iff_exists_mem]
  cases key with
  | nil => simp only [List.not_mem_nil, exists_false, false_and, reduceCtorEq]
  | cons first left =>
      constructor
      · exact fun accepted => ⟨first, left, rfl, accepted.2⟩
      · intro accepted
        obtain ⟨_, _, split, rest⟩ := accepted
        cases split
        exact ⟨⟨first, List.mem_cons_self⟩, rest⟩

/-- A hash accepts any number of words, none included, in front of what the rest of the
pattern accepts. -/
theorem accepts_rest : accepts (.rest :: pattern) key = true ↔
    ∃ left, left <:+ key ∧ accepts pattern left = true := by
  rw [accepts, List.any_eq_true]
  simp only [List.mem_tails]

/-- A pattern without wildcards stands for its own words. -/
theorem accepts_literal : accepts (texts.map .word) key = true ↔ key = texts := by
  induction texts generalizing key with
  | nil => exact accepts_nil
  | cons text texts ih =>
      rw [List.map_cons, accepts_word]
      constructor
      · intro accepted
        obtain ⟨left, split, rest⟩ := accepted
        rw [split, ih.mp rest]
      · intro same
        exact ⟨texts, same, ih.mpr rfl⟩

/-- Read as a pattern, a key matches itself, wildcards or not. -/
theorem accepts_self (key : List (List Char)) : accepts (key.map .parse) key = true := by
  induction key with
  | nil => exact accepts_nil.mpr rfl
  | cons text key ih =>
      rw [List.map_cons, TopicWord.parse]
      split
      · exact accepts_one.mpr ⟨text, key, rfl, ih⟩
      · split
        · exact accepts_rest.mpr ⟨key, List.suffix_cons text key, ih⟩
        · exact accepts_word.mpr ⟨key, rfl, ih⟩

/-- A literal last word of a pattern is the last word of every key it matches. The induction
is on the pattern; only a hash lets the key be longer than what is left of it. -/
theorem getLast?_of_accepts (accepted : accepts (pattern ++ [.word text]) key = true) :
    key.getLast? = some text := by
  induction pattern generalizing key with
  | nil =>
      obtain ⟨left, split, rest⟩ := accepts_word.mp accepted
      rw [split, accepts_nil.mp rest, List.getLast?_singleton]
  | cons first pattern ih =>
      rw [List.cons_append] at accepted
      have step {head : List Char} {left : List (List Char)} (last : left.getLast? = some text) :
          (head :: left).getLast? = some text := by
        rw [List.getLast?_cons, last, Option.getD_some]
      cases first with
      | word head =>
          obtain ⟨left, split, rest⟩ := accepts_word.mp accepted
          rw [split]
          exact step (ih rest)
      | one =>
          obtain ⟨head, left, split, rest⟩ := accepts_one.mp accepted
          rw [split]
          exact step (ih rest)
      | rest =>
          obtain ⟨left, ⟨before, split⟩, rest⟩ := accepts_rest.mp accepted
          rw [← split, List.getLast?_append, ih rest, Option.some_or]

/-- A name is determined by its words. -/
theorem words_inj : words name = words other ↔ name = other := by
  constructor
  · intro same
    have filled (text : String) (present : text ≠ "") :
        ['.'].intercalate (words text) = text.toList := by
      rw [words, if_neg present, List.intercalate_splitOn]
    have never (text : String) (present : text ≠ "") : words text ≠ [] := by
      rw [words, if_neg present]
      exact List.splitOn_ne_nil _ _
    by_cases empty : name = ""
    · by_cases otherEmpty : other = ""
      · rw [empty, otherEmpty]
      · rw [words, if_pos empty] at same
        exact absurd same.symm (never other otherEmpty)
    · by_cases otherEmpty : other = ""
      · rw [words.eq_def other, if_pos otherEmpty] at same
        exact absurd same (never name empty)
      · rw [← String.toList_inj, ← filled name empty, ← filled other otherEmpty, same]
  · exact congrArg words

/-- A pattern without wildcards matches one key. -/
theorem Literal.matches_iff (literal : Literal name) : Matches name other ↔ other = name := by
  have parsed : (words name).map TopicWord.parse = (words name).map .word :=
    List.map_congr_left fun text member => parse_of_literal (literal text member).1
      (literal text member).2
  rw [Matches, parsed, accepts_literal, words_inj]

/-- A routing key matches itself as a binding key, whatever wildcards it spells. -/
theorem matches_self (name : String) : Matches name name := accepts_self _

/-- The words of a key: those of its start, the last of them continued by an end without
dots. -/
theorem exists_words_append (left : String) : ∃ front last, ∀ right : String,
    '.' ∉ right.toList → right ≠ "" → words (left ++ right) = front ++ [last ++ right.toList] := by
  have filled {right : String} (present : right ≠ "") : left ++ right ≠ "" := by
    intro empty
    have none := congrArg String.toList empty
    rw [String.toList_append] at none
    exact present (String.toList_inj.mp (List.append_eq_nil_iff.mp none).2)
  by_cases dotted : '.' ∈ left.toList
  · obtain ⟨last, front, split, plain⟩ :=
      List.eq_append_cons_of_mem (List.mem_reverse.mpr dotted)
    have chars : left.toList = front.reverse ++ '.' :: last.reverse := by
      rw [← List.reverse_reverse left.toList, split, List.reverse_append, List.reverse_cons,
        List.append_assoc, List.singleton_append]
    refine ⟨front.reverse.splitOn '.', last.reverse, fun right absent present => ?_⟩
    have none : '.' ∉ last.reverse ++ right.toList := by
      rw [List.mem_append, List.mem_reverse, not_or]
      exact ⟨plain, absent⟩
    rw [words, if_neg (filled present), String.toList_append, chars, List.append_assoc,
      List.cons_append, List.splitOn_append_cons_self, List.splitOn_eq_singleton none]
  · refine ⟨[], left.toList, fun right absent present => ?_⟩
    have none : '.' ∉ left.toList ++ right.toList := by
      rw [List.mem_append, not_or]
      exact ⟨dotted, absent⟩
    rw [words, if_neg (filled present), String.toList_append, List.splitOn_eq_singleton none]
    rfl

/-- Of the texts that continue the same start with a word that is no wildcard, each matches
itself only. -/
theorem matches_append_iff {left right other : String} (plain : '.' ∉ right.toList)
    (otherPlain : '.' ∉ other.toList) (long : 1 < right.toList.length) (present : other ≠ "") :
    Matches (left ++ right) (left ++ other) ↔ right = other := by
  constructor
  · intro matching
    obtain ⟨front, last, spelled⟩ := exists_words_append left
    have filled : right ≠ "" := by
      intro empty
      rw [empty] at long
      exact absurd long (by decide)
    have literal (char : Char) : last ++ right.toList ≠ [char] := by
      intro single
      have lengths := congrArg List.length single
      rw [List.length_append, List.length_singleton] at lengths
      omega
    rw [Matches, spelled right plain filled, spelled other otherPlain present, List.map_append,
      List.map_singleton, parse_of_literal (literal _) (literal _)] at matching
    have same := getLast?_of_accepts matching
    rw [List.getLast?_concat, Option.some_inj, List.append_right_inj, String.toList_inj] at same
    exact same.symm
  · intro same
    rw [same]
    exact matches_self _

end Patterns

/-! ## Brokers -/

structure Binding where
  exchange : String
  pattern : String
  queue : String
  deriving DecidableEq, Repr

/-- What a client asks a broker to have; what it has already, it keeps. -/
inductive Declaration where
  | assertExchange (exchange : String)
  | assertQueue (queue : String)
  | bindQueue (queue exchange pattern : String)
  deriving DecidableEq, Repr

/-- A broker's topic exchanges, queues and bindings, and what is in the queues. It only binds
a queue it has to an exchange it has. -/
structure Broker (Item : Type) where
  exchanges : List String
  queues : List String
  bindings : List Binding
  contents : String → List Item
  bound : ∀ binding ∈ bindings, binding.exchange ∈ exchanges ∧ binding.queue ∈ queues

namespace Broker

variable {Item : Type}

def empty : Broker Item := ⟨[], [], [], fun _ => [], fun _ member => by cases member⟩

def assertExchange (exchange : String) (broker : Broker Item) : Broker Item :=
  { broker with
    exchanges := broker.exchanges.insert exchange
    bound := fun binding member => (broker.bound binding member).imp_left List.mem_insert_of_mem }

def assertQueue (queue : String) (broker : Broker Item) : Broker Item :=
  { broker with
    queues := broker.queues.insert queue
    bound := fun binding member => (broker.bound binding member).imp_right List.mem_insert_of_mem }

/-- A queue or an exchange that is not there fails the request. -/
def bindQueue (queue exchange pattern : String) (broker : Broker Item) : Option (Broker Item) :=
  if declared : exchange ∈ broker.exchanges ∧ queue ∈ broker.queues then
    some { broker with
      bindings := broker.bindings.insert ⟨exchange, pattern, queue⟩
      bound := fun binding member => by
        rcases List.mem_insert_iff.mp member with same | before
        · exact same ▸ declared
        · exact broker.bound binding before }
  else none

def declare : Declaration → Broker Item → Option (Broker Item)
  | .assertExchange exchange, broker => some (broker.assertExchange exchange)
  | .assertQueue queue, broker => some (broker.assertQueue queue)
  | .bindQueue queue exchange pattern, broker => broker.bindQueue queue exchange pattern

/-- Declare one thing after another, up to the first that fails. -/
def declareAll : List Declaration → Broker Item → Broker Item × Bool
  | [], broker => (broker, true)
  | first :: rest, broker =>
      match broker.declare first with
      | some declared => declareAll rest declared
      | none => (broker, false)

/-- The exchange that every queue is bound to under its own name, without being asked. -/
def defaultExchange : String := ""

/-- The queues that get a copy. -/
def targets (exchange key : String) (broker : Broker Item) : List String :=
  if exchange = defaultExchange then
    if key ∈ broker.queues then [key] else []
  else
    ((broker.bindings.filter fun binding =>
      binding.exchange = exchange ∧ Matches binding.pattern key).map Binding.queue).dedup

/-- The broker with one more item in each of the queues. -/
def route (exchange key : String) (item : Item) (broker : Broker Item) : Broker Item :=
  { broker with
    contents := fun queue =>
      if queue ∈ broker.targets exchange key then broker.contents queue ++ [item]
      else broker.contents queue }

/-- The oldest item of a queue, and the broker without it. -/
def take (queue : String) (broker : Broker Item) : Option (Item × Broker Item) :=
  match broker.contents queue with
  | [] => none
  | item :: rest => some (item, { broker with
      contents := fun name => if name = queue then rest else broker.contents name })

variable {broker : Broker Item} {exchange key queue pattern : String} {item : Item}
  {declaration : Declaration} {binding : Binding}

/-- Routing a message changes no binding. -/
@[simp] theorem route_bindings : (broker.route exchange key item).bindings = broker.bindings := rfl

/-- In a new broker every queue is empty. -/
@[simp] theorem contents_empty (queue : String) : (empty : Broker Item).contents queue = [] := rfl

/-- A topic exchange routes to the queues that are bound to it by a pattern for the key. -/
theorem mem_targets (named : exchange ≠ defaultExchange) :
    queue ∈ broker.targets exchange key ↔
      ∃ pattern, ⟨exchange, pattern, queue⟩ ∈ broker.bindings ∧ Matches pattern key := by
  rw [targets, if_neg named, List.mem_dedup, List.mem_map]
  constructor
  · intro target
    obtain ⟨binding, member, rfl⟩ := target
    obtain ⟨isBound, matching⟩ := List.mem_filter.mp member
    obtain ⟨rfl, accepted⟩ := of_decide_eq_true matching
    exact ⟨binding.pattern, isBound, accepted⟩
  · intro target
    obtain ⟨pattern, isBound, accepted⟩ := target
    exact ⟨_, List.mem_filter.mpr ⟨isBound, decide_eq_true ⟨rfl, accepted⟩⟩, rfl⟩

/-- The default exchange routes to no other queue than the one that the key names. -/
theorem eq_of_mem_targets_default (target : queue ∈ broker.targets defaultExchange key) :
    queue = key := by
  rw [targets, if_pos rfl] at target
  split at target
  · exact List.mem_singleton.mp target
  · cases target

/-- A message is routed to a queue at most once, however many bindings match it. -/
theorem nodup_targets (exchange key : String) (broker : Broker Item) :
    (broker.targets exchange key).Nodup := by
  unfold targets
  split
  · split
    · exact List.nodup_singleton _
    · exact List.nodup_nil
  · exact List.nodup_dedup _

/-- Taking from a queue removes its first message and leaves bindings and other queues alone. -/
theorem take_eq_some {taken : Broker Item} (took : broker.take queue = some (item, taken)) :
    broker.contents queue = item :: taken.contents queue ∧ taken.bindings = broker.bindings ∧
      ∀ name, name ≠ queue → taken.contents name = broker.contents name := by
  unfold take at took
  split at took
  · cases took
  · rename_i first rest present
    cases took
    refine ⟨?_, rfl, fun name other => if_neg other⟩
    rw [present]
    exact congrArg _ (if_pos rfl).symm

/-- What a declaration that succeeds leaves behind: the queues' contents stay, and a binding
is added only by the request for it. -/
theorem declare_eq_some {declared : Broker Item}
    (done : broker.declare declaration = some declared) :
    declared.contents = broker.contents ∧ ∀ binding, binding ∈ declared.bindings ↔
      binding ∈ broker.bindings ∨
        declaration = .bindQueue binding.queue binding.exchange binding.pattern := by
  cases declaration with
  | assertExchange name =>
      cases done
      refine ⟨rfl, fun binding => ⟨.inl, fun kept => kept.resolve_right ?_⟩⟩
      intro impossible
      cases impossible
  | assertQueue name =>
      cases done
      refine ⟨rfl, fun binding => ⟨.inl, fun kept => kept.resolve_right ?_⟩⟩
      intro impossible
      cases impossible
  | bindQueue queue exchange pattern =>
      rw [declare, bindQueue] at done
      split at done
      · cases done
        refine ⟨rfl, fun binding => ?_⟩
        rw [List.mem_insert_iff, or_comm]
        apply or_congr_right
        constructor
        · intro same
          rw [same]
        · intro same
          cases same
          rfl
      · cases done

/-- What a list of declarations leaves behind. The induction is on the list, since the first
declaration that fails ends it with what was declared so far. -/
theorem declareAll_spec (declarations : List Declaration) (broker : Broker Item) :
    (broker.declareAll declarations).1.contents = broker.contents ∧
      broker.bindings ⊆ (broker.declareAll declarations).1.bindings ∧
      (∀ binding ∈ (broker.declareAll declarations).1.bindings, binding ∈ broker.bindings ∨
        .bindQueue binding.queue binding.exchange binding.pattern ∈ declarations) ∧
      ((broker.declareAll declarations).2 = true → ∀ queue exchange pattern,
        .bindQueue queue exchange pattern ∈ declarations →
          ⟨exchange, pattern, queue⟩ ∈ (broker.declareAll declarations).1.bindings) := by
  induction declarations generalizing broker with
  | nil =>
      refine ⟨rfl, fun _ member => member, fun binding member => .inl member, ?_⟩
      intro _ queue exchange pattern absent
      cases absent
  | cons first rest ih =>
      rw [declareAll]
      cases done : broker.declare first with
      | none =>
          refine ⟨rfl, fun _ member => member, fun binding member => .inl member, ?_⟩
          intro impossible
          cases impossible
      | some declared =>
          obtain ⟨contents, bindings⟩ := declare_eq_some done
          obtain ⟨same, grows, origin, complete⟩ := ih declared
          refine ⟨same.trans contents,
            fun binding member => grows ((bindings binding).mpr (.inl member)), ?_, ?_⟩
          · intro binding member
            rcases origin binding member with before | requested
            · apply ((bindings binding).mp before).imp_right
              intro now
              rw [now]
              exact List.mem_cons_self
            · exact .inr (List.mem_cons_of_mem _ requested)
          · intro succeeded queue exchange pattern requested
            rcases List.mem_cons.mp requested with now | later
            · exact grows ((bindings _).mpr (.inr now.symm))
            · exact complete succeeded queue exchange pattern later

end Broker

end Amqp
