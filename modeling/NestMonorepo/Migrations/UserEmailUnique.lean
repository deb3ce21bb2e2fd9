import Mathlib.Data.List.Dedup
import NestMonorepo.Common.Errors
import NestMonorepo.Concurrency.Faults
import NestMonorepo.Database.Entities

/-! # Migration 005: the unique index on `users.email`

The migration looks for active users that share an email, drops the indexes on `email`
that are not unique, and creates the unique one. The look, the drops and the creation
each go by other documents or indexes, and every call to the database may fail.
-/

namespace NestMonorepo

open Concurrency

/-! ## The collection -/

/-- A document of `users`, as far as the migration and its index look at it. -/
structure UserDocument where
  id : String
  email : Option Json := none
  deletedAt : Option Json := none
  deriving DecidableEq

/-- An index as `indexes()` lists it. -/
structure IndexSpec where
  name : String
  key : List (String × Json)
  unique : Bool := false
  sparse : Bool := false
  deriving DecidableEq

structure UsersCollection where
  documents : List UserDocument
  indexes : List IndexSpec
  deriving DecidableEq

/-- `{ $type: 'string' }`: a string, or an array with one. -/
def isStringTyped : Json → Bool
  | .string _ => true
  | .array items => items.any fun item => match item with
      | .string _ => true
      | _ => false
  | _ => false

/-- `{ deletedAt: null }`: the field is missing or `null`, or an array with `null`. -/
def equalsNull : Option Json → Bool
  | none => true
  | some .null => true
  | some (.array items) => items.any fun item => decide (item = .null)
  | _ => false

namespace UsersCollection

/-- The emails of the documents that pass the first `$match`. -/
def activeEmails (users : UsersCollection) : List Json :=
  users.documents.filterMap fun user =>
    user.email.filter fun email => isStringTyped email && equalsNull user.deletedAt

/-- The emails of the documents that contain the field. -/
def indexedEmails (users : UsersCollection) : List Json :=
  users.documents.filterMap UserDocument.email

/-- No two active users share an email. -/
def ActiveApart (users : UsersCollection) : Prop := users.activeEmails.Nodup

/-- No two documents that contain the field share its value. -/
def Indexable (users : UsersCollection) : Prop := users.indexedEmails.Nodup

instance (users : UsersCollection) : Decidable users.ActiveApart :=
  inferInstanceAs (Decidable users.activeEmails.Nodup)

instance (users : UsersCollection) : Decidable users.Indexable :=
  inferInstanceAs (Decidable users.indexedEmails.Nodup)

end UsersCollection

/-- A group of the aggregation. -/
structure EmailGroup where
  email : Json
  count : Nat
  ids : List String
  deriving DecidableEq

/-- The aggregation: the first twenty emails that more than one active user has. -/
def UsersCollection.duplicates (users : UsersCollection) : List EmailGroup :=
  ((users.activeEmails.dedup.map fun email =>
      { email
        count := users.activeEmails.count email
        ids := (users.documents.filter fun user => decide (user.email = some email) &&
          isStringTyped email && equalsNull user.deletedAt).map UserDocument.id
        : EmailGroup }).filter fun group => decide (1 < group.count)).take 20

/-- The script finds no duplicates exactly when no two active users share an email. -/
theorem UsersCollection.duplicates_eq_nil {users : UsersCollection} :
    users.duplicates = [] ↔ users.ActiveApart := by
  rw [duplicates, List.take_eq_nil_iff, or_iff_right (by decide), List.filter_eq_nil_iff,
    ActiveApart, List.nodup_iff_count_le_one]
  constructor
  · intro single email
    by_cases member : email ∈ users.activeEmails
    · have alone := single _ (List.mem_map_of_mem (List.mem_dedup.mpr member))
      simpa only [decide_eq_true_eq, Nat.not_lt] using alone
    · rw [List.count_eq_zero_of_not_mem member]
      exact Nat.zero_le 1
  · intro single group member
    obtain ⟨email, -, rfl⟩ := List.mem_map.mp member
    simpa only [decide_eq_true_eq, Nat.not_lt] using single email

/-! ## The migration -/

/-- The error of the pre-flight. -/
def duplicatesFound (groups : List EmailGroup) : ServiceError :=
  .other ("Cannot create unique index on users.email — " ++ toString groups.length ++
    " duplicate(s) found: " ++
    "; ".intercalate (groups.map fun group => group.email.text ++ " (" ++
      toString group.count ++ " accounts: " ++ ", ".intercalate group.ids ++ ")") ++
    ". Resolve manually (merge or delete duplicates) before re-running this migration.")

inductive EmailCommand where
  | aggregate
  | indexes
  | dropIndex (name : String)
  | createIndex (index : IndexSpec)
  deriving DecidableEq

@[reducible] def EmailReply : EmailCommand → Type
  | .aggregate => Except MongoError (List EmailGroup)
  | .indexes => Except MongoError (List IndexSpec)
  | .dropIndex _ => Except MongoError Unit
  | .createIndex _ => Except MongoError Unit

namespace UserEmailUnique

abbrev Script (α : Type) : Type := Program EmailCommand EmailReply ServiceError α

/-- Continue with a reply; its error is thrown. -/
def orThrow {α : Type} (reply : Except MongoError α) : Script α :=
  Program.ofExcept (reply.mapError .mongo)

/-- An index on `email` alone that is not unique. -/
def isLegacy (index : IndexSpec) : Bool :=
  index.key.length == 1 && decide (index.key.lookup "email" = some (.number 1)) && !index.unique

/-- The loop over the listed indexes; a drop that fails is passed over. -/
def dropLegacy : List IndexSpec → Script Unit
  | [] => pure ()
  | index :: rest =>
      if isLegacy index then do
        let _ ← Program.perform (.dropIndex index.name)
        dropLegacy rest
      else dropLegacy rest

def usersEmailUnique : IndexSpec where
  name := "users_email_unique"
  key := [("email", .number 1)]
  unique := true
  sparse := true

def up : Script Unit := do
  let dups ← Program.perform .aggregate >>= orThrow
  if dups ≠ [] then .fail (duplicatesFound dups)
  else do
    let existing ← Program.perform .indexes >>= orThrow
    dropLegacy existing
    Program.perform (.createIndex usersEmailUnique) >>= orThrow

end UserEmailUnique

/-- The calls that fail. -/
structure CallFaults where
  aggregate : Bool := false
  indexes : Bool := false
  dropIndex : String → Bool := fun _ => false
  createIndex : Bool := false

def callFailed : MongoError := { code := 6, message := "connection closed" }

/-- What createIndex answers where documents share a value. -/
def emailsShared : MongoError where
  code := 11000
  keyPattern := some ["email"]
  message := "E11000 duplicate key error index: users_email_unique"

namespace UsersCollection

def without (users : UsersCollection) (names : List String) : UsersCollection :=
  { users with indexes := users.indexes.filter fun index => index.name ∉ names }

/-- An index that is there already is not created again. -/
def withIndex (users : UsersCollection) (index : IndexSpec) : UsersCollection :=
  { users with
    indexes := if index ∈ users.indexes then users.indexes else users.indexes ++ [index] }

def exec (faults : CallFaults) :
    (command : EmailCommand) → UsersCollection → UsersCollection × EmailReply command
  | .aggregate, users =>
      (users, if faults.aggregate then .error callFailed else .ok users.duplicates)
  | .indexes, users => (users, if faults.indexes then .error callFailed else .ok users.indexes)
  | .dropIndex name, users =>
      if faults.dropIndex name then (users, .error callFailed) else (users.without [name], .ok ())
  | .createIndex index, users =>
      if faults.createIndex then (users, .error callFailed)
      else if users.Indexable then (users.withIndex index, .ok ())
      else (users, .error emailsShared)

end UsersCollection

open UserEmailUnique

/-- The migration with some calls failing. -/
def upUnder (faults : CallFaults) (users : UsersCollection) :
    UsersCollection × Except ServiceError Unit :=
  up.run (UsersCollection.exec faults) users

/-- Any single call may fail. -/
def UsersCollection.attempts : Attempts EmailCommand EmailReply UsersCollection :=
  fun command users after => ∃ faults, after = UsersCollection.exec faults command users

/-! ## One run -/

section Run

variable {users : UsersCollection} {faults : CallFaults}

/-- The names under which indexes are dropped. -/
def droppedNames (faults : CallFaults) (existing : List IndexSpec) : List String :=
  (existing.filter fun index => isLegacy index && !faults.dropIndex index.name).map IndexSpec.name

/-- Dropped are the legacy indexes whose call does not fail. -/
theorem mem_droppedNames {existing : List IndexSpec} {name : String} :
    name ∈ droppedNames faults existing ↔ ∃ index ∈ existing,
      (isLegacy index = true ∧ faults.dropIndex index.name = false) ∧ index.name = name := by
  simp only [droppedNames, List.mem_map, List.mem_filter, Bool.and_eq_true, Bool.not_eq_true',
    and_assoc]

/-- Dropping some indexes and then others is dropping all of them. -/
theorem without_without (first second : List String) :
    (users.without first).without second = users.without (first ++ second) := by
  simp only [UsersCollection.without, List.filter_filter, UsersCollection.mk.injEq, true_and]
  apply List.filter_congr
  intro index _
  rw [Bool.and_comm, ← Bool.decide_and]
  simp only [List.mem_append, not_or]

/-- Dropping none changes nothing. -/
theorem without_nil : users.without [] = users := by
  simp only [UsersCollection.without, List.not_mem_nil, not_false_eq_true, decide_true,
    List.filter_true]

/-- Dropping the legacy indexes goes on after every single failure, so what is left is the
collection without those whose call succeeded. -/
theorem dropLegacy_run {α : Type} (existing : List IndexSpec) (next : Unit → Script α) :
    (dropLegacy existing >>= next).run (UsersCollection.exec faults) users =
      (next ()).run (UsersCollection.exec faults)
        (users.without (droppedNames faults existing)) := by
  induction existing generalizing users with
  | nil =>
      rw [droppedNames, List.filter_nil, List.map_nil, without_nil]
      rfl
  | cons index rest ih =>
      rw [dropLegacy, droppedNames, List.filter_cons]
      cases legacy : isLegacy index with
      | false => exact ih
      | true =>
          simp only [↓reduceIte, Program.perform_bind, Program.call_bind, Program.run_call,
            UsersCollection.exec, Bool.true_and]
          cases fails : faults.dropIndex index.name with
          | true => exact ih
          | false =>
              simp only [Bool.false_eq_true, ↓reduceIte, Bool.not_false, List.map_cons, ih,
                without_without, List.singleton_append, droppedNames]

/-- The run, step by step: the pre-flight, the listing of the indexes, the drops and the
creation, each with the calls of it that may fail. -/
theorem upUnder_eq : upUnder faults users =
    if faults.aggregate then (users, .error (.mongo callFailed))
    else if users.duplicates ≠ [] then (users, .error (duplicatesFound users.duplicates))
    else if faults.indexes then (users, .error (.mongo callFailed))
    else
      let dropped := users.without (droppedNames faults users.indexes)
      if faults.createIndex then (dropped, .error (.mongo callFailed))
      else if users.Indexable then (dropped.withIndex usersEmailUnique, .ok ())
      else (dropped, .error (.mongo emailsShared)) := by
  simp only [upUnder, up, orThrow, Program.perform_bind, Program.call_bind, Program.run_call,
    UsersCollection.exec]
  cases faults.aggregate with
  | true => rfl
  | false =>
      simp only [Bool.false_eq_true, ↓reduceIte, Except.mapError, Program.ofExcept_ok,
        Program.ret_bind]
      split
      · rfl
      · simp only [Program.run_call, UsersCollection.exec]
        cases faults.indexes with
        | true => rfl
        | false =>
            simp only [Bool.false_eq_true, ↓reduceIte, Program.ofExcept_ok, Program.ret_bind,
              dropLegacy_run, Program.run_call, UsersCollection.exec]
            cases faults.createIndex with
            | true => rfl
            | false =>
                simp only [Bool.false_eq_true, ↓reduceIte]
                by_cases indexable : users.Indexable
                · have same : (users.without (droppedNames faults users.indexes)).Indexable :=
                    indexable
                  simp only [indexable, same, ↓reduceIte]
                  rfl
                · have same : ¬(users.without (droppedNames faults users.indexes)).Indexable :=
                    indexable
                  simp only [indexable, same, ↓reduceIte]
                  rfl

end Run

/-! ## What is left of a run -/

/-- Both have the same indexes. -/
def SameIndexes (first second : UsersCollection) : Prop :=
  ∀ index, index ∈ first.indexes ↔ index ∈ second.indexes

/-- What a run may have come to: some of the drops, and then perhaps the creation. -/
inductive Partway (start : UsersCollection) : UsersCollection → Prop
  | untouched : Partway start start
  | dropped (names : List String) : start.ActiveApart →
      (∀ name ∈ names, name ∈ droppedNames {} start.indexes) → Partway start (start.without names)
  | created (names : List String) : start.ActiveApart →
      (∀ name ∈ names, name ∈ droppedNames {} start.indexes) → start.Indexable →
      Partway start ((start.without names).withIndex usersEmailUnique)

section Partial

variable {start later users : UsersCollection}

/-- At every moment of the dropping the collection is the one at the start without some of
its legacy indexes. -/
theorem dropLegacy_throughout {names : List String} (apart : start.ActiveApart)
    (inside : ∀ name ∈ names, name ∈ droppedNames {} start.indexes) (existing : List IndexSpec)
    (listed : ∀ index ∈ existing, index ∈ start.indexes) :
    (dropLegacy existing).Throughout UsersCollection.attempts (Partway start)
      (fun _ later => ∃ names, (∀ name ∈ names, name ∈ droppedNames {} start.indexes) ∧
        later = start.without names) (start.without names) := by
  induction existing generalizing names with
  | nil => exact ⟨.dropped names apart inside, names, inside, rfl⟩
  | cons index rest ih =>
      have others := fun other member => listed other (List.mem_cons_of_mem _ member)
      rw [dropLegacy]
      cases legacy : isLegacy index with
      | false => exact ih inside others
      | true =>
          refine ⟨.dropped names apart inside, fun after answered => ?_⟩
          obtain ⟨faults, rfl⟩ := answered
          simp only [UsersCollection.exec]
          split
          · exact ih inside others
          · rw [without_without]
            refine ih (fun name member => ?_) others
            rcases List.mem_append.mp member with old | new
            · exact inside name old
            · rw [List.mem_singleton.mp new]
              exact mem_droppedNames.mpr
                ⟨index, listed index List.mem_cons_self, ⟨legacy, rfl⟩, rfl⟩

/-- Whatever fails, and wherever a run is cut off, it has come to no more than the
pre-flight, some of the drops, or the creation after them. -/
theorem up_throughout : up.Throughout UsersCollection.attempts (Partway start)
    (fun _ _ => True) start := by
  refine ⟨.untouched, fun after answered => ?_⟩
  obtain ⟨faults, rfl⟩ := answered
  simp only [UsersCollection.exec]
  cases faults.aggregate with
  | true => exact ⟨.untouched, trivial⟩
  | false =>
      change Program.Throughout _ _ _ (if start.duplicates ≠ [] then _ else _) start
      by_cases found : start.duplicates = []
      · rw [if_neg (not_not.mpr found)]
        have apart := UsersCollection.duplicates_eq_nil.mp found
        refine ⟨.untouched, fun after answered => ?_⟩
        obtain ⟨faults, rfl⟩ := answered
        simp only [UsersCollection.exec]
        cases faults.indexes with
        | true => exact ⟨.untouched, trivial⟩
        | false =>
            have drops := @dropLegacy_throughout start [] apart
              (fun _ member => (List.not_mem_nil member).elim) start.indexes fun _ => id
            rw [without_nil] at drops
            refine drops.bind (fun _ _ partway _ => trivial) fun _ later partway left => ?_
            obtain ⟨names, inside, rfl⟩ := left
            refine ⟨partway, fun after answered => ?_⟩
            obtain ⟨faults, rfl⟩ := answered
            simp only [UsersCollection.exec]
            split
            · exact ⟨partway, trivial⟩
            · split
              · rename_i indexable
                exact ⟨.created names apart inside indexable, trivial⟩
              · exact ⟨partway, trivial⟩
      · rw [if_pos found]
        exact ⟨.untouched, trivial⟩

/-! ## Once more -/

/-- Creating the unique index adds it and no other. -/
theorem mem_withIndex {index : IndexSpec} : index ∈ (users.withIndex usersEmailUnique).indexes ↔
    index ∈ users.indexes ∨ index = usersEmailUnique := by
  rw [UsersCollection.withIndex]
  by_cases there : usersEmailUnique ∈ users.indexes
  · rw [if_pos there, iff_self_or]
    rintro rfl
    exact there
  · rw [if_neg there, List.mem_append, List.mem_singleton]

/-- The indexes left are those whose names were not dropped. -/
theorem mem_without {index : IndexSpec} {names : List String} :
    index ∈ (users.without names).indexes ↔ index ∈ users.indexes ∧ index.name ∉ names := by
  rw [UsersCollection.without, List.mem_filter, decide_eq_true_eq]

/-- The indexes after a run in which no call fails. -/
theorem mem_upUnder {index : IndexSpec} (apart : users.ActiveApart) :
    index ∈ (upUnder {} users).1.indexes ↔
      (index ∈ users.indexes ∧ index.name ∉ droppedNames {} users.indexes) ∨
        (users.Indexable ∧ index = usersEmailUnique) := by
  rw [upUnder_eq, UsersCollection.duplicates_eq_nil.mpr apart]
  simp only [Bool.false_eq_true, ↓reduceIte, ne_eq, not_true_eq_false]
  by_cases indexable : users.Indexable
  · simp only [indexable, ↓reduceIte, mem_withIndex, mem_without, true_and]
  · simp only [indexable, ↓reduceIte, mem_without, false_and, or_false]

/-- What is left to drop where some of it has been dropped already: a repeated run ends with
the same indexes. -/
theorem sameIndexes_of_left {names : List String} {created : Prop}
    (apart : start.ActiveApart) (documents : later.documents = start.documents)
    (inside : ∀ name ∈ names, name ∈ droppedNames {} start.indexes)
    (creates : created → start.Indexable)
    (left : ∀ index, index ∈ later.indexes ↔
      (index ∈ start.indexes ∧ index.name ∉ names) ∨ created ∧ index = usersEmailUnique) :
    SameIndexes (upUnder {} later).1 (upUnder {} start).1 := by
  intro index
  have apart' : later.ActiveApart := by
    rw [UsersCollection.ActiveApart, UsersCollection.activeEmails, documents]
    exact apart
  have indexable_iff : later.Indexable ↔ start.Indexable := by
    rw [UsersCollection.Indexable, UsersCollection.indexedEmails, documents]
    rfl
  have legacy_iff : ∀ other : IndexSpec, isLegacy other = true →
      (other ∈ later.indexes ↔ other ∈ start.indexes ∧ other.name ∉ names) := by
    intro other legacy
    rw [left other, or_iff_left]
    rintro ⟨-, rfl⟩
    cases legacy
  rw [mem_upUnder apart', mem_upUnder apart, indexable_iff]
  constructor
  · intro after
    rcases after with ⟨member, kept⟩ | new
    · rcases (left index).mp member with ⟨old, spared⟩ | ⟨created, same⟩
      · refine .inl ⟨old, fun named => kept ?_⟩
        obtain ⟨other, there, holds, same⟩ := mem_droppedNames.mp named
        refine mem_droppedNames.mpr ⟨other, (legacy_iff other holds.1).mpr ⟨there, ?_⟩, holds, same⟩
        rwa [same]
      · exact .inr ⟨creates created, same⟩
    · exact .inr new
  · intro after
    rcases after with ⟨member, kept⟩ | new
    · refine .inl ⟨(left index).mpr (.inl ⟨member, fun named => kept (inside _ named)⟩), ?_⟩
      intro named
      obtain ⟨other, there, holds, same⟩ := mem_droppedNames.mp named
      exact kept (mem_droppedNames.mpr
        ⟨other, ((legacy_iff other holds.1).mp there).1, holds, same⟩)
    · exact .inr new

/-- From wherever a run was cut off, the next one ends with the same indexes. -/
theorem sameIndexes_of_partway (partway : Partway start later) :
    SameIndexes (upUnder {} later).1 (upUnder {} start).1 := by
  cases partway with
  | untouched => exact fun _ => Iff.rfl
  | dropped names apart inside =>
      refine @sameIndexes_of_left start _ names False apart rfl inside False.elim fun index => ?_
      rw [mem_without, false_and, or_false]
  | created names apart inside indexable =>
      refine @sameIndexes_of_left start _ names True apart rfl inside (fun _ => indexable) ?_
      intro index
      rw [mem_withIndex, mem_without, true_and]

end Partial

/-! ## Safe to fail and to repeat -/

/-- What is asked of a migration of these users while some calls fail. -/
structure MigrationSafe (users : UsersCollection) (faults : CallFaults) : Prop where
  /-- If it throws, the indexes are as before. -/
  unchanged : ∀ error, (upUnder faults users).2 = .error error →
    SameIndexes (upUnder faults users).1 users
  /-- If the pre-flight passes, the creation succeeds unless the calls themselves fail. -/
  accepted : users.ActiveApart → faults.aggregate = false → faults.indexes = false →
    faults.createIndex = false → (upUnder faults users).2 = .ok ()
  /-- From every point of every run, whatever failed in it, another run ends with the indexes
  it would have ended with at first. -/
  repeatable : ∀ point later, up.Comes UsersCollection.attempts users point later →
    SameIndexes (upUnder {} later).1 (upUnder {} users).1

/-- The creation is not reached, or it fails with nothing dropped, or no document is in
its way. -/
def SafeWhen (users : UsersCollection) (faults : CallFaults) : Prop :=
  faults.aggregate = true ∨ ¬users.ActiveApart ∨ faults.indexes = true ∨
    if faults.createIndex then
      ∀ index ∈ users.indexes, isLegacy index = true → faults.dropIndex index.name = true
    else users.Indexable

section Law

variable {users : UsersCollection} {faults : CallFaults}

/-- Dropping nothing is the only way to leave all indexes. -/
theorem sameIndexes_without_iff :
    SameIndexes (users.without (droppedNames faults users.indexes)) users ↔
      ∀ index ∈ users.indexes, isLegacy index = true → faults.dropIndex index.name = true := by
  constructor
  · intro same index member legacy
    by_contra succeeds
    have named : index.name ∈ droppedNames faults users.indexes :=
      mem_droppedNames.mpr ⟨index, member, ⟨legacy, eq_false_of_ne_true succeeds⟩, rfl⟩
    exact (mem_without.mp ((same index).mpr member)).2 named
  · intro fails index
    rw [mem_without, and_iff_left_iff_imp]
    intro member named
    obtain ⟨other, there, ⟨legacy, succeeds⟩, -⟩ := mem_droppedNames.mp named
    rw [fails other there legacy] at succeeds
    cases succeeds

/-- Migration 005 is safe exactly under the conditions of `SafeWhen`, which speak of the
documents, the indexes and the calls that fail. -/
theorem migrationSafe_iff (users : UsersCollection) (faults : CallFaults) :
    MigrationSafe users faults ↔ SafeWhen users faults := by
  have repeatable : ∀ point later, up.Comes UsersCollection.attempts users point later →
      SameIndexes (upUnder {} later).1 (upUnder {} users).1 :=
    fun point later comes => sameIndexes_of_partway (up_throughout.comes comes).now
  have same : SameIndexes users users := fun _ => Iff.rfl
  have ran : upUnder faults users = _ := upUnder_eq
  unfold SafeWhen
  cases aggregate : faults.aggregate with
  | true =>
      rw [aggregate, if_pos rfl] at ran
      refine ⟨fun _ => .inl rfl, fun _ => ⟨fun _ _ => ?_, fun _ answers => ?_, repeatable⟩⟩
      · rw [ran]
        exact same
      · cases aggregate.symm.trans answers
  | false =>
      rw [aggregate, if_neg Bool.false_ne_true] at ran
      by_cases apart : users.ActiveApart
      swap
      · rw [if_pos fun none => apart (UsersCollection.duplicates_eq_nil.mp none)] at ran
        refine ⟨fun _ => .inr (.inl apart), fun _ => ⟨fun _ _ => ?_, fun passes => ?_, repeatable⟩⟩
        · rw [ran]
          exact same
        · exact (apart passes).elim
      rw [if_neg (not_not.mpr (UsersCollection.duplicates_eq_nil.mpr apart))] at ran
      cases listed : faults.indexes with
      | true =>
          rw [listed, if_pos rfl] at ran
          refine ⟨fun _ => .inr (.inr (.inl rfl)),
            fun _ => ⟨fun _ _ => ?_, fun _ _ answers => ?_, repeatable⟩⟩
          · rw [ran]
            exact same
          · cases listed.symm.trans answers
      | false =>
          rw [listed, if_neg Bool.false_ne_true] at ran
          simp only [Bool.false_eq_true, apart, not_true_eq_false, false_or]
          cases creates : faults.createIndex with
          | true =>
              simp only [creates, ↓reduceIte] at ran
              simp only [↓reduceIte]
              rw [← sameIndexes_without_iff]
              constructor
              · intro safe
                have kept := safe.unchanged (.mongo callFailed) (by rw [ran])
                rwa [ran] at kept
              · intro kept
                refine ⟨fun _ _ => ?_, fun _ _ _ answers => ?_, repeatable⟩
                · rw [ran]
                  exact kept
                · cases creates.symm.trans answers
          | false =>
              simp only [creates, Bool.false_eq_true, ↓reduceIte] at ran
              simp only [Bool.false_eq_true, ↓reduceIte]
              by_cases indexable : users.Indexable
              · rw [if_pos indexable] at ran
                refine ⟨fun _ => indexable, fun _ => ⟨fun error threw => ?_, fun _ _ _ _ => ?_,
                  repeatable⟩⟩
                · rw [ran] at threw
                  cases threw
                · rw [ran]
              · rw [if_neg indexable] at ran
                constructor
                · intro safe
                  have succeeds := safe.accepted apart aggregate listed creates
                  rw [ran] at succeeds
                  cases succeeds
                · exact fun allowed => (indexable allowed).elim

end Law

/-! ## A deleted user with an email -/

/-- An active user and a deleted one with one email, and the index the migration
replaces. -/
def formerHolder : UsersCollection where
  documents :=
    [{ id := "1", email := some (.string "a@example.org"), deletedAt := some (.number 1) },
     { id := "2", email := some (.string "a@example.org") }]
  indexes := [{ name := "_id_", key := [("_id", .number 1)] },
    { name := "users_email_sparse", key := [("email", .number 1)], sparse := true }]

/-- A deleted user may still have an email that an active one uses. The pre-flight passes,
the old index is dropped, and the new one is refused. -/
theorem not_migrationSafe_of_formerHolder : ¬∀ users faults, MigrationSafe users faults := by
  intro safe
  have succeeds := (safe formerHolder {}).accepted (by decide) rfl rfl rfl
  have ran : (upUnder {} formerHolder).2 = .error (.mongo emailsShared) := rfl
  rw [ran] at succeeds
  cases succeeds

end NestMonorepo
