import Mathlib.Data.List.Sort
import NestMonorepo.Collections.Worklist
import NestMonorepo.Common.Errors
import NestMonorepo.Common.Text
import NestMonorepo.Concurrency.Program
import NestMonorepo.Database.DuplicateKey
import NestMonorepo.Migrations.FileNames

/-! # The migration task

`DbMigrateTask`: it loads what has been applied, loads the migration files in the order
of their names, and works through them, recording each one that succeeds. The first
failure ends the run.
-/

namespace NestMonorepo

open Collections Concurrency

/-! ## Files -/

/-- What `require` of a file yields, as far as the loader looks at it: the `id`, and
whether `up` is a function. -/
structure MigrationExports where
  id : Option String
  up : Bool

/-- A file of the directory; `require` of it may throw. -/
structure MigrationFile where
  name : String
  exports : Except String MigrationExports

/-- A loaded migration; its `up` is that of its file. -/
structure Migration where
  id : String
  file : String
  deriving DecidableEq, Repr

/-- A file that exports an `id` and an `up`. -/
def MigrationFile.migration? (file : MigrationFile) (loaded : MigrationExports) :
    Option Migration :=
  (truthy loaded.id).bind fun id => if loaded.up then some { id, file := file.name } else none

namespace DbMigrateTask

/-- The loop of `loadMigrations`: a file without the required exports is skipped. -/
def requireAll : List MigrationFile → Except String (List Migration)
  | [] => .ok []
  | file :: rest => do
      let loaded ← file.exports
      let migrations ← requireAll rest
      pure ((file.migration? loaded).toList ++ migrations)

/-- `loadMigrations`, from the first of the candidate directories that exists. -/
def loadMigrations (candidates : List (Option (List MigrationFile))) :
    Except String (List Migration) :=
  match candidates.findSome? id with
  | none => .ok []
  | some files =>
      requireAll ((files.filter fun file => isMigrationFile file.name).insertionSort
        fun first second => utf16 first.name ≤ utf16 second.name)

end DbMigrateTask

/-! ## A run -/

/-- What the task awaits. -/
inductive MigrateCommand where
  | findApplied
  | up (migration : Migration)
  | insertOne (id : String)
  deriving DecidableEq, Repr

@[reducible] def MigrateReply : MigrateCommand → Type
  | .findApplied => Except MongoError (List String)
  | .up _ => Except String Unit
  | .insertOne _ => Except MongoError Unit

structure MigrateResult where
  applied : Nat
  skipped : Nat
  deriving DecidableEq, Repr

namespace DbMigrateTask

abbrev Task (α : Type) : Type := Program MigrateCommand MigrateReply ServiceError α

/-- Continue with a reply; its error is thrown. -/
def orThrow {α ε : Type} (wrap : ε → ServiceError) (reply : Except ε α) : Task α :=
  Program.ofExcept (reply.mapError wrap)

/-- The ids in `_migrations`. -/
def loadAppliedIds : Task (List String) := Program.perform .findApplied >>= orThrow .mongo

/-- `m.up(db)`, then its record. -/
def apply (migration : Migration) : Task Unit := do
  Program.perform (.up migration) >>= orThrow .other
  Program.perform (.insertOne migration.id) >>= orThrow .mongo

def applyAll (applied : List String) : List Migration → MigrateResult → Task MigrateResult
  | [], counts => pure counts
  | migration :: rest, counts =>
      if migration.id ∈ applied then
        applyAll applied rest { counts with skipped := counts.skipped + 1 }
      else do
        apply migration
        applyAll applied rest { counts with applied := counts.applied + 1 }

def run (candidates : List (Option (List MigrationFile))) : Task MigrateResult := do
  let applied ← loadAppliedIds
  let all ← orThrow .other (loadMigrations candidates)
  applyAll applied all { applied := 0, skipped := 0 }

end DbMigrateTask

/-- What answers and what fails during a run; a run that is killed ends like one whose
next command fails. -/
structure Conditions where
  find : Except MongoError Unit := .ok ()
  up : Migration → Except String Unit
  insertOne : String → Except MongoError Unit := fun _ => .ok ()

/-- The `_migrations` collection and what the run has done so far. -/
structure MigrateState where
  applied : List String
  journal : List (Note Migration String) := []
  deriving DecidableEq, Repr

/-- No `up` touches the `_migrations` collection. -/
def MigrateState.exec (conditions : Conditions) :
    (command : MigrateCommand) → MigrateState → MigrateState × MigrateReply command
  | .findApplied, state => (state, conditions.find.map fun _ => state.applied)
  | .up migration, state =>
      ({ state with journal := state.journal ++ [.started migration] }, conditions.up migration)
  | .insertOne id, state =>
      match conditions.insertOne id with
      | .ok () =>
          ({ applied := state.applied ++ [id], journal := state.journal ++ [.recorded id] }, .ok ())
      | .error error => (state, .error error)

/-- One run of the task: the directories it finds and the conditions it meets. -/
structure MigrateRun where
  candidates : List (Option (List MigrationFile))
  conditions : Conditions

namespace MigrateRun

/-- The state in which a run leaves a collection, with the journal of the run. -/
def after (run : MigrateRun) (applied : List String) : MigrateState :=
  ((DbMigrateTask.run run.candidates).run (MigrateState.exec run.conditions) { applied }).1

/-- The files of the directory that the loader's filter accepts, in whatever order. -/
def files (run : MigrateRun) : List MigrationFile :=
  ((run.candidates.findSome? id).getD []).filter fun file => isMigrationFile file.name

/-- The migrations in these files. -/
def present (run : MigrateRun) : List Migration :=
  run.files.filterMap fun file => file.exports.toOption.bind file.migration?

/-- The applied ids can be read and every file can be loaded. -/
def Loads (run : MigrateRun) : Prop :=
  run.conditions.find = .ok () ∧ ∀ file ∈ run.files, ∃ loaded, file.exports = .ok loaded

/-- Both the `up` of a migration and its record succeed. -/
def succeeds (run : MigrateRun) (migration : Migration) : Bool :=
  (run.conditions.up migration).isOk && (run.conditions.insertOne migration.id).isOk

end MigrateRun

/-! ## What a run does -/

section Run

variable {run : MigrateRun} {state : MigrateState}

/-- The migrations that are left to do. -/
def pending (applied : List String) (all : List Migration) : List Migration :=
  all.filter fun migration => migration.id ∉ applied

/-- The state after some migrations, of which the first that fails is the last. -/
def worked (run : MigrateRun) (state : MigrateState) (work : List Migration) : MigrateState where
  applied := state.applied ++ (work.takeWhile run.succeeds).map Migration.id
  journal := state.journal ++ journal Migration.id run.succeeds work

/-- No work leaves the state as it is. -/
theorem worked_nil : worked run state [] = state := by
  simp only [worked, List.takeWhile_nil, List.map_nil, List.append_nil, journal]

/-- A migration that succeeds is recorded, and the run goes on from there. -/
theorem apply_run_of_succeeds {α : Type} {migration : Migration}
    (succeeds : run.succeeds migration = true) (next : Unit → DbMigrateTask.Task α) :
    (DbMigrateTask.apply migration >>= next).run (MigrateState.exec run.conditions) state =
      (next ()).run (MigrateState.exec run.conditions) (worked run state [migration]) := by
  rw [MigrateRun.succeeds, Bool.and_eq_true] at succeeds
  cases up : run.conditions.up migration with
  | error error =>
      rw [up] at succeeds
      cases succeeds.1
  | ok done =>
      cases inserted : run.conditions.insertOne migration.id with
      | error error =>
          rw [inserted] at succeeds
          cases succeeds.2
      | ok recorded =>
          have holds : run.succeeds migration = true := by
            rw [MigrateRun.succeeds, up, inserted]
            rfl
          simp only [DbMigrateTask.apply, DbMigrateTask.orThrow, Program.bind_assoc,
            Program.perform_bind, Program.call_bind, Program.run_call, MigrateState.exec, up,
            inserted, Except.mapError, Program.ofExcept_ok, Program.ret_bind, worked, holds,
            List.takeWhile_cons, List.takeWhile_nil, List.map_cons, List.map_nil, journal,
            ↓reduceIte, List.append_assoc, List.cons_append, List.nil_append]

/-- The first failure ends the run: the migration has been started, and nothing is recorded
for it. -/
theorem apply_run_of_fails {α : Type} {migration : Migration}
    (fails : run.succeeds migration = false) (next : Unit → DbMigrateTask.Task α) :
    ∃ error, (DbMigrateTask.apply migration >>= next).run (MigrateState.exec run.conditions) state =
      (worked run state [migration], .error error) := by
  have ended : worked run state [migration] =
      { state with journal := state.journal ++ [.started migration] } := by
    simp only [worked, fails, List.takeWhile_cons, Bool.false_eq_true, ↓reduceIte, List.map_nil,
      List.append_nil, journal]
  rw [ended]
  cases up : run.conditions.up migration with
  | error error =>
      refine ⟨.other error, ?_⟩
      simp only [DbMigrateTask.apply, DbMigrateTask.orThrow, Program.bind_assoc,
        Program.perform_bind, Program.call_bind, Program.run_call, MigrateState.exec, up,
        Except.mapError, Program.ofExcept_error, Program.fail_bind, Program.run_fail]
  | ok done =>
      cases inserted : run.conditions.insertOne migration.id with
      | error error =>
          refine ⟨.mongo error, ?_⟩
          simp only [DbMigrateTask.apply, DbMigrateTask.orThrow, Program.bind_assoc,
            Program.perform_bind, Program.call_bind, Program.run_call, MigrateState.exec, up,
            inserted, Except.mapError, Program.ofExcept_ok, Program.ofExcept_error,
            Program.ret_bind, Program.fail_bind, Program.run_fail]
      | ok recorded =>
          rw [MigrateRun.succeeds, up, inserted] at fails
          cases fails

/-- Work that starts with a migration that succeeds goes on from the state this one leaves. -/
theorem worked_cons {migration : Migration} (succeeds : run.succeeds migration = true)
    (work : List Migration) :
    worked run (worked run state [migration]) work = worked run state (migration :: work) := by
  simp only [worked, succeeds, List.takeWhile_cons, List.takeWhile_nil, ↓reduceIte, List.map_cons,
    List.map_nil, journal, List.append_assoc, List.cons_append, List.nil_append]

/-- The loop works through what is left to do. The induction is on the loaded migrations, of
which the applied ones are passed over. -/
theorem applyAll_run (applied : List String) (all : List Migration) (counts : MigrateResult) :
    ((DbMigrateTask.applyAll applied all counts).run (MigrateState.exec run.conditions) state).1 =
      worked run state (pending applied all) := by
  induction all generalizing counts state with
  | nil => exact worked_nil.symm
  | cons migration rest ih =>
      rw [DbMigrateTask.applyAll, pending, List.filter_cons]
      by_cases done : migration.id ∈ applied
      · simp only [done, ↓reduceIte, not_true_eq_false, decide_false, Bool.false_eq_true]
        exact ih _
      · simp only [done, ↓reduceIte, not_false_eq_true, decide_true]
        cases succeeds : run.succeeds migration with
        | true =>
            rw [apply_run_of_succeeds succeeds, ih, worked_cons succeeds]
            rfl
        | false =>
            obtain ⟨error, ended⟩ := @apply_run_of_fails run state _ _ succeeds
              fun _ => DbMigrateTask.applyAll applied rest
                { counts with applied := counts.applied + 1 }
            rw [ended]
            simp only [worked, succeeds, List.takeWhile_cons, Bool.false_eq_true, ↓reduceIte,
              journal]

/-! ### Loading -/

/-- Where every file loads, the migrations are those that the files export, in the order of
the files. -/
theorem requireAll_of_loads {files : List MigrationFile}
    (loads : ∀ file ∈ files, ∃ loaded, file.exports = .ok loaded) :
    DbMigrateTask.requireAll files =
      .ok (files.filterMap fun file => file.exports.toOption.bind file.migration?) := by
  induction files with
  | nil => rfl
  | cons file rest ih =>
      obtain ⟨loaded, here⟩ := loads file List.mem_cons_self
      rw [DbMigrateTask.requireAll, here,
        ih fun other member => loads other (List.mem_cons_of_mem _ member)]
      have bound : (Except.ok loaded : Except String MigrationExports).toOption.bind
          file.migration? = file.migration? loaded := rfl
      rw [List.filterMap_cons, here, bound]
      change Except.ok ((file.migration? loaded).toList ++ _) = _
      cases file.migration? loaded with
      | none => rfl
      | some migration => rfl

/-- One file that does not load fails the whole loading. -/
theorem requireAll_of_not_loads {files : List MigrationFile}
    (broken : ¬∀ file ∈ files, ∃ loaded, file.exports = .ok loaded) :
    ∃ error, DbMigrateTask.requireAll files = .error error := by
  induction files with
  | nil => exact (broken fun _ member => (List.not_mem_nil member).elim).elim
  | cons file rest ih =>
      cases here : file.exports with
      | error error => exact ⟨error, by rw [DbMigrateTask.requireAll, here]; rfl⟩
      | ok loaded =>
          obtain ⟨error, threw⟩ := ih fun loads => broken <| by
            intro other member
            rcases List.mem_cons.mp member with rfl | inside
            · exact ⟨loaded, here⟩
            · exact loads other inside
          exact ⟨error, by rw [DbMigrateTask.requireAll, here, threw]; rfl⟩

/-- The files in the order in which they are loaded. -/
def sortedFiles (run : MigrateRun) : List MigrationFile :=
  run.files.insertionSort fun first second => utf16 first.name ≤ utf16 second.name

/-- Sorting loses no file and adds none. -/
theorem mem_sortedFiles {file : MigrationFile} : file ∈ sortedFiles run ↔ file ∈ run.files :=
  (List.perm_insertionSort _ _).mem_iff

/-- The loader requires the accepted files in their sorted order. -/
theorem loadMigrations_eq :
    DbMigrateTask.loadMigrations run.candidates = DbMigrateTask.requireAll (sortedFiles run) := by
  rw [DbMigrateTask.loadMigrations, sortedFiles, MigrateRun.files]
  cases run.candidates.findSome? id with
  | none => rfl
  | some files => rfl

/-- The migrations of the sorted files, sorted by file. -/
def loadedMigrations (run : MigrateRun) : List Migration :=
  (sortedFiles run).filterMap fun file => file.exports.toOption.bind file.migration?

/-- The loaded migrations are those of the directory, in another order. -/
theorem loadedMigrations_perm : (loadedMigrations run).Perm run.present :=
  (List.perm_insertionSort _ _).filterMap _

/-- A migration knows the name of the file it was loaded from. -/
theorem MigrationFile.file_of_migration {file : MigrationFile} {migration : Migration}
    (found : file.exports.toOption.bind file.migration? = some migration) :
    migration.file = file.name := by
  obtain ⟨loaded, -, named⟩ := Option.bind_eq_some_iff.mp found
  obtain ⟨id, -, kept⟩ := Option.bind_eq_some_iff.mp named
  split at kept
  · cases kept
    rfl
  · cases kept

/-- The loaded migrations are in the order of their file names. -/
theorem loadedMigrations_sorted :
    (loadedMigrations run).Pairwise fun first second => ¬Precedes second.file first.file := by
  rw [loadedMigrations, List.pairwise_filterMap]
  have sorted : (sortedFiles run).Pairwise fun first second =>
      utf16 first.name ≤ utf16 second.name := by
    have : Std.Total fun first second : MigrationFile => utf16 first.name ≤ utf16 second.name :=
      ⟨fun first second => le_total (utf16 first.name) (utf16 second.name)⟩
    have : IsTrans MigrationFile fun first second => utf16 first.name ≤ utf16 second.name :=
      ⟨fun _ _ _ => le_trans⟩
    exact List.pairwise_insertionSort _ _
  refine sorted.imp fun {first second} ordered migration found other found' => ?_
  rw [MigrationFile.file_of_migration found, MigrationFile.file_of_migration found']
  exact not_lt_of_ge ordered

/-- A run works through what is left, in the order of the files. -/
theorem after_of_loads (loads : run.Loads) (applied : List String) :
    run.after applied = worked run { applied } (pending applied (loadedMigrations run)) := by
  have all : DbMigrateTask.loadMigrations run.candidates = .ok (loadedMigrations run) := by
    rw [loadMigrations_eq]
    exact requireAll_of_loads fun file member => loads.2 file (mem_sortedFiles.mp member)
  rw [MigrateRun.after, DbMigrateTask.run, all, ← applyAll_run applied _ ⟨0, 0⟩]
  simp only [DbMigrateTask.loadAppliedIds, DbMigrateTask.orThrow, Program.perform_bind,
    Program.call_bind, Program.run_call, MigrateState.exec, loads.1, Except.map, Except.mapError,
    Program.ofExcept_ok, Program.ret_bind]

/-- A run that cannot load what it needs does nothing. -/
theorem after_of_not_loads (broken : ¬run.Loads) (applied : List String) :
    run.after applied = { applied } := by
  rw [MigrateRun.after, DbMigrateTask.run]
  simp only [DbMigrateTask.loadAppliedIds, DbMigrateTask.orThrow, Program.perform_bind,
    Program.call_bind, Program.run_call, MigrateState.exec]
  cases find : run.conditions.find with
  | error error =>
      simp only [Except.map, Except.mapError, Program.ofExcept_error, Program.fail_bind,
        Program.run_fail]
  | ok answered =>
      obtain ⟨error, threw⟩ := @requireAll_of_not_loads (sortedFiles run) fun loads =>
        broken ⟨find, fun file member => loads file (mem_sortedFiles.mpr member)⟩
      rw [loadMigrations_eq, threw]
      simp only [Except.map, Except.mapError, Program.ofExcept_ok, Program.ofExcept_error,
        Program.ret_bind, Program.fail_bind, Program.run_fail]

end Run

/-! ## Any number of runs -/

/-- The collection after some runs, one after another, each over its own directory. -/
def afterRuns (applied : List String) : List MigrateRun → List String
  | [] => applied
  | run :: rest => afterRuns (run.after applied).applied rest

/-- The id was applied from the start, or one of the runs has recorded it. -/
def RecordedIn (start : List String) (runs : List MigrateRun) (id : String) : Prop :=
  id ∈ start ∨ ∃ earlier run later, runs = earlier ++ run :: later ∧
    .recorded id ∈ (run.after (afterRuns start earlier)).journal

/-- A run over a collection follows an order of file names. -/
structure InOrder (precedes : String → String → Prop) (run : MigrateRun)
    (applied : List String) : Prop where
  works : run.Loads → ∃ work, work.Perm (pending applied run.present) ∧
    (work.Pairwise fun first second => ¬precedes second.file first.file) ∧
    (run.after applied).journal = journal Migration.id run.succeeds work ∧
    (run.after applied).applied = applied ++ (work.takeWhile run.succeeds).map Migration.id
  idle : ¬run.Loads → run.after applied = { applied }
  waits : ∀ before migration after,
    (run.after applied).journal = before ++ .started migration :: after →
      ∀ other ∈ run.present, precedes other.file migration.file →
        other.id ∈ applied ∨ .recorded other.id ∈ before

/-- A run starts nothing that it or an earlier one has recorded. -/
def OnlyOnce (start : List String) (earlier : List MigrateRun) (run : MigrateRun) : Prop :=
  ∀ before migration after,
    (run.after (afterRuns start earlier)).journal = before ++ .started migration :: after →
      ¬RecordedIn start earlier migration.id ∧ .recorded migration.id ∉ before

/-- Whatever was run before, every run over migrations with distinct ids follows the
order and repeats nothing. -/
def RunsInOrder (precedes : String → String → Prop) : Prop :=
  ∀ (start : List String) (earlier : List MigrateRun) (run : MigrateRun),
    (run.present.map Migration.id).Nodup →
      InOrder precedes run (afterRuns start earlier) ∧ OnlyOnce start earlier run

/-- The order of the sequence numbers. -/
def PrecedesNumerically (first second : String) : Prop :=
  prefixNumber first < prefixNumber second

/-- All sequence numbers are written with the same number of digits. -/
def SameWidth (run : MigrateRun) : Prop :=
  ∀ first ∈ run.present, ∀ second ∈ run.present,
    (prefixDigits first.file).length = (prefixDigits second.file).length

section Law

variable {start applied : List String} {earlier : List MigrateRun} {run : MigrateRun}

/-- A run adds what its journal says it has recorded. -/
theorem mem_after_applied {id : String} : id ∈ (run.after applied).applied ↔
    id ∈ applied ∨ .recorded id ∈ (run.after applied).journal := by
  by_cases loads : run.Loads
  · rw [after_of_loads loads]
    simp only [worked, List.nil_append, List.mem_append, recorded_iff, List.mem_map]
  · rw [after_of_not_loads loads]
    simp only [List.not_mem_nil, or_false]

/-- The collection holds what it held at first and what the runs have recorded, however they
ended. The induction is on the runs. -/
theorem mem_afterRuns {runs : List MigrateRun} {id : String} :
    id ∈ afterRuns start runs ↔ RecordedIn start runs id := by
  induction runs generalizing start with
  | nil =>
      constructor
      · exact .inl
      · intro recorded
        rcases recorded with initial | ⟨earlier, run, later, split, -⟩
        · exact initial
        · exact (List.append_ne_nil_of_right_ne_nil _ (List.cons_ne_nil _ _) split.symm).elim
  | cons run rest ih =>
      rw [afterRuns, ih]
      constructor
      · intro recorded
        rcases recorded with initial | ⟨earlier, other, later, rfl, noted⟩
        · rcases mem_after_applied.mp initial with old | noted
          · exact .inl old
          · exact .inr ⟨[], run, rest, rfl, noted⟩
        · exact .inr ⟨run :: earlier, other, later, rfl, noted⟩
      · intro recorded
        rcases recorded with initial | ⟨earlier, other, later, split, noted⟩
        · exact .inl (mem_after_applied.mpr (.inl initial))
        · cases earlier with
          | nil =>
              obtain ⟨rfl, rfl⟩ := List.cons.inj split
              exact .inl (mem_after_applied.mpr (.inr noted))
          | cons first earlier =>
              obtain ⟨rfl, rfl⟩ := List.cons.inj split
              exact .inr ⟨earlier, other, later, rfl, noted⟩

/-- The pending migrations are in the order of their file names too. -/
theorem pending_sorted : (pending applied (loadedMigrations run)).Pairwise
    fun first second => ¬Precedes second.file first.file :=
  loadedMigrations_sorted.filter _

/-- Pending is what is in the directory and has not been applied. -/
theorem mem_pending {migration : Migration} :
    migration ∈ pending applied (loadedMigrations run) ↔
      migration ∈ run.present ∧ migration.id ∉ applied := by
  rw [pending, List.mem_filter, loadedMigrations_perm.mem_iff, decide_eq_true_eq]

/-- Every order of names that JavaScript's contains is followed, as far as it goes, since
the files are sorted by that one. -/
theorem inOrder_of_refines {precedes : String → String → Prop}
    (refines : ∀ first ∈ run.present, ∀ second ∈ run.present,
      precedes first.file second.file → Precedes first.file second.file) :
    InOrder precedes run applied where
  works loads := by
    refine ⟨pending applied (loadedMigrations run), loadedMigrations_perm.filter _, ?_, ?_, ?_⟩
    · refine pending_sorted.imp_of_mem fun {first second} here there apart precedes => ?_
      exact apart (refines second (mem_pending.mp there).1 first (mem_pending.mp here).1 precedes)
    · rw [after_of_loads loads]
      rfl
    · rw [after_of_loads loads]
      rfl
  idle broken := after_of_not_loads broken applied
  waits before migration after split other member precedes := by
    by_cases loads : run.Loads
    · rw [after_of_loads loads] at split
      change [] ++ journal Migration.id run.succeeds _ = _ at split
      rw [List.nil_append] at split
      by_cases recorded : other.id ∈ applied
      · exact .inl recorded
      · have started : .started migration ∈
            journal Migration.id run.succeeds (pending applied (loadedMigrations run)) := by
          rw [split]
          exact List.mem_append_right _ List.mem_cons_self
        have here := (mem_pending.mp (mem_of_started started)).1
        exact .inr (recorded_before pending_sorted split (lt_irrefl (utf16 migration.file))
          (mem_pending.mpr ⟨member, recorded⟩) (refines other member migration here precedes))
    · rw [after_of_not_loads loads] at split
      exact (List.append_ne_nil_of_right_ne_nil _ (List.cons_ne_nil _ _) split.symm).elim

/-- With distinct ids a run starts no migration that an earlier run or the run itself has
recorded. -/
theorem onlyOnce (distinct : (run.present.map Migration.id).Nodup) :
    OnlyOnce start earlier run := by
  intro before migration after split
  by_cases loads : run.Loads
  · rw [after_of_loads loads] at split
    change [] ++ journal Migration.id run.succeeds _ = _ at split
    rw [List.nil_append] at split
    have started : .started migration ∈ journal Migration.id run.succeeds
        (pending (afterRuns start earlier) (loadedMigrations run)) := by
      rw [split]
      exact List.mem_append_right _ List.mem_cons_self
    constructor
    · rw [← mem_afterRuns]
      exact (mem_pending.mp (mem_of_started started)).2
    · have ids : ((loadedMigrations run).map Migration.id).Nodup :=
        (loadedMigrations_perm.map _).nodup_iff.mpr distinct
      exact not_recorded_before (ids.sublist (List.filter_sublist.map _)) split
  · rw [after_of_not_loads loads] at split
    exact (List.append_ne_nil_of_right_ne_nil _ (List.cons_ne_nil _ _) split.symm).elim

/-- Every run works through its files in JavaScript's order of their names, which is the
order of their numbers where these have one width, and nothing runs again once recorded. -/
theorem runsInOrder : RunsInOrder Precedes ∧
    ∀ (start : List String) (earlier : List MigrateRun) (run : MigrateRun), SameWidth run →
      InOrder PrecedesNumerically run (afterRuns start earlier) := by
  constructor
  · intro start earlier run distinct
    exact ⟨inOrder_of_refines fun _ _ _ _ => id, onlyOnce distinct⟩
  · intro start earlier run width
    apply inOrder_of_refines
    intro first here second there
    exact precedes_of_prefixNumber_lt (width first here second there)

end Law

/-! ## From 999 to 1000 -/

/-- A directory whose numbers have outgrown three digits. -/
def outgrown : MigrateRun where
  candidates := [some [⟨"999_last.cjs", .ok ⟨some "999_last", true⟩⟩,
    ⟨"1000_next.cjs", .ok ⟨some "1000_next", true⟩⟩]]
  conditions := { up := fun _ => .ok () }

/-- The runner starts with 1000 before 999: names are compared as texts, character by
character. -/
theorem not_runsInOrder_numerically : ¬RunsInOrder PrecedesNumerically := by
  intro ordered
  have waits := (ordered [] [] outgrown (by decide)).1.waits []
    { id := "1000_next", file := "1000_next.cjs" } _ rfl
    { id := "999_last", file := "999_last.cjs" } (by decide)
    (show prefixNumber "999_last.cjs" < prefixNumber "1000_next.cjs" by decide)
  rcases waits with initial | noted
  · cases initial
  · cases noted

end NestMonorepo
