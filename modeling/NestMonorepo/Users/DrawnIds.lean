import NestMonorepo.Users.Devices

/-! # Ids are inserted by who drew them

An insert carries the id its handler drew, and no id is drawn twice. However the
handlers interleave, no user is stored under the id of an insert yet to come.
-/

namespace NestMonorepo

open Collections Concurrency Handler UsersService

variable {α β : Type} {own : ObjectId → Prop}

/-! ## One handler -/

/-- The command inserts no user, or one under an owned id. -/
def Command.InsertsOwn (own : ObjectId → Prop) : Command → Prop
  | .write (.insertUser user) _ => own user.id
  | _ => True

/-- The ids a handler owns after a command: a drawn one is added, an inserted one is
used up. -/
def Command.ownedAfter (own : ObjectId → Prop) : (command : Command) → Reply command →
    ObjectId → Prop
  | .newObjectId, drawn => fun id => own id ∨ id = drawn
  | .write (.insertUser user) _, _ => fun id => own id ∧ id ≠ user.id
  | _, _ => own

/-- The handler inserts users under ids it owns or will have drawn, each at most once. -/
def Handler.InsertsDrawn (own : ObjectId → Prop) : Handler α → Prop
  | .ret _ => True
  | .fail _ => True
  | .call command next => command.InsertsOwn own ∧
      ∀ reply, InsertsDrawn (command.ownedAfter own reply) (next reply)

/-- An operation that inserts only ids it owns inserts only ids of any wider set. -/
theorem Handler.InsertsDrawn.mono {more : ObjectId → Prop} {program : Handler α}
    (inserts : program.InsertsDrawn own) (implies : ∀ id, own id → more id) :
    program.InsertsDrawn more := by
  induction program generalizing own more with
  | ret value => trivial
  | fail error => trivial
  | call command next ih =>
      refine ⟨?_, fun reply => ih reply (inserts.2 reply) ?_⟩
      · have owned := inserts.1
        unfold Command.InsertsOwn at owned ⊢
        split
        · exact implies _ owned
        · trivial
      · unfold Command.ownedAfter
        split
        · exact fun id => Or.imp_left (implies id)
        · exact fun id => And.imp_left (implies id)
        · exact implies

/-- The command inserts no user. -/
def Command.InsertsNothing : Command → Prop
  | .write (.insertUser _) _ => False
  | _ => True

/-- A calm command inserts no user. -/
theorem Command.Calm.insertsNothing {command : Command} (calm : command.Calm) :
    command.InsertsNothing := by
  unfold Command.InsertsNothing
  split
  · exact calm
  · trivial

/-- A command that inserts no user inserts none under a foreign id. -/
theorem Command.InsertsNothing.insertsOwn {command : Command} (calm : command.InsertsNothing) :
    command.InsertsOwn own := by
  cases command with
  | write write at_ =>
      cases write with
      | insertUser user => exact calm.elim
      | _ => trivial
  | _ => trivial

/-- After a command that inserts no user an operation owns what it owned before. -/
theorem Command.InsertsNothing.ownedAfter {command : Command} (calm : command.InsertsNothing)
    (reply : Reply command) {id : ObjectId} (owned : own id) : command.ownedAfter own reply id := by
  cases command with
  | write write at_ =>
      cases write with
      | insertUser user => exact calm.elim
      | _ => exact owned
  | newObjectId => exact .inl owned
  | _ => exact owned

/-- Commands that insert nothing, before the rest. -/
theorem insertsDrawn_bind {program : Handler β} {next : β → Handler α}
    (calm : program.Only Command.InsertsNothing)
    (rest : ∀ value, (next value).InsertsDrawn own) : (program >>= next).InsertsDrawn own := by
  induction program generalizing own with
  | ret value => exact rest value
  | fail error => trivial
  | call command reply ih =>
      refine ⟨calm.1.insertsOwn, fun answer => ih answer (calm.2 answer) fun value => ?_⟩
      exact (rest value).mono fun id => calm.1.ownedAfter answer

/-- An operation of commands that insert no user inserts only ids that it has drawn. -/
theorem insertsDrawn_of_only {program : Handler α} (calm : program.Only Command.InsertsNothing) :
    program.InsertsDrawn own := by
  induction program generalizing own with
  | ret value => trivial
  | fail error => trivial
  | call command reply ih =>
      exact ⟨calm.1.insertsOwn, fun answer => ih answer (calm.2 answer)⟩

section Handlers

variable [Libraries]

/-- The fresh registration inserts its user under the id it has drawn, once. -/
theorem createFreshAutoreg_insertsDrawn (payload : AutoregPayload) :
    (createFreshAutoreg payload >>= fun result =>
      (.ret (.autoreg result) : Handler Answer)).InsertsDrawn own := by
  simp only [createFreshAutoreg, newObjectId, now, await, Program.perform_bind, Program.call_bind,
    Program.bind_assoc, Program.pure_eq, Program.ret_bind, flush_bind]
  refine ⟨trivial, fun userId => ⟨trivial, fun deviceId => ⟨trivial, fun createdAt => ?_⟩⟩⟩
  refine ⟨trivial, fun at_ => ?_⟩
  beta_reduce
  unfold autoregWrites
  split
  · rw [writeAll_cons_bind]
    refine ⟨trivial, fun reply => ?_⟩
    refine insertsDrawn_bind (Program.only_ofExcept _) fun _ => ?_
    rw [writeAll_cons_bind]
    refine ⟨.inl (.inr rfl), fun answer => ?_⟩
    exact insertsDrawn_bind (Program.only_ofExcept _) fun _ => trivial
  · rw [writeAll_cons_bind]
    refine ⟨.inl (.inr rfl), fun reply => ?_⟩
    refine insertsDrawn_bind (Program.only_ofExcept _) fun _ => ?_
    rw [writeAll_cons_bind]
    refine ⟨trivial, fun answer => ?_⟩
    exact insertsDrawn_bind (Program.only_ofExcept _) fun _ => trivial

/-- A registration inserts only under an id that it has drawn itself, on each of its
branches. -/
theorem createAutoregUser_insertsDrawn (payload : AutoregPayload) :
    (UsersController.handle (.createAutoregUser payload)).InsertsDrawn own := by
  change ((UsersController.createAutoregUser payload >>= fun result =>
    .ret (.autoreg result)) : Handler Answer).InsertsDrawn own
  unfold UsersController.createAutoregUser
  split
  · trivial
  simp only [UsersService.createAutoregUser, Program.bind_assoc]
  refine insertsDrawn_bind (findDevice_only trivial) fun device => ?_
  cases device with
  | none => exact createFreshAutoreg_insertsDrawn payload
  | some existing =>
      have anew : (nativeDeleteDevices (.byId existing.id) >>= fun _ =>
          createFreshAutoreg payload >>= fun result =>
            (.ret (.autoreg result) : Handler Answer)).InsertsDrawn own :=
        insertsDrawn_bind (nativeDeleteDevices_only trivial) fun _ =>
          createFreshAutoreg_insertsDrawn payload
      simp only
      split
      · trivial
      simp only [Program.bind_assoc]
      refine insertsDrawn_bind (findUser_only trivial) fun linked => ?_
      cases linked with
      | none =>
          simp only [Program.bind_assoc]
          exact anew
      | some linkedUser =>
          simp only
          split
          · simp only [Program.bind_assoc]
            exact anew
          · refine insertsDrawn_bind (.bind (Program.only_perform trivial) fun lastSeenAt => ?_)
              fun _ => trivial
            refine .bind (flush_only trivial fun write member at_ => ?_) fun _ => trivial
            rw [Device.mem_update member]
            trivial

/-- An upgrade inserts no user at all. -/
theorem upgradeAccount_insertsDrawn (userId : String) (payload : UpgradePayload) :
    (UsersController.handle (.upgradeAccount userId payload)).InsertsDrawn own := by
  refine insertsDrawn_bind ?_ fun _ => trivial
  refine .bind (findById_only (fun _ => trivial) userId) fun user => ?_
  split
  · trivial
  refine .bind ((upgradeCredentials_only userId user payload).mono fun command calm => ?_)
    fun current => ?_
  · cases command with
    | write write at_ => exact calm.elim
    | _ => trivial
  refine .bind (Program.only_perform trivial) fun upgradedAt => ?_
  refine .bind (flushEmail_only trivial fun write member at_ => ?_) fun _ => ?_
  · rw [User.mem_update member]
    trivial
  · exact .bind (nativeDeleteDevices_only trivial) fun _ => trivial

/-- The creation of a provider user inserts it under the id it has drawn. -/
theorem createOAuthUser_insertsDrawn (payload : OAuthPayload) :
    (createOAuthUser payload >>= fun result =>
      (.ret (.identity result) : Handler Answer)).InsertsDrawn own := by
  simp only [createOAuthUser, newObjectId, now, await, Program.perform_bind, Program.call_bind,
    Program.bind_assoc, Program.pure_eq, Program.ret_bind]
  refine ⟨trivial, fun createdAt => ⟨trivial, fun id => ?_⟩⟩
  simp only [flushEmail, flush, now, await, writeAll, Program.perform_bind, Program.call_bind,
    Program.bind_assoc, Program.pure_eq, Program.ret_bind, Program.attempt_call]
  refine ⟨trivial, fun at_ => ⟨.inr rfl, fun reply => ?_⟩⟩
  cases reply with
  | ok _ => trivial
  | error error =>
      simp only [ofReply_error, Program.fail_bind, Program.attempt_fail, Program.ret_bind]
      split <;> trivial

/-- A provider login inserts only under an id that it has drawn itself, on each of its
branches. -/
theorem findOrCreateOAuthUser_insertsDrawn (payload : OAuthPayload) :
    (UsersController.handle (.findOrCreateOAuthUser payload)).InsertsDrawn own := by
  change ((UsersService.findOrCreateOAuthUser payload >>= fun result =>
    .ret (.identity result)) : Handler Answer).InsertsDrawn own
  simp only [UsersService.findOrCreateOAuthUser, Program.bind_assoc]
  refine insertsDrawn_bind (findUser_only trivial) fun found => ?_
  cases found with
  | some byProvider => trivial
  | none =>
      simp only
      split
      · exact createOAuthUser_insertsDrawn payload
      · simp only [Program.bind_assoc]
        refine insertsDrawn_bind (findUser_only trivial) fun owner => ?_
        cases owner with
        | none => exact createOAuthUser_insertsDrawn payload
        | some byEmail =>
            refine insertsDrawn_bind (.bind (Program.only_perform trivial) fun linkedAt => ?_)
              fun _ => trivial
            refine .bind (flush_only trivial fun write member at_ => ?_) fun _ => trivial
            rw [User.mem_update member]
            trivial

/-- Every message inserts users under ids it has drawn. -/
theorem handle_insertsDrawn (operation : UserOperation) :
    (UsersController.handle operation).InsertsDrawn own := by
  have of_calm : operation.Calm → (UsersController.handle operation).InsertsDrawn own := by
    intro calm
    exact insertsDrawn_of_only ((handle_calm calm).mono fun _ => Command.Calm.insertsNothing)
  cases operation with
  | createAutoregUser payload => exact createAutoregUser_insertsDrawn payload
  | upgradeAccount userId payload => exact upgradeAccount_insertsDrawn userId payload
  | findOrCreateOAuthUser payload => exact findOrCreateOAuthUser_insertsDrawn payload
  | _ => exact of_calm trivial

end Handlers

/-! ## Any number of handlers -/

section Pools

variable [Libraries]
  {system : System UserOperation Command Reply ServiceError Answer Backend Backend.Event}
  {pool : ServicePool}

/-- The users stored under new ids are those a command inserts, and ids are not drawn
twice. -/
theorem exec_ids (command : Command) (store : Backend) :
    store.nextObjectId ≤ (Backend.exec command store).1.nextObjectId ∧
      ∀ user ∈ (Backend.exec command store).1.users, (∃ old ∈ store.users, old.id = user.id) ∨
        ∃ at_, command = .write (.insertUser user) at_ := by
  have kept : ∀ user ∈ store.users, (∃ old ∈ store.users, old.id = user.id) ∨
      ∃ at_, command = .write (.insertUser user) at_ := fun user member => .inl ⟨user, member, rfl⟩
  have effect := Backend.exec_effect command store
  generalize (Backend.exec command store).1 = later at effect
  cases effect with
  | @stored write at_ _ _ =>
      cases write with
      | insertUser added =>
          refine ⟨le_refl _, fun user member => ?_⟩
          rcases List.mem_append.mp member with old | new
          · exact kept user old
          · rw [List.mem_singleton.mp new]
            exact .inr ⟨at_, rfl⟩
      | updateUser id changes =>
          refine ⟨le_refl _, fun user member => ?_⟩
          rcases mem_modifyAt member with ⟨old, _⟩ | ⟨old, present, _, rfl⟩
          · exact kept user old
          · exact .inl ⟨old, present, rfl⟩
      | _ => exact ⟨le_refl _, kept⟩
  | deletedUser => exact ⟨le_refl _, fun user member => kept user (List.mem_filter.mp member).1⟩
  | drewId => exact ⟨Nat.le_succ _, kept⟩
  | _ => exact ⟨le_refl _, kept⟩

/-- Which thread has drawn which id and not inserted it yet. -/
structure Drawn (owner : Nat → ObjectId → Prop) (pool : ServicePool) : Prop where
  users : ∀ user ∈ pool.shared.users, user.id < pool.shared.nextObjectId
  drawn : ∀ index id, owner index id → id < pool.shared.nextObjectId
  apart : ∀ first second id, owner first id → owner second id → first = second
  unused : ∀ index id, owner index id → fetch User.id id pool.shared.users = none
  threads : ∀ (index : Nat) thread program, pool.threads[index]? = some thread →
    thread.status = .running program → Handler.InsertsDrawn (owner index) program

/-- The system draws ids and writes as the backend does. -/
structure DrawsAsBackend
    (system : System UserOperation Command Reply ServiceError Answer Backend Backend.Event) :
    Prop where
  state : ∀ command store, (system.exec command store).1 = (Backend.exec command store).1
  draws : ∀ store, (system.exec .newObjectId store).2 = store.nextObjectId
  environment : system.environment = Backend.environment

/-- What a handler owns after a command it owned before or has just drawn, and an inserted
id is used up. -/
theorem ownedAfter_exec (backend : DrawsAsBackend system) {command : Command} {store : Backend}
    {id : ObjectId} (owned : command.ownedAfter own (system.exec command store).2 id) :
    (own id ∨ command = .newObjectId ∧ id = store.nextObjectId) ∧
      ∀ user at_, command = .write (.insertUser user) at_ → id ≠ user.id := by
  cases command with
  | newObjectId =>
      refine ⟨Or.imp_right (fun same => ⟨rfl, same.trans (backend.draws store)⟩) owned, ?_⟩
      exact fun _ _ => nofun
  | write write at_ =>
      cases write with
      | insertUser user =>
          refine ⟨.inl owned.1, fun other at_ same => ?_⟩
          cases same
          exact owned.2
      | _ => exact ⟨.inl owned, fun _ _ => nofun⟩
  | _ => exact ⟨.inl owned, fun _ _ => nofun⟩

/-- A step of one thread: what it draws becomes its own, what it inserts is used up, and the
ids of the other threads stay theirs. -/
theorem Drawn.step (backend : DrawsAsBackend system) {owner : Nat → ObjectId → Prop}
    (drawn : Drawn owner pool) {index : Nat}
    {thread : Thread UserOperation Command Reply ServiceError Answer} {command : Command}
    {next : Reply command → Handler Answer} (present : pool.threads[index]? = some thread)
    (running : thread.status = .running (.call command next)) :
    Drawn (fun place => if place = index then
        command.ownedAfter (owner index) (system.exec command pool.shared).2 else owner place)
      (system.next (.step index) pool) := by
  have inserts := drawn.threads index thread _ present running
  have ids := exec_ids command pool.shared
  rw [System.next_step_of_get present, running]
  simp only [System.advance, backend.state]
  generalize later : (Backend.exec command pool.shared).1 = store at ids
  have grown : command = .newObjectId → pool.shared.nextObjectId < store.nextObjectId := by
    rintro rfl
    rw [← later]
    exact Nat.lt_succ_self _
  -- an id someone owns after the step was owned before, or has just been drawn
  have owned : ∀ place id, (if place = index then command.ownedAfter (owner index)
      (system.exec command pool.shared).2 else owner place) id →
      (owner place id ∧ ∀ user at_, command = .write (.insertUser user) at_ → id ≠ user.id) ∨
        (place = index ∧ command = .newObjectId ∧ id = pool.shared.nextObjectId) := by
    intro place id owns
    by_cases same : place = index
    · rw [if_pos same] at owns
      obtain ⟨held | new, other⟩ := ownedAfter_exec backend owns
      · exact .inl ⟨same ▸ held, other⟩
      · exact .inr ⟨same, new⟩
    · rw [if_neg same] at owns
      refine .inl ⟨owns, fun user at_ issued clash => same ?_⟩
      subst issued
      exact drawn.apart place index id owns (clash ▸ inserts.1)
  refine ⟨?_, ?_, ?_, ?_, ?_⟩
  · intro user member
    rcases ids.2 user member with ⟨old, inside, same⟩ | ⟨at_, rfl⟩
    · rw [← same]
      exact lt_of_lt_of_le (drawn.users old inside) ids.1
    · exact lt_of_lt_of_le (drawn.drawn index _ inserts.1) ids.1
  · intro place id owns
    rcases owned place id owns with ⟨held, _⟩ | ⟨_, draws, rfl⟩
    · exact lt_of_lt_of_le (drawn.drawn place id held) ids.1
    · exact grown draws
  · intro first second id left right
    rcases owned first id left with ⟨held, _⟩ | ⟨here, _, rfl⟩
    · rcases owned second id right with ⟨held', _⟩ | ⟨_, _, rfl⟩
      · exact drawn.apart first second id held held'
      · exact (lt_irrefl _ (drawn.drawn first _ held)).elim
    · rcases owned second _ right with ⟨held', _⟩ | ⟨there, _, _⟩
      · exact (lt_irrefl _ (drawn.drawn second _ held')).elim
      · exact here.trans there.symm
  · intro place id owns
    apply fetch_eq_none.mpr
    intro user member same
    rcases ids.2 user member with ⟨old, inside, equal⟩ | ⟨at_, issued⟩
    · rcases owned place id owns with ⟨held, _⟩ | ⟨_, _, rfl⟩
      · exact fetch_eq_none.mp (drawn.unused place id held) old inside (equal.trans same)
      · exact absurd (drawn.users old inside) (by rw [equal, same]; exact lt_irrefl _)
    · rcases owned place id owns with ⟨_, other⟩ | ⟨_, draws, _⟩
      · exact other user at_ issued same.symm
      · cases issued.symm.trans draws
  · intro place other program found runs
    by_cases same : index = place
    · subst same
      rw [List.getElem?_set_self (List.getElem?_eq_some_iff.mp present).1] at found
      cases found
      cases runs
      rw [if_pos rfl]
      exact inserts.2 _
    · rw [List.getElem?_set_ne same] at found
      rw [if_neg (Ne.symm same)]
      exact drawn.threads place other program found runs

omit [Libraries] in
/-- A decision that stops threads, or starts one that has drawn nothing. -/
theorem Drawn.of_threads {owner : Nat → ObjectId → Prop} {later : ServicePool}
    (drawn : Drawn owner pool) (users : later.shared.users = pool.shared.users)
    (ids : later.shared.nextObjectId = pool.shared.nextObjectId)
    (threads : ∀ (index : Nat) thread program, later.threads[index]? = some thread →
      thread.status = .running program → pool.threads[index]? = some thread ∨
        Handler.InsertsDrawn (fun _ => False) program) : Drawn owner later := by
  refine ⟨?_, ?_, drawn.apart, ?_, ?_⟩
  · rw [users, ids]
    exact drawn.users
  · rw [ids]
    exact drawn.drawn
  · rw [users]
    exact drawn.unused
  · intro index thread program found running
    rcases threads index thread program found running with old | fresh
    · exact drawn.threads index thread program old running
    · exact fresh.mono fun _ => False.elim

/-- One decision of the scheduler keeps it settled whose the drawn ids are. A new thread
owns none. -/
theorem Drawn.next (backend : DrawsAsBackend system) {owner : Nat → ObjectId → Prop}
    (drawn : Drawn owner pool) {label : ServiceLabel}
    (inserts : ∀ operation, label = .spawn operation →
      Handler.InsertsDrawn (fun _ => False) (system.code operation)) :
    ∃ owner, Drawn owner (system.next label pool) := by
  cases label with
  | spawn operation =>
      refine ⟨owner, drawn.of_threads rfl rfl fun index thread program found running => ?_⟩
      rcases System.get_next found with ⟨old, _⟩ | ⟨_, same, _, rfl⟩ |
        ⟨_, _, ⟨stepped, _⟩ | ⟨crashed, _⟩⟩
      · exact .inl old
      · cases same
        cases running
        exact .inr (inserts _ rfl)
      · exact nomatch stepped
      · exact nomatch crashed
  | step index =>
      cases found : pool.threads[index]? with
      | none => exact ⟨owner, by rwa [System.next_step_of_none found]⟩
      | some thread =>
          cases pending : thread.pending with
          | some command =>
              obtain ⟨next, running⟩ := Thread.running_of_pending pending
              exact ⟨_, drawn.step backend found running⟩
          | none =>
              obtain ⟨same, stopped⟩ :
                  (system.advance thread.status pool.shared).1 = pool.shared ∧
                    ∀ program, (system.advance thread.status pool.shared).2 ≠ .running program :=
                System.advance_of_idle pending
              refine ⟨owner, drawn.of_threads ?_ ?_ fun place other program found' running => ?_⟩
              · rw [System.next_step_of_get found, same]
              · rw [System.next_step_of_get found, same]
              · rcases System.get_next found' with ⟨old, _⟩ | ⟨_, spawned, _⟩ |
                  ⟨old, present, ⟨stepped, rfl⟩ | ⟨crashed, _⟩⟩
                · exact .inl old
                · exact nomatch spawned
                · cases stepped
                  cases present.symm.trans found
                  exact (stopped program running).elim
                · exact nomatch crashed
  | crash index =>
      have same : (system.next (.crash index) pool).shared = pool.shared := by
        cases found : pool.threads[index]? with
        | none => rw [System.next_crash_of_none found]
        | some thread => rw [System.next_crash_of_get found]
      refine ⟨owner, drawn.of_threads (by rw [same]) (by rw [same])
        fun place other program found running => ?_⟩
      rcases System.get_next found with ⟨old, _⟩ | ⟨_, spawned, _⟩ |
        ⟨old, _, ⟨stepped, _⟩ | ⟨_, rfl⟩⟩
      · exact .inl old
      · exact nomatch spawned
      · exact nomatch stepped
      · exact (System.crash_ne_running old.status program running).elim
  | environment event =>
      have frame : (system.environment event pool.shared).users = pool.shared.users ∧
          (system.environment event pool.shared).nextObjectId = pool.shared.nextObjectId := by
        rw [backend.environment]
        cases event <;> exact ⟨rfl, rfl⟩
      exact ⟨owner, drawn.of_threads frame.1 frame.2 fun _ _ _ found _ => .inl found⟩

/-- In every state of a run it is settled which thread has drawn which of the ids that are
not inserted yet, and no id is two threads'. The induction is on the run. -/
theorem exists_drawn (backend : DrawsAsBackend system)
    {allowed : ServiceLabel → ServicePool → Prop} {start : Backend}
    (ids : ∀ user ∈ start.users, user.id < start.nextObjectId)
    (inserts : ∀ operation pool, allowed (.spawn operation) pool →
      Handler.InsertsDrawn (fun _ => False) (system.code operation))
    (reached : system.Reaches allowed ⟨start, []⟩ pool) : ∃ owner, Drawn owner pool := by
  induction reached with
  | refl =>
      refine ⟨fun _ _ => False, ids, fun _ _ => False.elim, fun _ _ _ => False.elim,
        fun _ _ => False.elim, fun _ _ _ found => ?_⟩
      cases found
  | step label _ permitted ih =>
      obtain ⟨owner, drawn⟩ := ih
      refine drawn.next backend fun operation same => ?_
      subst same
      exact inserts operation _ permitted

/-- Whatever overlaps, no stored user carries an id yet to be drawn, if none did at the
start. -/
theorem ids_drawn {allowed : ServiceLabel → ServicePool → Prop} {start : Backend}
    (ids : ∀ user ∈ start.users, user.id < start.nextObjectId)
    (reached : userService.Reaches allowed ⟨start, []⟩ pool) :
    ∀ user ∈ pool.shared.users, user.id < pool.shared.nextObjectId := by
  have backend : DrawsAsBackend userService := ⟨fun _ _ => rfl, fun _ => rfl, rfl⟩
  obtain ⟨owner, drawn⟩ := exists_drawn backend ids
    (fun operation _ _ => handle_insertsDrawn operation) reached
  exact drawn.users

end Pools

end NestMonorepo
