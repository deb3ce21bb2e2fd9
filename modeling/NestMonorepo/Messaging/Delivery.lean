import NestMonorepo.Database.ObjectIds
import NestMonorepo.Users.EventRows

/-! # What the status of an outbox row promises

A sweep stamps a row `sent` after `publishEvent` has returned. That the row's
message then was on an open channel depends on the bus at that moment, because
`publishEvent` returns however the publication ended.
-/

namespace NestMonorepo

open Collections Concurrency Handler UsersService

/-- A channel that was open has taken the row's message: its pattern and its payload, with
a trace id. -/
def Published (store : Backend) (row : OutboxEvent) : Prop :=
  ∃ traceId, (row.id, ⟨row.pattern, EventBusService.attachTraceId traceId row.payload⟩) ∈
    store.bus.accepted

/-- Every row that counts as sent was published. -/
def SentPublished (store : Backend) : Prop :=
  ∀ row ∈ store.outbox, row.status = .sent → Published store row

section Law

variable [Libraries]

/-- The outbox loses no event over the runs whose steps are `allowed`: every
stored row is pending, failed or published. -/
def LosesNoEvent (allowed : ServiceLabel → ServicePool → Prop) (start : Backend) : Prop :=
  ∀ pool, userService.Reaches allowed ⟨start, []⟩ pool → ∀ row ∈ pool.shared.outbox,
    row.status = .pending ∨ row.status = .failed ∨ Published pool.shared row

/-! ## Where it holds -/

/-- The bus takes what is published: it is wired, its channel is open, and
`publish` does not throw. -/
def PublishesReady (command : Command) (store : Backend) : Prop :=
  ∀ row pattern payload, command = .publishEvent row pattern payload →
    EventBusService.Ready store.bus

/-- A step that publishes, if at all, on a bus that takes the message. -/
def ReadyPublications (label : ServiceLabel) (pool : ServicePool) : Prop :=
  ∀ index thread command, label = .step index → pool.threads[index]? = some thread →
    thread.pending = some command → PublishesReady command pool.shared

/-- Messages are only ever added to what the bus has accepted: no command takes one back. -/
theorem accepted_subset_exec (command : Command) (store : Backend) :
    store.bus.accepted ⊆ (Backend.exec command store).1.bus.accepted := by
  cases command with
  | publishEvent row pattern payload =>
      exact RpcClientService.accepted_subset_publishEvent row pattern payload _ store.bus
  | write write at_ =>
      by_cases applies : store.Applies write
      · simp only [Backend.exec, applies.1, ↓reduceIte, Backend.write_of_none applies.2]
        cases write <;> exact List.Subset.refl _
      · rw [Backend.exec_write_of_not_applies applies]
        exact List.Subset.refl _
  | deleteDevices filter =>
      simp only [Backend.exec]
      split <;> exact List.Subset.refl _
  | deleteUser id =>
      simp only [Backend.exec]
      split <;> exact List.Subset.refl _
  | argon2Hash password =>
      simp only [Backend.exec]
      split <;> exact List.Subset.refl _
  | sendPasswordReset email token =>
      simp only [Backend.exec]
      split <;> exact List.Subset.refl _
  | beginSweep =>
      simp only [Backend.exec]
      split <;> exact List.Subset.refl _
  | _ => exact List.Subset.refl _

omit [Libraries] in
/-- The environment takes no message from the bus, nor does it give it one. -/
theorem environment_accepted (event : Backend.Event) (store : Backend) :
    (Backend.environment event store).bus.accepted = store.bus.accepted := by
  cases event with
  | bus event => exact EventBusService.lifecycle_accepted event store.bus
  | _ => rfl

section Run

variable {start : Backend} {labels : List ServiceLabel}

variable (start labels) in
/-- What has been accepted stays accepted. -/
theorem accepted_between {first last : Nat} (order : first ≤ last) :
    (standing start labels first).shared.bus.accepted ⊆
      (standing start labels last).shared.bus.accepted := by
  induction last, order using Nat.le_induction with
  | base => exact List.Subset.refl _
  | succ last _ ih =>
      refine List.Subset.trans ih ?_
      rcases userService.before_shared_cases ⟨start, []⟩ labels last with
        same | ⟨index, thread, command, performs⟩ | ⟨event, same⟩
      · rw [show (standing start labels (last + 1)).shared = _ from same]
        exact List.Subset.refl _
      · rw [show (standing start labels (last + 1)).shared = _ from performs.shared]
        exact accepted_subset_exec command _
      · rw [show (standing start labels (last + 1)).shared = _ from same]
        exact (environment_accepted event (standing start labels last).shared) ▸ List.Subset.refl _

/-- The pending row whose publication a ready bus takes is published, whatever version of it
is stored by then. -/
theorem published_of_performs {publishing index : Nat} {row version : OutboxEvent}
    {thread : Thread UserOperation Command Reply ServiceError Answer}
    (admitted : userService.Admits ReadyPublications labels ⟨start, []⟩)
    (performs : userService.PerformsAt ⟨start, []⟩ labels publishing index thread
      (.publishEvent row.id row.pattern row.payload))
    (becomes : row.Becomes version) (queued : row.status ≠ .failed) :
    Published (standing start labels (publishing + 1)).shared version := by
  have ready := admitted.allowed performs.1 index thread _ rfl performs.2.1 performs.2.2 _ _ _ rfl
  refine ⟨Libraries.randomHex (standing start labels publishing).shared.randomDraws, ?_⟩
  rw [becomes.id, becomes.pattern, (becomes.kept queued).2,
    show (standing start labels (publishing + 1)).shared = _ from performs.shared]
  exact RpcClientService.accepted_publishEvent_of_ready ready row.id row.pattern row.payload _

omit [Libraries] in
/-- A published row stays published: the bus keeps what it took, and a later version of the
row is of the same message. -/
theorem Published.mono {store later : Backend} {row version : OutboxEvent}
    (kept : store.bus.accepted ⊆ later.bus.accepted) (id : version.id = row.id)
    (pattern : version.pattern = row.pattern) (payload : version.payload = row.payload)
    (published : Published store row) : Published later version := by
  obtain ⟨traceId, member⟩ := published
  refine ⟨traceId, kept ?_⟩
  rwa [id, pattern, payload]

/-- At each position of a run on a bus that takes what is published, the rows that count as
sent have been published. -/
theorem sentPublished_standing (distinct : DistinctRows start) (published : SentPublished start)
    (admitted : userService.Admits ReadyPublications labels ⟨start, []⟩) (position : Nat) :
    SentPublished (standing start labels position).shared := by
  induction position with
  | zero => exact published
  | succ position ih =>
      intro row member sent
      have grows := accepted_between start labels (Nat.le_succ position)
      rcases standing_cases start labels position with
        ⟨_, same⟩ | ⟨index, operation, write, at_, writes, stored⟩
      · exact (ih row (same ▸ member) sent).mono grows rfl rfl rfl
      rw [stored] at member
      rcases mem_stored_outbox member with present | rfl | ⟨old, present, changes, rfl, rfl⟩
      · exact (ih row present sent).mono grows rfl rfl rfl
      · -- inserted rows are pending
        cases writes.computedFrom with
        | device device => exact device.elim
        | row => cases sent
      · cases writes.rowSource with
        | requeue _ _ _ failed _ computed =>
            change changes.status.getD old.status = .sent at sent
            rw [computed] at sent
            exact nomatch (revived_status failed old.status).symm.trans sent
        | @stamp reading publishing source thread now before inside same pending earlier performs =>
            have queued : source.status ≠ .failed := by
              rw [pending]
              decide
            obtain ⟨version, held, becomes⟩ := rows_become labels distinct (Nat.le_of_lt before)
              source inside
            rw [(standing_distinctRows distinct position).unique held present
              (becomes.id.trans same)] at becomes
            have stamped := becomes.trans (writes.becomes distinct (fun reading before =>
              rows_become labels distinct (Nat.le_of_lt before)) present rfl at_)
            exact (published_of_performs admitted performs stamped queued).mono
              (accepted_between start labels (Nat.succ_le_succ (Nat.le_of_lt earlier))) rfl rfl rfl

end Run

/-- Where every publication finds a bus that takes it, no event is lost, over
every interleaving of operations, sweeps, start-up, shutdown and crashes. -/
theorem losesNoEvent_of_readyPublications (start : Backend) (distinct : DistinctRows start)
    (published : SentPublished start) : LosesNoEvent ReadyPublications start := by
  intro pool reached row member
  obtain ⟨labels, admitted, rfl⟩ := reached.exists_admits
  rw [← System.before_length] at member ⊢
  cases status : row.status with
  | pending => exact .inl rfl
  | failed => exact .inr (.inl rfl)
  | sent => exact .inr (.inr (sentPublished_standing distinct published admitted labels.length row
      member status))

end Law

/-! ## A sweep before the bus has started -/

section Unstarted

open scoped Plain

/-- The bus starts, an account is created and deleted, and a sweep runs. -/
def sweptDeletion : List ServiceLabel :=
  [.environment (.bus .channelCreated), .spawn (.createAutoregUser { fingerprint := "f" })] ++
    List.replicate 8 (.step 0) ++ [.spawn (.deleteUser (ObjectIds.toHexString 0))] ++
    List.replicate 9 (.step 1) ++ [.spawn .sweep] ++ List.replicate 10 (.step 2)

/-- Its one publication finds the bus ready. -/
theorem sweptDeletion_ready : userService.Admits ReadyPublications sweptDeletion ⟨{}, []⟩ := by
  have checked : ∀ position < 31, (userService.performed ⟨{}, []⟩ sweptDeletion position).all
      fun done => !done.2.2.publishes ||
        decide (EventBusService.Ready (standing {} sweptDeletion position).shared.bus) := by
    decide +kernel
  refine System.admits_of_forall ?_
  rintro position _ here index thread _ rfl present pending row pattern payload rfl
  have performs : userService.PerformsAt ⟨{}, []⟩ sweptDeletion position index thread
      (.publishEvent row pattern payload) := ⟨here, present, pending⟩
  have ready := checked position performs.lt_length
  rw [performs.performed] at ready
  exact of_decide_eq_true ready

/-- The premises are met by a deletion and a sweep with an open channel: the row of the
deletion counts as sent, and its message is on the channel. -/
theorem losesNoEvent_from_empty :
    ∃ row ∈ (userService.schedule ⟨{}, []⟩ sweptDeletion).shared.outbox, row.status = .sent ∧
      Published (userService.schedule ⟨{}, []⟩ sweptDeletion).shared row := by
  have member : _ ∈ (userService.schedule ⟨{}, []⟩ sweptDeletion).shared.outbox :=
    List.mem_of_getElem? (i := 0) rfl
  rcases losesNoEvent_of_readyPublications {} List.nodup_nil (fun _ none => nomatch none) _
    (.of_admits sweptDeletion_ready) _ member with pending | failed | published
  · cases pending
  · cases failed
  · exact ⟨_, member, rfl, published⟩

/-- An account is created and deleted, and a sweep runs before the bus has a
channel. -/
def earlySweep : ServicePool :=
  userService.schedule ⟨{}, []⟩
    ([.spawn (.createAutoregUser { fingerprint := "f" })] ++ List.replicate 8 (.step 0) ++
      [.spawn (.deleteUser (ObjectIds.toHexString 0))] ++ List.replicate 9 (.step 1) ++
      [.spawn .sweep] ++ List.replicate 10 (.step 2))

/-- A sweep that comes before the bus has a channel stamps the row as sent although nothing
was published: without a channel `publish` returns, and does not throw. -/
theorem not_losesNoEvent_of_earlySweep : ¬LosesNoEvent (fun _ _ => True) {} := by
  intro losesNone
  have lost : ∃ row ∈ earlySweep.shared.outbox, row.status = .sent ∧
      earlySweep.shared.bus.accepted = [] := by decide
  obtain ⟨row, member, sent, accepted⟩ := lost
  rcases losesNone earlySweep (.of_schedule _) row member with pending | failed | ⟨_, published⟩
  · rw [sent] at pending
    cases pending
  · rw [sent] at failed
    cases failed
  · rw [accepted] at published
    cases published

end Unstarted

end NestMonorepo
