import NestMonorepo.Database.ObjectIds
import NestMonorepo.Users.Reads

/-! # Revocation by token version

A refresh token carries the token version its pair was minted with, and a
refresh passes only while the user's stored version is still that one. Password
reset, upgrade and deletion bump the version by read-modify-write: the flush
stores one more than the value read, whatever has been stored meanwhile.
-/

namespace NestMonorepo

open Collections Concurrency Handler UsersService

section Law

variable [Libraries]

/-- The gate of a refresh: the user service answers the presented version. -/
def PassesGate (store : Backend) (subject : String) (tokenVersion : Nat) : Prop :=
  ((UsersController.getUserTokenVersion subject).run Backend.exec store).2 = .ok tokenVersion

/-- A subject passes the gate with the stored version of a live user only: an unknown or
deleted one has no version. -/
theorem PassesGate.live {store : Backend} {subject : String} {tokenVersion : Nat}
    (passes : PassesGate store subject tokenVersion) :
    ∃ user ∈ store.users, Libraries.ofHexString subject = some user.id ∧ user.Live ∧
      user.tokenVersion = tokenVersion := by
  unfold PassesGate UsersController.getUserTokenVersion findById at passes
  cases parsed : Libraries.ofHexString subject with
  | none => simp only [parsed, Program.fail_bind, Program.run_fail, reduceCtorEq] at passes
  | some id =>
      simp only [parsed, findUser, await, Program.perform_bind, Program.call_bind,
        Program.run_call, Backend.exec, Backend.answer] at passes
      cases up : store.databaseUp with
      | false =>
          simp only [up, Bool.false_eq_true, ↓reduceIte, ofReply_error, Program.fail_bind,
            Program.run_fail, reduceCtorEq] at passes
      | true =>
          simp only [up, ↓reduceIte, ofReply_ok, Program.ret_bind] at passes
          cases found : store.users.find? (UserFilter.byId id).accepts with
          | none =>
              simp only [found, throwException, Program.fail_bind, Program.run_fail,
                reduceCtorEq] at passes
          | some user =>
              by_cases live : user.deletedAt = none
              · simp only [found, live, Option.isSome_none, Bool.false_eq_true, ↓reduceIte,
                  Program.pure_eq, Program.ret_bind, Program.run_ret, Except.ok.injEq] at passes
                have accepted : (UserFilter.byId id).accepts user = true := List.find?_some found
                have same : user.id = id := of_decide_eq_true accepted
                exact ⟨user, List.mem_of_find?_eq_some found, congrArg some same.symm, live, passes⟩
              · simp only [found, Option.isSome_iff_ne_none.mpr live, ↓reduceIte, throwException,
                  Program.fail_bind, Program.run_fail, reduceCtorEq] at passes

/-! ## The law -/

/-- A thread of the pool handed out the identity: its pair has been minted. -/
def MintedBy (pool : ServicePool) (subject : String) (tokenVersion : Nat) : Prop :=
  ∃ thread ∈ pool.threads, ∃ answer, thread.status = .returned answer ∧
    issued thread.operation answer = some (subject, tokenVersion)

/-- The next step of a thread completes an operation on a user: its flush of the
user's document is applied. -/
def Completes (pool : ServicePool) (index : Nat) (operation : UserOperation) (id : ObjectId) :
    Prop :=
  ∃ thread changes at_ next, pool.threads[index]? = some thread ∧
    thread.operation = operation ∧
    thread.status = .running (.call (.write (.updateUser id changes) at_) next) ∧
    pool.shared.Applies (.updateUser id changes)

/-- Revocation over the `admitted` runs: once a reset, upgrade or deletion has completed,
the pairs minted before fail the gate; after a deletion every pair does. -/
def Revokes (admitted : List ServiceLabel → Prop) (start : Backend) : Prop :=
  ∀ labels index later operation id subject tokenVersion,
    admitted (labels ++ .step index :: later) → operation.Revokes →
    Completes (userService.schedule ⟨start, []⟩ labels) index operation id →
    Libraries.ofHexString subject = some id →
    MintedBy (userService.schedule ⟨start, []⟩ labels) subject tokenVersion ∨
      (∃ userId, operation = .deleteUser userId) →
    ¬PassesGate (userService.schedule ⟨start, []⟩ (labels ++ .step index :: later)).shared subject
      tokenVersion

/-! ## Where it holds -/

/-- At the position the flush of a revoking operation on the user is applied. -/
def FlushesRevocation (start : Backend) (labels : List ServiceLabel) (position index : Nat)
    (id : ObjectId) : Prop :=
  ∃ operation changes, UserOperation.Revokes operation ∧
    WritesAt start labels position index operation (.updateUser id changes)

/-- Between a revoking operation's read of the user and its flush no revoking operation's
flush of that user is applied. -/
def BumpsApart (start : Backend) (labels : List ServiceLabel) : Prop :=
  ∀ index id loading flushing, LoadsUser start labels loading index id →
    FlushesRevocation start labels flushing index id →
    ∀ position other, loading < position → position < flushing →
      ¬FlushesRevocation start labels position other id

/-! ## What it says of each flush -/

/-- A flush that bumps the token version of a live user is applied while the
stored version is the one the operation read: it stores the next one. -/
def BumpsCurrent (command : Command) (store : Backend) : Prop :=
  ∀ id changes at_ version, command = .write (.updateUser id changes) at_ →
    store.Applies (.updateUser id changes) → changes.tokenVersion = some version →
    ∀ stored ∈ store.users, stored.id = id → stored.Live → version = stored.tokenVersion + 1

/-- A step that performs its command where it bumps the current version. -/
def CurrentBumps (label : ServiceLabel) (pool : ServicePool) : Prop :=
  ∀ index thread command, label = .step index → pool.threads[index]? = some thread →
    thread.pending = some command → BumpsCurrent command pool.shared

/-- A token version is bumped by a revoking operation only, and from the version that it has
read. -/
theorem ComputedFrom.bumps {known : Set Reading} {operation : UserOperation} {id : ObjectId}
    {changes : UserChanges} {version : Nat}
    (computed : ComputedFrom known operation (.updateUser id changes))
    (bumps : changes.tokenVersion = some version) :
    operation.Revokes ∧ ∃ filter loaded, .user filter (some loaded) ∈ known ∧ loaded.id = id ∧
      version = loaded.tokenVersion + 1 := by
  have bumped : ∀ {current next : Nat}, next = current + 1 →
      changed current next = some version → version = current + 1 := by
    rintro current _ rfl stored
    rw [changed_of_ne (Nat.succ_ne_self current).symm] at stored
    exact (Option.some.inj stored).symm
  have kept : ∀ {current : Nat}, changed current current ≠ some version := by
    intro current
    rw [changed_self]
    exact nofun
  cases computed with
  | device device => exact device.elim
  | upgrade upgradedAt found _ credentials _ =>
      obtain ⟨_, _, read, _⟩ := found
      exact ⟨trivial, _, _, read, rfl, bumped (congrArg (· + 1) credentials.tokenVersion) bumps⟩
  | reset passwordHash read => exact ⟨trivial, _, _, read, rfl, bumped rfl bumps⟩
  | deletion deletedAt found =>
      obtain ⟨_, _, read, _⟩ := found
      exact ⟨trivial, _, _, read, rfl, bumped rfl bumps⟩
  | merge => exact (kept bumps).elim
  | resetRequest => exact (kept bumps).elim
  | profile => exact (kept bumps).elim

section Apart

variable {start : Backend} {labels : List ServiceLabel}

/-- While no revoking flush of a user is applied, its token version stays. -/
theorem tokenVersion_between {id : ObjectId} {first last : Nat} (order : first ≤ last)
    (quiet : ∀ position other, first ≤ position → position < last →
      ¬FlushesRevocation start labels position other id) :
    Carried (fun earlier later => later.id = earlier.id ∧
        (earlier.id = id → later.tokenVersion = earlier.tokenVersion))
      (standing start labels first).shared (standing start labels last).shared := by
  refine carried_between (fun _ => ⟨rfl, fun _ => rfl⟩) (fun left right => ?_) order ?_
  · exact ⟨right.1.trans left.1, fun same => (right.2 (left.1.trans same)).trans (left.2 same)⟩
  · intro position from_ below index operation target changes at_ writes user member same
    refine ⟨rfl, fun concerned => ?_⟩
    change changes.tokenVersion.getD user.tokenVersion = user.tokenVersion
    cases bumps : changes.tokenVersion with
    | none => rfl
    | some version =>
        rw [show target = id from same.symm.trans concerned] at writes
        obtain ⟨revokes, _⟩ := writes.computedFrom.bumps bumps
        exact (quiet position index from_ below ⟨operation, changes, revokes, writes⟩).elim

/-- Where revoking operations on a user do not overlap, each bumps the version it
replaces. -/
theorem BumpsApart.admits (distinct : DistinctIds start) (apart : BumpsApart start labels) :
    userService.Admits CurrentBumps labels ⟨start, []⟩ := by
  apply System.admits_of_forall
  rintro position _ here index thread _ rfl present pending id changes at_ version rfl applies bumps
    stored member same live
  have writes : WritesAt start labels position index thread.operation (.updateUser id changes) :=
    ⟨thread, at_, ⟨here, present, pending⟩, rfl, applies⟩
  obtain ⟨revokes, filter, loaded, known, named, rfl⟩ := writes.computedFrom.bumps bumps
  obtain ⟨loading, earlier, read⟩ := readsAt_of_learnt known
  have quiet := apart index id loading position ⟨filter, loaded, read, named⟩
    ⟨_, changes, revokes, writes⟩
  have carried := tokenVersion_between earlier fun between other from_ below =>
    quiet between other from_ below
  obtain ⟨later, inside, identity, _, version⟩ := carried loaded read.stored.1
  have held : stored ∈ (standing start labels position).shared.users := member
  rw [(standing_distinct distinct position).unique held inside
    (same.trans (named.symm.trans identity.symm)), version named]

end Apart

/-- A later version of a document: if it is live so was the earlier one, with a
token version no larger. -/
def User.Outlives (earlier later : User) : Prop :=
  later.Live → earlier.Live ∧ earlier.tokenVersion ≤ later.tokenVersion

omit [Libraries] in
/-- Every user is a later version of themselves. -/
theorem User.Outlives.refl (user : User) : user.Outlives user := fun live => ⟨live, le_refl _⟩

omit [Libraries] in
/-- A later version of a later version is one. -/
theorem User.Outlives.trans {first second third : User} (left : first.Outlives second)
    (right : second.Outlives third) : first.Outlives third := fun live =>
  ⟨(left (right live).1).1, le_trans (left (right live).1).2 (right live).2⟩

/-- Token versions of live users never decrease. -/
def revocationContract : ServiceContract where
  rely := Carried User.Outlives
  refl _ := .of_users_eq User.Outlives.refl rfl
  trans := Carried.trans User.Outlives.trans
  keeps := DistinctIds
  permitted := BumpsCurrent

/-- The update of a grounded write, applied to the current version of a user. -/
theorem outlives_apply {operation : UserOperation} {read store : Backend} {id : ObjectId}
    {changes : UserChanges} {after : Option Command} {at_ : Millis}
    (issues : WriteOf revocationContract operation read (.updateUser id changes) after)
    (current : BumpsCurrent (.write (.updateUser id changes) at_) store)
    (applies : store.Applies (.updateUser id changes)) {user : User} (member : user ∈ store.users)
    (same : user.id = id) : user.Outlives (user.apply changes at_) := by
  intro live
  obtain ⟨before, _⟩ := User.live_of_apply issues.never_revives live
  refine ⟨before, ?_⟩
  change user.tokenVersion ≤ changes.tokenVersion.getD user.tokenVersion
  cases bumped : changes.tokenVersion with
  | none => exact le_refl _
  | some version =>
      rw [current id changes at_ version rfl applies bumped user member same before]
      exact Nat.le_succ _

/-- The revocation contract is tame: a grounded write that bumps the current version takes a
live user's version one up, and no other one touches it. -/
theorem revocationContract_tame : Tame revocationContract :=
  .of_carried User.Outlives.refl Iff.rfl Iff.rfl fun issues current applies _ member same =>
    outlives_apply issues current applies member same

/-- Runs whose bumps are current respect the revocation contract: what they write is
permitted, and the environment leaves the users alone. -/
theorem currentBumps_respects : userService.Respects revocationContract CurrentBumps :=
  respects_of_carried User.Outlives.refl Iff.rfl Iff.rfl fun allowed present pending =>
    allowed _ _ _ rfl present pending

/-- Where no two revoking operations on a user overlap, revocation holds over every
interleaving of any number of operations. -/
theorem revokes_of_bumpsApart (start : Backend) (distinct : DistinctIds start) :
    Revokes (BumpsApart start) start := by
  intro labels index later operation id subject tokenVersion apart revokes completes parsed minted
    passes
  obtain ⟨first, rest⟩ := System.admits_append.mp (apart.admits distinct)
  have reached : userService.Reaches CurrentBumps ⟨start, []⟩ _ := .of_admits first
  have allowed := rest.1
  have continued : userService.Reaches CurrentBumps _ _ := .of_admits rest.2
  rw [System.schedule_append] at passes
  change PassesGate (userService.schedule (userService.next (.step index) _) later).shared _ _
    at passes
  generalize userService.schedule ⟨start, []⟩ labels = before at *
  generalize userService.schedule (userService.next (.step index) before) later = finish at *
  obtain ⟨sound, _⟩ := ServiceSound.reaches revocationContract_tame currentBumps_respects
    (.initial distinct) reached
  obtain ⟨thread, changes, at_, next, present, rfl, running, applies⟩ := completes
  have member := List.mem_of_getElem? present
  obtain ⟨read, relied, _, issues⟩ := sound.grounded member running
  have current := allowed index thread _ rfl present
    (by rw [Thread.pending, running]; rfl)
  obtain ⟨soundNext, _⟩ := sound.next currentBumps_respects
    (fun operation _ _ _ => handle_valid revocationContract_tame operation) allowed
  obtain ⟨soundFinish, carried⟩ := ServiceSound.reaches revocationContract_tame
    currentBumps_respects soundNext continued
  rw [next_write present running applies] at carried
  obtain ⟨user, inside, parsed', live, version⟩ := passes.live
  have identified : user.id = id := Option.some.inj (parsed'.symm.trans parsed)
  -- whoever was stored under the id when the flush came is the user the gate finds
  have outlived : ∀ stored ∈ before.shared.users, stored.id = id →
      (stored.apply changes at_).Outlives user := by
    intro stored held same
    obtain ⟨last, present', lastId, outlives⟩ := carried _ (mem_modifyAt_of_eq held same)
    rwa [soundFinish.keeps.unique present' inside
      (lastId.trans (same.trans identified.symm))] at outlives
  cases minted with
  | inl minted =>
      obtain ⟨minter, minting, answer, returned, identity⟩ := minted
      obtain ⟨seen, relied', _, earlier, there, subjectId, seenVersion⟩ :=
        sound.minted minting returned identity
      obtain ⟨stored, held, storedId, outlives⟩ := relied' earlier there
      have same : stored.id = id :=
        storedId.trans (Option.some.inj (subjectId.symm.trans parsed))
      obtain ⟨alive, bounded⟩ := outlived stored held same live
      obtain ⟨storedLive, _⟩ := User.live_of_apply issues.never_revives alive
      obtain ⟨bump, written⟩ := issues.tokenVersion_of_revokes revokes
      have next := current id changes at_ bump rfl applies written stored held same storedLive
      change changes.tokenVersion.getD stored.tokenVersion ≤ user.tokenVersion at bounded
      have older := (outlives storedLive).2
      rw [written, Option.getD_some] at bounded
      omega
  | inr deletion =>
      obtain ⟨userId, isDeletion⟩ := deletion
      obtain ⟨target, targeted, targetId⟩ := issues.target
      obtain ⟨stored, held, storedId, _⟩ := relied target targeted
      obtain ⟨alive, _⟩ := outlived stored held (storedId.trans targetId) live
      obtain ⟨_, untouched⟩ := User.live_of_apply issues.never_revives alive
      exact issues.deletedAt_ne_none userId isDeletion untouched

end Law

/-! ## Two overlapping upgrades -/

section Overlap

open scoped Plain

/-- The upgrade of the first user by one identity of a provider. -/
def upgradeBy (provider : OAuthProvider) (providerUserId : String) : UserOperation :=
  .upgradeAccount (ObjectIds.toHexString 0)
    { method := .oauth provider, providerUserId := some providerUserId }

/-- One anonymous account and its upgrade up to the flush. -/
def flushingOnce : List ServiceLabel :=
  [.spawn (.createAutoregUser { fingerprint := "f" })] ++ List.replicate 8 (.step 0) ++
    [.spawn (upgradeBy .google "g")] ++ List.replicate 5 (.step 1)

/-- The one flush of a run overlaps no other. -/
theorem flushingOnce_apart : BumpsApart {} (flushingOnce ++ [.step 1]) := by
  have once : ∀ position < 16, ((userService.performed ⟨{}, []⟩ (flushingOnce ++ [.step 1])
      position).all fun done => done.2.2.write?.all fun write =>
        !write.updatesUser || decide (position = 15)) = true := by decide
  have last : ∀ position index id,
      FlushesRevocation {} (flushingOnce ++ [.step 1]) position index id → position = 15 := by
    rintro position index id ⟨operation, changes, _, thread, at_, performs, _⟩
    have here := once position performs.lt_length
    rw [performs.performed] at here
    exact of_decide_eq_true here
  intro index id loading flushing _ flushes position other _ below again
  rw [last _ _ _ flushes, last _ _ _ again] at below
  exact Nat.lt_irrefl _ below

/-- The premises are met by a registration and an upgrade: the pair minted at the
registration fails the gate once the upgrade has completed. -/
theorem revokes_from_empty :
    Completes (userService.schedule ⟨{}, []⟩ flushingOnce) 1 (upgradeBy .google "g") 0 ∧
    MintedBy (userService.schedule ⟨{}, []⟩ flushingOnce) (ObjectIds.toHexString 0) 0 ∧
    ¬PassesGate (userService.schedule ⟨{}, []⟩ (flushingOnce ++ [.step 1])).shared
      (ObjectIds.toHexString 0) 0 := by
  have completes : Completes (userService.schedule ⟨{}, []⟩ flushingOnce) 1
      (upgradeBy .google "g") 0 := ⟨_, _, _, _, rfl, rfl, rfl, by decide⟩
  have minted : MintedBy (userService.schedule ⟨{}, []⟩ flushingOnce) (ObjectIds.toHexString 0) 0 :=
    ⟨_, List.mem_of_getElem? (i := 0) rfl, _, rfl, rfl⟩
  exact ⟨completes, minted, revokes_of_bumpsApart {} List.nodup_nil flushingOnce 1 []
    (upgradeBy .google "g") 0 _ 0 flushingOnce_apart trivial completes
    (ObjectIds.ofHexString_toHexString 0) (.inl minted)⟩

/-- One anonymous account and two upgrades of it, both of which read the account
before either flushes; the first then runs to its end, and the second up to its
flush. -/
def overlappingUpgrades : List ServiceLabel :=
  [.spawn (.createAutoregUser { fingerprint := "f" })] ++ List.replicate 8 (.step 0) ++
    [.spawn (upgradeBy .google "g"), .spawn (upgradeBy .apple "a"), .step 1, .step 2] ++
    List.replicate 7 (.step 1) ++ List.replicate 4 (.step 2)

/-- The second flush stores the version the first one stored: the pair minted
for the first upgrade survives the completion of the second. -/
theorem not_revokes_of_overlap : ¬Revokes (fun _ => True) {} := by
  intro revokes
  have minted : MintedBy (userService.schedule ⟨{}, []⟩ overlappingUpgrades)
      (ObjectIds.toHexString 0) 1 :=
    ⟨_, List.mem_of_getElem? (i := 1) rfl, _, rfl, rfl⟩
  have completes : Completes (userService.schedule ⟨{}, []⟩ overlappingUpgrades) 2
      (upgradeBy .apple "a") 0 := ⟨_, _, _, _, rfl, rfl, rfl, by decide⟩
  have passes : PassesGate (userService.schedule ⟨{}, []⟩ (overlappingUpgrades ++ [.step 2])).shared
      (ObjectIds.toHexString 0) 1 := rfl
  exact revokes overlappingUpgrades 2 [] (upgradeBy .apple "a") 0 _ 1 trivial trivial completes
    (ObjectIds.ofHexString_toHexString 0) (.inl minted) passes

end Overlap

end NestMonorepo
