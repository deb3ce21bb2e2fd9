import NestMonorepo.Database.ObjectIds
import NestMonorepo.Users.Reads

/-! # What a pending-purge record still holds

A deletion unsets the fields it knows of and marks the record; the record then
waits for the purge task. Whether it still identifies a person is decided by what
the record held when the deletion read it and when its flush came, and by every
flush that a message computed from an earlier read brings after that.
-/

namespace NestMonorepo

open Collections Concurrency Handler UsersService

/-- The record identifies nobody and lets nobody in. -/
structure User.Scrubbed (user : User) : Prop where
  email : user.email = none
  links : ∀ link ∈ user.oauthLinks, link.email = none
  name : user.name = none
  passwordHash : user.passwordHash = none
  resetPasswordToken : user.resetPasswordToken = none
  resetPasswordExpiry : user.resetPasswordExpiry = none

/-- Every record marked as deleted is scrubbed. -/
def NoPersonalData (store : Backend) : Prop :=
  ∀ user ∈ store.users, ¬user.Live → user.Scrubbed

/-! ## Where it holds -/

/-- The record has no name and no email in a link, and the other personal data it has, it
had some of in the same field when it was read. -/
structure User.Erasable (stored loaded : User) : Prop where
  email : stored.email ≠ none → loaded.email ≠ none
  links : ∀ link ∈ stored.oauthLinks, link.email = none
  name : stored.name = none
  passwordHash : stored.passwordHash ≠ none → loaded.passwordHash ≠ none
  resetPasswordToken : stored.resetPasswordToken ≠ none → loaded.resetPasswordToken ≠ none
  resetPasswordExpiry : stored.resetPasswordExpiry ≠ none → loaded.resetPasswordExpiry ≠ none

instance (stored loaded : User) : Decidable (stored.Erasable loaded) :=
  decidable_of_iff ((stored.email ≠ none → loaded.email ≠ none) ∧
      (∀ link ∈ stored.oauthLinks, link.email = none) ∧ stored.name = none ∧
      (stored.passwordHash ≠ none → loaded.passwordHash ≠ none) ∧
      (stored.resetPasswordToken ≠ none → loaded.resetPasswordToken ≠ none) ∧
      (stored.resetPasswordExpiry ≠ none → loaded.resetPasswordExpiry ≠ none))
    ⟨fun ⟨email, links, name, passwordHash, resetPasswordToken, resetPasswordExpiry⟩ =>
        ⟨email, links, name, passwordHash, resetPasswordToken, resetPasswordExpiry⟩,
      fun ⟨email, links, name, passwordHash, resetPasswordToken, resetPasswordExpiry⟩ =>
        ⟨email, links, name, passwordHash, resetPasswordToken, resetPasswordExpiry⟩⟩

/-- A message about an account that adds no personal data to the record it has read: a
deletion, a patch that leaves the name or unsets it, and an upgrade by an identity without
email and name. -/
def UserOperation.AddsNothing (loaded : User) : UserOperation → Prop
  | .deleteUser _ => True
  | .updateUser _ data => data.name = none ∨ data.name = some none ∨ data.name = some loaded.name
  | .upgradeAccount _ payload => payload.method ≠ .email ∧ payload.email = none ∧
      truthy payload.name = none ∧ ∀ link ∈ loaded.oauthLinks, link.email = none
  | _ => False

section Law

variable [Libraries]

/-- Whenever a message flushes an account it has read: a deletion that comes to a live
record finds it erasable, and a message that comes to a deleted one adds nothing. -/
def WholeErasures (start : Backend) (labels : List ServiceLabel) : Prop :=
  ∀ index operation id changes loading flushing filter loaded stored,
    WritesAt start labels flushing index operation (.updateUser id changes) →
    ReadsAt start labels loading index filter (some loaded) → loading < flushing →
    loaded.id = id → stored ∈ (standing start labels flushing).shared.users → stored.id = id →
    (stored.Live → ∀ userId, operation = .deleteUser userId → stored.Erasable loaded) ∧
      (¬stored.Live → operation.AddsNothing loaded)

/-! ## One flush -/

section Flush

variable {loaded stored : User}

omit [Libraries] in
/-- No change leaves the value it is applied to. -/
theorem changed_self_getD {α : Type} [DecidableEq α] (value other : α) :
    (changed value value).getD other = other := by
  rw [changed_self, Option.getD_none]

omit [Libraries] in
/-- A field that a flush unsets is gone iff it was read as set, or nothing is stored. -/
theorem unset_getD {α : Type} [DecidableEq α] (loaded stored : Option α) :
    (changed loaded none).getD stored = none ↔ (stored ≠ none → loaded ≠ none) := by
  unfold changed
  split
  · rename_i absent
    simp only [Option.getD_none, absent, ne_eq, not_true_eq_false, imp_false, not_not]
  · rename_i present
    simp only [Option.getD_some, ne_eq, present, not_false_eq_true, implies_true]

omit [Libraries] in
/-- A deletion scrubs the record it comes to iff this is erasable. -/
theorem scrubbed_apply_softDeleted (deletedAt at_ : Millis) :
    (stored.apply (loaded.changes (softDeleted loaded deletedAt)) at_).Scrubbed ↔
      stored.Erasable loaded := by
  have same : ∀ link, link ∈ (stored.apply (loaded.changes (softDeleted loaded deletedAt))
      at_).oauthLinks ↔ link ∈ stored.oauthLinks := by
    intro link
    change link ∈ (changed loaded.oauthLinks loaded.oauthLinks).getD stored.oauthLinks ↔ _
    rw [changed_self_getD]
  constructor
  · intro ⟨email, links, name, passwordHash, resetPasswordToken, resetPasswordExpiry⟩
    exact ⟨(unset_getD _ _).mp email, fun link member => links link ((same link).mpr member),
      (changed_self_getD _ _).symm.trans name, (unset_getD _ _).mp passwordHash,
      (unset_getD _ _).mp resetPasswordToken, (unset_getD _ _).mp resetPasswordExpiry⟩
  · intro ⟨email, links, name, passwordHash, resetPasswordToken, resetPasswordExpiry⟩
    exact ⟨(unset_getD _ _).mpr email, fun link member => links link ((same link).mp member),
      (changed_self_getD _ _).trans name, (unset_getD _ _).mpr passwordHash,
      (unset_getD _ _).mpr resetPasswordToken, (unset_getD _ _).mpr resetPasswordExpiry⟩

omit [Libraries] in
/-- A flush that sets no personal field but to nothing leaves a scrubbed record so. -/
theorem User.Scrubbed.apply {changes : UserChanges} (scrubbed : stored.Scrubbed)
    (email : changes.email.getD none = none)
    (links : ∀ link ∈ changes.oauthLinks.getD [], link.email = none)
    (name : changes.name.getD none = none) (passwordHash : changes.passwordHash.getD none = none)
    (resetPasswordToken : changes.resetPasswordToken.getD none = none)
    (resetPasswordExpiry : changes.resetPasswordExpiry.getD none = none) (at_ : Millis) :
    (stored.apply changes at_).Scrubbed := by
  have field : ∀ {α : Type} {value : Option α} {change : Option (Option α)}, value = none →
      change.getD none = none → change.getD value = none := by
    intro α value change absent unset
    rwa [absent]
  refine ⟨field scrubbed.email email, ?_, field scrubbed.name name,
    field scrubbed.passwordHash passwordHash, field scrubbed.resetPasswordToken resetPasswordToken,
    field scrubbed.resetPasswordExpiry resetPasswordExpiry⟩
  change ∀ link ∈ changes.oauthLinks.getD stored.oauthLinks, link.email = none
  cases set : changes.oauthLinks with
  | none => exact scrubbed.links
  | some added =>
      rw [set] at links
      exact links

omit [Libraries] in
/-- A field set to nothing, or to what was read. -/
theorem changed_getD_none {α : Type} [DecidableEq α] {loaded current : Option α}
    (unset : current = none ∨ current = loaded) : (changed loaded current).getD none = none := by
  rcases unset with rfl | rfl
  · exact (unset_getD _ _).mpr fun present => (present rfl).elim
  · exact changed_self_getD _ _

/-- A message that adds nothing leaves a scrubbed record so: what it writes was empty when
it was read. -/
theorem ComputedFrom.scrubbed {known : Set Reading} {operation : UserOperation} {id : ObjectId}
    {changes : UserChanges} (computed : ComputedFrom known operation (.updateUser id changes))
    (adds : ∀ filter loaded, .user filter (some loaded) ∈ known → loaded.id = id →
      operation.AddsNothing loaded) (scrubbed : stored.Scrubbed) (at_ : Millis) :
    (stored.apply changes at_).Scrubbed := by
  have unlinked : ∀ {links : List OAuthLink} (link : OAuthLink),
      link ∈ (changed links links).getD [] → link.email = none := by
    intro links link none
    rw [changed_self_getD] at none
    cases none
  cases computed with
  | device device => exact device.elim
  | merge _ _ _ read => exact (adds _ _ read rfl).elim
  | resetRequest _ _ read => exact (adds _ _ read rfl).elim
  | reset _ read => exact (adds _ _ read rfl).elim
  | deletion =>
      refine scrubbed.apply (changed_getD_none (.inl rfl)) ?_ (changed_getD_none (.inr rfl))
        (changed_getD_none (.inl rfl)) (changed_getD_none (.inl rfl))
        (changed_getD_none (.inl rfl)) at_
      exact unlinked
  | @profile userId data loaded found =>
      obtain ⟨_, _, read, _⟩ := found
      have name : data.name.getD loaded.name = none ∨ data.name.getD loaded.name = loaded.name := by
        rcases adds _ _ read rfl with kept | unset | same
        · exact .inr (by rw [kept, Option.getD_none])
        · exact .inl (by rw [unset, Option.getD_some])
        · exact .inr (by rw [same, Option.getD_some])
      exact scrubbed.apply (changed_getD_none (.inr rfl)) unlinked (changed_getD_none name)
        (changed_getD_none (.inr rfl)) (changed_getD_none (.inr rfl))
        (changed_getD_none (.inr rfl)) at_
  | @upgrade userId payload loaded current upgradedAt found _ credentials _ =>
      obtain ⟨_, _, read, _⟩ := found
      obtain ⟨byLink, email, name, links⟩ := adds _ _ read rfl
      cases credentials with
      | password _ byEmail => exact (byLink byEmail).elim
      | @link provider providerUserId linkedAt =>
          refine scrubbed.apply (changed_getD_none (.inr ?_)) ?_ (changed_getD_none (.inr ?_))
            (changed_getD_none (.inr rfl)) (changed_getD_none (.inr rfl))
            (changed_getD_none (.inr rfl)) at_
          · change payload.email.or loaded.email = loaded.email
            rw [email, Option.none_or]
          · change ∀ link ∈ (changed loaded.oauthLinks (loaded.oauthLinks ++
              [⟨provider, providerUserId, payload.email, linkedAt⟩])).getD [], link.email = none
            rw [changed_append_singleton, Option.getD_some]
            intro link inside
            rcases List.mem_append.mp inside with base | single
            · exact links link base
            · rw [List.mem_singleton.mp single]
              exact email
          · change (truthy payload.name).or loaded.name = loaded.name
            rw [name, Option.none_or]

end Flush

/-! ## Whole runs -/

/-- At each position of a run of whole erasures no deleted record holds personal data. The
induction is on the position. -/
theorem noPersonalData_standing {start : Backend} {labels : List ServiceLabel}
    (clean : NoPersonalData start) (whole : WholeErasures start labels) (position : Nat) :
    NoPersonalData (standing start labels position).shared := by
  induction position with
  | zero => exact clean
  | succ position ih =>
      intro user member dead
      rcases standing_users_cases start labels position with
        same | ⟨index, operation, write, at_, writes, stored⟩
      · exact ih user (same ▸ member) dead
      rw [stored] at member
      have computed := writes.computedFrom
      rcases mem_stored_users member with ⟨old, _⟩ | rfl | ⟨old, inside, changes, rfl, rfl⟩
      · exact ih user old dead
      · exact (dead computed.inserts_live).elim
      have finds : ∀ filter loaded, .user filter (some loaded) ∈
          userService.learnt reads ⟨start, []⟩
          (labels.take position) index → loaded.id = old.id →
          (old.Live → ∀ userId, operation = .deleteUser userId → old.Erasable loaded) ∧
            (¬old.Live → operation.AddsNothing loaded) := by
        intro filter loaded known same
        obtain ⟨loading, earlier, read⟩ := readsAt_of_learnt known
        exact whole index operation old.id changes loading position filter loaded old writes read
          earlier same inside rfl
      by_cases live : old.Live
      · rcases computed.deletedAt with ⟨userId, rfl⟩ | kept
        · obtain ⟨loaded, deletedAt, ⟨_, _, read, _⟩, same, rfl⟩ := computed.of_deleteUser
          exact (scrubbed_apply_softDeleted deletedAt at_).mpr
            ((finds _ loaded read same).1 live userId rfl)
        · refine (dead ?_).elim
          change changes.deletedAt.getD old.deletedAt = none
          rw [kept]
          exact live
      · exact computed.scrubbed (fun filter loaded known same => (finds filter loaded known same).2
          live) (ih old inside live) at_

/-- From the empty store: where every deletion finds an erasable record and no message
computed from an earlier read adds to a deleted one, no deleted record holds personal data. -/
theorem noPersonalData_of_wholeErasures (labels : List ServiceLabel)
    (whole : WholeErasures {} labels) :
    NoPersonalData (userService.schedule ⟨{}, []⟩ labels).shared := by
  rw [← System.before_length]
  exact noPersonalData_standing (fun _ none => (List.not_mem_nil none).elim) whole labels.length

end Law

/-! ## An account with a password -/

section Addressed

open scoped Plain

/-- An anonymous account, upgraded by email and password, with a pending reset, and deleted. -/
def addressedAndDeleted : List ServiceLabel :=
  [.spawn (.createAutoregUser { fingerprint := "f" })] ++ List.replicate 7 (.step 0) ++
    [.spawn (.upgradeAccount (ObjectIds.toHexString 0)
      { method := .email, email := some "a@b", password := some "p" })] ++
    List.replicate 7 (.step 1) ++ [.spawn (.forgotPassword "a@b")] ++ List.replicate 6 (.step 2) ++
    [.spawn (.deleteUser (ObjectIds.toHexString 0))] ++ List.replicate 8 (.step 3)

/-- Each of its flushes comes to a live record that is what the message has read. -/
theorem addressedAndDeleted_whole : WholeErasures {} addressedAndDeleted := by
  have checked : ∀ flushing < 32, (userService.performed ⟨{}, []⟩ addressedAndDeleted flushing).all
      fun flush => flush.2.2.write?.all fun write => !write.updatesUser ||
        decide (∀ loading < flushing,
        (userService.performed ⟨{}, []⟩ addressedAndDeleted loading).all fun load =>
          load.2.2.userFilter?.all fun filter => decide (load.1 = flush.1 →
            ∀ loaded ∈ (standing {} addressedAndDeleted loading).shared.users,
              filter.accepts loaded = true →
              ∀ stored ∈ (standing {} addressedAndDeleted flushing).shared.users,
                stored.Live ∧ stored.Erasable loaded)) := by decide +kernel
  rintro index _ id changes loading flushing filter loaded stored ⟨thread, at_, performs, rfl, _⟩
    ⟨reader, reading, _, found⟩ earlier same member _
  have flush := checked flushing performs.lt_length
  rw [performs.performed] at flush
  have load := of_decide_eq_true flush loading earlier
  rw [reading.performed] at load
  obtain ⟨live, erasable⟩ := of_decide_eq_true load rfl loaded (List.mem_of_find?_eq_some found)
    (List.find?_some found) stored member
  exact ⟨fun _ _ _ => erasable, fun dead => (dead live).elim⟩

/-- The premises are met by a user who upgrades by email and is deleted: the record is
marked, and nothing is left on it of the address, the password and the reset. -/
theorem noPersonalData_of_addressed :
    ∃ user ∈ (userService.schedule ⟨{}, []⟩ addressedAndDeleted).shared.users,
      ¬user.Live ∧ user.Scrubbed :=
  ⟨_, List.mem_of_getElem? (i := 0) rfl, nofun,
    noPersonalData_of_wholeErasures _ addressedAndDeleted_whole _
      (List.mem_of_getElem? (i := 0) rfl) nofun⟩

end Addressed

/-! ## A name that outlives its account -/

section Named

open scoped Plain

/-- An anonymous account, upgraded by a provider identity with an email and a
name, and deleted. -/
def namedAndDeleted : List ServiceLabel :=
  [.spawn (.createAutoregUser { fingerprint := "f" })] ++ List.replicate 8 (.step 0) ++
    [.spawn (.upgradeAccount (ObjectIds.toHexString 0)
      { method := .oauth .google, providerUserId := some "g", email := some "a@b",
        name := some "A" })] ++ List.replicate 8 (.step 1) ++
    [.spawn (.deleteUser (ObjectIds.toHexString 0))] ++ List.replicate 8 (.step 2)

/-- A user with a provider link is deleted. The name stays on the record, and the email in
the link. -/
theorem not_noPersonalData_of_link :
    ¬∀ labels, NoPersonalData (userService.schedule ⟨{}, []⟩ labels).shared := by
  intro clean
  have scrubbed := clean namedAndDeleted _ (List.mem_of_getElem? (i := 0) rfl) nofun
  exact nomatch scrubbed.name

end Named

end NestMonorepo
