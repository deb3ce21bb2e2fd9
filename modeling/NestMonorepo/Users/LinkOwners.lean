import NestMonorepo.Database.ObjectIds
import NestMonorepo.Users.Reads
import NestMonorepo.Users.Runs

/-! # Who owns a provider identity

A link is added after a look at who has it, by a flush that comes later and
stores the whole array. No index keeps an identity on one account: whether it
stays on one is decided by what is stored when the flush comes.
-/

namespace NestMonorepo

open Collections Concurrency Handler UsersService

/-- A user has a link when one of the stored links names the provider and the identity. -/
theorem User.hasLink_iff {user : User} {provider : OAuthProvider} {providerUserId : String} :
    user.hasLink provider providerUserId = true ↔
      ∃ link ∈ user.oauthLinks, link.provider = provider ∧
        link.providerUserId = providerUserId := by
  simp only [User.hasLink, List.any_eq_true, decide_eq_true_eq]

/-- A later version of a document has every link of the earlier one. -/
def User.KeepsLinks (earlier later : User) : Prop :=
  ∀ provider providerUserId, earlier.hasLink provider providerUserId = true →
    later.hasLink provider providerUserId = true

/-- A user keeps the links they have. -/
theorem User.KeepsLinks.refl (user : User) : user.KeepsLinks user := fun _ _ has => has

/-- Links kept twice over are kept. -/
theorem User.KeepsLinks.trans {first second third : User} (left : first.KeepsLinks second)
    (right : second.KeepsLinks third) : first.KeepsLinks third :=
  fun provider providerUserId has => right _ _ (left provider providerUserId has)

/-- No identity is on two accounts. -/
def OneOwner (store : Backend) : Prop :=
  ∀ user ∈ store.users, ∀ other ∈ store.users, ∀ provider providerUserId,
    user.hasLink provider providerUserId = true → other.hasLink provider providerUserId = true →
      user.id = other.id

/-! ## What it takes of each flush -/

/-- The account whose links a write stores, and these links. -/
def Write.links : Write → Option (ObjectId × List OAuthLink)
  | .insertUser user => some (user.id, user.oauthLinks)
  | .updateUser id changes => changes.oauthLinks.map fun links => (id, links)
  | _ => none

/-- A write of links stores no identity that is on another account, and drops none
of those on its own. -/
def LinksAlone (command : Command) (store : Backend) : Prop :=
  ∀ write at_ id links, command = .write write at_ → store.Applies write →
    write.links = some (id, links) → ∀ user ∈ store.users,
      (user.id ≠ id → ∀ link ∈ links, user.hasLink link.provider link.providerUserId = false) ∧
      (user.id = id → ∀ link ∈ user.oauthLinks, ∃ kept ∈ links,
        kept.provider = link.provider ∧ kept.providerUserId = link.providerUserId)

/-- A step that performs its command where it stores its links alone. -/
def CurrentLinks (label : ServiceLabel) (pool : ServicePool) : Prop :=
  ∀ index thread command, label = .step index → pool.threads[index]? = some thread →
    thread.pending = some command → LinksAlone command pool.shared

/-! ## One write -/

section Write

variable {store : Backend} {write : Write} {at_ : Millis} {provider : OAuthProvider}
  {providerUserId : String}

/-- An identity in the store after a write was on the same account before, or the
write has put it there and no other account has it. -/
theorem holder_stored (alone : LinksAlone (.write write at_) store)
    (applies : store.Applies write) {user : User} (member : user ∈ (store.stored at_ write).users)
    (has : user.hasLink provider providerUserId = true) :
    (∃ old ∈ store.users, old.id = user.id ∧ old.hasLink provider providerUserId = true) ∨
    write.links = some (user.id, user.oauthLinks) ∧
      ∀ other ∈ store.users, other.hasLink provider providerUserId = true → other.id = user.id := by
  have exclusive : write.links = some (user.id, user.oauthLinks) → ∀ other ∈ store.users,
      other.hasLink provider providerUserId = true → other.id = user.id := by
    intro stores other inside shares
    obtain ⟨link, present, rfl, rfl⟩ := User.hasLink_iff.mp has
    by_contra differ
    rw [(alone write at_ _ _ rfl applies stores other inside).1 differ link present] at shares
    cases shares
  rcases mem_stored_users member with ⟨old, _⟩ | rfl | ⟨old, inside, changes, rfl, rfl⟩
  · exact .inl ⟨user, old, rfl, has⟩
  · exact .inr ⟨rfl, exclusive rfl⟩
  · cases stored : changes.oauthLinks with
    | none =>
        refine .inl ⟨old, inside, rfl, ?_⟩
        change List.any (changes.oauthLinks.getD old.oauthLinks) _ = true at has
        rw [stored] at has
        exact has
    | some links =>
        have stores : (Write.updateUser old.id changes).links =
            some (old.id, changes.oauthLinks.getD old.oauthLinks) := by
          rw [Write.links, stored]
          rfl
        exact .inr ⟨stores, exclusive stores⟩

/-- A flushed write of a run whose links are alone keeps each identity with one owner. -/
theorem OneOwner.stored (one : OneOwner store) (alone : LinksAlone (.write write at_) store)
    (applies : store.Applies write) : OneOwner (store.stored at_ write) := by
  intro user member other inside provider providerUserId has shares
  rcases holder_stored alone applies member has with
    ⟨old, present, same, had⟩ | ⟨stores, exclusive⟩
  · rcases holder_stored alone applies inside shares with
      ⟨old', present', same', had'⟩ | ⟨_, exclusive⟩
    · rw [← same, ← same']
      exact one old present old' present' provider providerUserId had had'
    · rw [← same]
      exact exclusive old present had
  · rcases holder_stored alone applies inside shares with
      ⟨old', present', same', had'⟩ | ⟨stores', _⟩
    · rw [← same']
      exact (exclusive old' present' had').symm
    · exact congrArg Prod.fst (Option.some.inj (stores.symm.trans stores'))

/-- An update stored alone takes no link from the account. -/
theorem keepsLinks_apply {id : ObjectId} {changes : UserChanges}
    (alone : LinksAlone (.write (.updateUser id changes) at_) store)
    (applies : store.Applies (.updateUser id changes)) {user : User} (member : user ∈ store.users)
    (same : user.id = id) : user.KeepsLinks (user.apply changes at_) := by
  intro provider providerUserId has
  cases stored : changes.oauthLinks with
  | none =>
      change List.any (changes.oauthLinks.getD user.oauthLinks) _ = true
      rw [stored]
      exact has
  | some links =>
      have stores : (Write.updateUser id changes).links = some (id, links) := by
        rw [Write.links, stored]
        rfl
      obtain ⟨link, present, rfl, rfl⟩ := User.hasLink_iff.mp has
      have kept := (alone _ at_ id links rfl applies stores user member).2 same link present
      apply User.hasLink_iff.mpr
      change ∃ kept ∈ changes.oauthLinks.getD user.oauthLinks, _
      rw [stored]
      exact kept

/-- No account loses a link. -/
theorem carried_links (alone : LinksAlone (.write write at_) store)
    (applies : store.Applies write) :
    Carried User.KeepsLinks store (store.stored at_ write) := by
  apply Carried.stored User.KeepsLinks.refl
  rintro id changes rfl user member same
  exact keepsLinks_apply alone applies member same

end Write

section Law

variable [Libraries]

/-! ## The law -/

/-- An answer that hands out an account for an identity. -/
inductive LinksTo : UserOperation → Answer → OAuthProvider → String → String → Prop
  | oauth {payload result} : LinksTo (.findOrCreateOAuthUser payload) (.identity result)
      payload.provider payload.providerUserId result.id
  | upgrade {userId payload provider providerUserId} {user : User} :
      payload.method = .oauth provider → truthy payload.providerUserId = some providerUserId →
      LinksTo (.upgradeAccount userId payload) (.upgraded user) provider providerUserId user.hexId

/-- The account has the identity. -/
def HasIdentity (store : Backend) (subject : String) (provider : OAuthProvider)
    (providerUserId : String) : Prop :=
  ∃ user ∈ store.users, user.hexId = subject ∧ user.hasLink provider providerUserId = true

/-- Over the `admitted` runs: whenever an account has been handed out for an identity, it
has the identity and no other account does. -/
def LinksExclusive (admitted : List ServiceLabel → Prop) (start : Backend) : Prop :=
  ∀ labels, admitted labels → ∀ thread ∈ (userService.schedule ⟨start, []⟩ labels).threads,
    ∀ answer provider providerUserId subject, thread.status = .returned answer →
      LinksTo thread.operation answer provider providerUserId subject →
      ∃ user ∈ (userService.schedule ⟨start, []⟩ labels).shared.users, user.hexId = subject ∧
        user.hasLink provider providerUserId = true ∧
        ∀ other ∈ (userService.schedule ⟨start, []⟩ labels).shared.users,
          other.hasLink provider providerUserId = true → other = user

/-! ## Where it holds -/

omit [Libraries] in
/-- The provider identity a message is about. -/
def UserOperation.subject : UserOperation → Option (OAuthProvider × String)
  | .findOrCreateOAuthUser payload => some (payload.provider, payload.providerUserId)
  | .upgradeAccount _ payload =>
      match payload.method with
      | .oauth provider => (truthy payload.providerUserId).map fun identity => (provider, identity)
      | .email => none
  | _ => none

omit [Libraries] in
/-- The account whose document a write stores. -/
def Write.account : Write → Option ObjectId
  | .insertUser user => some user.id
  | .updateUser id _ => some id
  | _ => none

/-- At the position the thread looks up who has the identity. -/
def LooksUpIdentity (start : Backend) (labels : List ServiceLabel) (position index : Nat)
    (identity : OAuthProvider × String) : Prop :=
  ∃ filter found, ReadsAt start labels position index filter found ∧
    (filter = .byLinkLive identity.1 identity.2 ∨ filter = .byLink identity.1 identity.2)

/-- At the position the flush of a message about the identity is applied to the account. -/
def FlushesFor (start : Backend) (labels : List ServiceLabel) (position index : Nat)
    (identity : OAuthProvider × String) (id : ObjectId) : Prop :=
  ∃ operation write, WritesAt start labels position index operation write ∧
    operation.subject = some identity ∧ write.account = some id

/-- Messages about identities that do not overlap: between a message's lookup of its
identity and its flush, no message about that identity flushes; between its read of the
account it flushes and this flush, no message about any identity flushes that account. -/
structure LinksApart (start : Backend) (labels : List ServiceLabel) : Prop where
  identities : ∀ index identity id looking flushing,
    LooksUpIdentity start labels looking index identity →
    FlushesFor start labels flushing index identity id →
    ∀ position other account, looking < position → position < flushing →
      ¬FlushesFor start labels position other identity account
  accounts : ∀ index identity id loading flushing, LoadsUser start labels loading index id →
    FlushesFor start labels flushing index identity id →
    ∀ position other subject, loading < position → position < flushing →
      ¬FlushesFor start labels position other subject id

omit [Libraries] in
/-- No message of the run deletes an account. -/
def WithoutDeletions (labels : List ServiceLabel) : Prop :=
  ∀ userId, .spawn (.deleteUser userId) ∉ labels

/-! ## Where the links of a write come from -/

omit [Libraries] in
/-- The identity a link is to. -/
def OAuthLink.identity (link : OAuthLink) : OAuthProvider × String :=
  (link.provider, link.providerUserId)

/-- The message has looked its identity up and found it on no account, or on the one it
writes. -/
inductive LookedUp (known : Set Reading) (identity : OAuthProvider × String) (id : ObjectId) : Prop
  | unlinked : .user (.byLinkLive identity.1 identity.2) none ∈ known → LookedUp known identity id
  | checked {clash : Option User} : .user (.byLink identity.1 identity.2) clash ∈ known →
      (∀ other, clash = some other → other.id = id) → LookedUp known identity id

/-- The links a write stores: none or one for a new account, and one more than it had when
it was read for another. The one is to the identity the message is about. -/
inductive LinksFrom (known : Set Reading) (operation : UserOperation) :
    Write → ObjectId → List OAuthLink → Prop
  | none {user : User} : LinksFrom known operation (.insertUser user) user.id []
  | first {user : User} {link : OAuthLink} : operation.subject = some link.identity →
      LookedUp known link.identity user.id →
      LinksFrom known operation (.insertUser user) user.id [link]
  | appended {id : ObjectId} {changes : UserChanges} {filter : UserFilter} {loaded : User}
      {link : OAuthLink} : .user filter (some loaded) ∈ known → loaded.id = id →
      operation.subject = some link.identity → LookedUp known link.identity id →
      LinksFrom known operation (.updateUser id changes) id (loaded.oauthLinks ++ [link])

omit [Libraries] in
/-- The links of an update that appends one. -/
theorem changed_append_link {loaded : User} {link : OAuthLink} {id : ObjectId}
    {links : List OAuthLink}
    (stores : (changed loaded.oauthLinks (loaded.oauthLinks ++ [link])).map
      (fun links => (loaded.id, links)) = some (id, links)) :
    loaded.id = id ∧ loaded.oauthLinks ++ [link] = links := by
  rw [changed_append_singleton] at stores
  exact Prod.mk.inj (Option.some.inj stores)

/-- The links that an update stores are those of the record it was computed from, with one
more identity at most, which had been looked up. -/
theorem ComputedFrom.links {known : Set Reading} {operation : UserOperation} {write : Write}
    {id : ObjectId} {links : List OAuthLink}
    (answered : ∀ filter user, .user filter (some user) ∈ known → filter.accepts user = true)
    (computed : ComputedFrom known operation write) (stores : write.links = some (id, links)) :
    LinksFrom known operation write id links := by
  have unchanged : ∀ {loaded : User}, (changed loaded.oauthLinks loaded.oauthLinks).map
      (fun links => (loaded.id, links)) ≠ some (id, links) := by
    intro loaded
    rw [changed_self]
    exact nofun
  cases computed with
  | device device => cases write <;> first | exact device.elim | cases stores
  | row | requeue | stamp => cases stores
  | autoregUser newId createdAt =>
      cases stores
      exact .none
  | oauthUser newId createdAt unlinked =>
      cases stores
      exact .first rfl (.unlinked unlinked)
  | merge linkedAt unlinked _ read =>
      obtain ⟨rfl, rfl⟩ := changed_append_link stores
      exact .appended read rfl rfl (.unlinked unlinked)
  | @upgrade userId payload loaded current upgradedAt found _ credentials checked =>
      cases credentials with
      | password => exact (unchanged stores).elim
      | @link provider providerUserId linkedAt method identity =>
          obtain ⟨rfl, rfl⟩ := changed_append_link stores
          obtain ⟨id, parsed, read, _⟩ := found
          obtain ⟨clash, looked, own⟩ := checked provider providerUserId method identity
          refine .appended read rfl ?_ (.checked looked fun other same => ?_)
          · simp only [UserOperation.subject, method, identity]
            rfl
          · have held : loaded.id = id := of_decide_eq_true (answered _ _ read)
            rw [← own other same, User.hexId, Libraries.ofHexString_toHexString] at parsed
            rw [held, Option.some.inj parsed]
  | resetRequest => exact (unchanged stores).elim
  | reset => exact (unchanged stores).elim
  | profile => exact (unchanged stores).elim
  | deletion => exact (unchanged stores).elim

/-! ## In the course of a run -/

section Apart

variable {start : Backend} {labels : List ServiceLabel}

omit [Libraries] in
/-- The account of a write that stores links. -/
theorem LinksFrom.account {known : Set Reading} {operation : UserOperation} {write : Write}
    {id : ObjectId} {links : List OAuthLink} (from_ : LinksFrom known operation write id links) :
    write.account = some id := by
  cases from_ <;> rfl

/-- What a thread has learnt satisfies the filter it asked with. -/
theorem accepts_of_learnt {position index : Nat} {filter : UserFilter} {user : User}
    (known : .user filter (some user) ∈
      userService.learnt reads ⟨start, []⟩ (labels.take position) index) :
    filter.accepts user = true := by
  obtain ⟨_, _, read⟩ := readsAt_of_learnt known
  exact read.stored.2

/-- Where the links of an applied write come from. -/
theorem WritesAt.links {position index : Nat} {operation : UserOperation} {write : Write}
    {id : ObjectId} {links : List OAuthLink}
    (writes : WritesAt start labels position index operation write)
    (stores : write.links = some (id, links)) :
    LinksFrom (userService.learnt reads ⟨start, []⟩ (labels.take position) index) operation write
      id links :=
  writes.computedFrom.links (fun _ _ => accepts_of_learnt) stores

/-- Without deletions every account is live. -/
theorem standing_live (alive : ∀ user ∈ start.users, user.Live) (without : WithoutDeletions labels)
    (position : Nat) : ∀ user ∈ (standing start labels position).shared.users, user.Live := by
  induction position with
  | zero => exact alive
  | succ position ih =>
      intro user member
      rcases standing_users_cases start labels position with
        same | ⟨index, operation, write, at_, writes, stored⟩
      · exact ih user (same ▸ member)
      · rw [stored] at member
        rcases mem_stored_users member with ⟨present, _⟩ | rfl | ⟨old, present, changes, rfl, rfl⟩
        · exact ih user present
        · exact writes.computedFrom.inserts_live
        · rcases writes.computedFrom.deletedAt with ⟨userId, rfl⟩ | kept
          · exact (without userId writes.spawned).elim
          · change changes.deletedAt.getD old.deletedAt = none
            rw [kept]
            exact ih old present

/-- Every write before the position has stored its links alone. -/
def AloneUntil (start : Backend) (labels : List ServiceLabel) (count : Nat) : Prop :=
  ∀ position < count, ∀ index operation write at_,
    WritesAt start labels position index operation write →
      LinksAlone (.write write at_) (standing start labels position).shared

variable {count : Nat}

/-- Links that are alone up to a step are alone up to every earlier one. -/
theorem AloneUntil.mono {less : Nat} (alone : AloneUntil start labels count) (le : less ≤ count) :
    AloneUntil start labels less :=
  fun position below => alone position (Nat.lt_of_lt_of_le below le)

/-- While the links of a run are alone, each identity has one owner: an induction over the
steps with one write at a time. -/
theorem AloneUntil.oneOwner (one : OneOwner start) (alone : AloneUntil start labels count) :
    OneOwner (standing start labels count).shared := by
  induction count with
  | zero => exact one
  | succ count ih =>
      have before := ih (alone.mono (Nat.le_succ count))
      rcases standing_users_cases start labels count with
        same | ⟨index, operation, write, at_, writes, stored⟩
      · rw [OneOwner, same]
        exact before
      · rw [stored]
        exact before.stored (alone count (Nat.lt_succ_self count) _ _ _ at_ writes) writes.applies

/-- Until then no account loses a link. -/
theorem AloneUntil.keepsLinks {first last : Nat} (alone : AloneUntil start labels last)
    (order : first ≤ last) : Carried User.KeepsLinks (standing start labels first).shared
      (standing start labels last).shared := by
  refine carried_between User.KeepsLinks.refl User.KeepsLinks.trans order ?_
  intro position _ below index operation id changes at_ writes user member same
  exact keepsLinks_apply (alone position below _ _ _ at_ writes) writes.applies member same

/-- Until then an identity that no account had, and no message about it has flushed since,
is on no account. -/
theorem AloneUntil.unheld {identity : OAuthProvider × String} {first last : Nat}
    (alone : AloneUntil start labels last) (order : first ≤ last)
    (unheld : ∀ user ∈ (standing start labels first).shared.users,
      user.hasLink identity.1 identity.2 = false)
    (quiet : ∀ position index id, first ≤ position → position < last →
      ¬FlushesFor start labels position index identity id) :
    ∀ user ∈ (standing start labels last).shared.users,
      user.hasLink identity.1 identity.2 = false := by
  induction last, order using Nat.le_induction with
  | base => exact unheld
  | succ last order ih =>
      have before := ih (alone.mono (Nat.le_succ last)) fun position index id from_ below =>
        quiet position index id from_ (Nat.lt_succ_of_lt below)
      intro user member
      rcases standing_users_cases start labels last with
        same | ⟨index, operation, write, at_, writes, stored⟩
      · exact before user (same ▸ member)
      · rw [stored] at member
        by_contra has
        rw [Bool.not_eq_false] at has
        rcases holder_stored (alone last (Nat.lt_succ_self last) _ _ _ at_ writes) writes.applies
          member has with ⟨old, present, _, had⟩ | ⟨stores, _⟩
        · cases (before old present).symm.trans had
        -- the write has put it there: what it has read had it, or it is about it
        obtain ⟨link, inside, provider, providerUserId⟩ := User.hasLink_iff.mp has
        have about : operation.subject ≠ some link.identity := by
          intro subject
          refine quiet last index user.id order (Nat.lt_succ_self last)
            ⟨operation, write, writes, ?_, (writes.links stores).account⟩
          rw [subject, OAuthLink.identity, provider, providerUserId]
        have source := writes.links stores
        generalize user.id = id, user.oauthLinks = links at source inside
        cases source with
        | none => cases inside
        | first subject _ => exact about ((List.mem_singleton.mp inside) ▸ subject)
        | appended read _ subject _ =>
            rcases List.mem_append.mp inside with base | single
            · obtain ⟨reading, below, read⟩ := readsAt_of_learnt read
              obtain ⟨later, present, _, keeps⟩ :=
                (alone.mono (Nat.le_succ last)).keepsLinks below _ read.stored.1
              have had := keeps identity.1 identity.2
                (User.hasLink_iff.mpr ⟨link, base, provider, providerUserId⟩)
              cases (before later present).symm.trans had
            · exact about ((List.mem_singleton.mp single) ▸ subject)

/-- Where links are apart, an identity that an operation looked up and did not find is still
nobody else's when the operation flushes it. -/
theorem LookedUp.free {index : Nat} {identity : OAuthProvider × String} {id : ObjectId}
    (looked : LookedUp (userService.learnt reads ⟨start, []⟩ (labels.take count) index) identity id)
    (apart : LinksApart start labels) (flushes : FlushesFor start labels count index identity id)
    (alone : AloneUntil start labels count) (one : OneOwner start)
    (live : ∀ position, ∀ user ∈ (standing start labels position).shared.users, user.Live) :
    ∀ user ∈ (standing start labels count).shared.users, user.id ≠ id →
      user.hasLink identity.1 identity.2 = false := by
  -- found on no account, it stays on none
  have absent : ∀ {looking filter}, looking < count →
      ReadsAt start labels looking index filter none →
      (filter = .byLinkLive identity.1 identity.2 ∨ filter = .byLink identity.1 identity.2) →
      ∀ user ∈ (standing start labels count).shared.users,
        user.hasLink identity.1 identity.2 = false := by
    intro looking filter below read form
    refine alone.unheld below ?_ fun position other account from_ within =>
      apart.identities index identity id looking count ⟨filter, none, read, form⟩ flushes position
        other account from_ within
    intro user member
    rw [read.shared] at member
    obtain ⟨_, _, _, missing⟩ := read
    have refused := List.find?_eq_none.mp missing user member
    have alive : decide user.Live = true := decide_eq_true (live looking user member)
    rcases form with rfl | rfl <;>
      simpa only [UserFilter.accepts, alive, Bool.and_true, Bool.not_eq_true] using refused
  intro user member differ
  cases looked with
  | unlinked known =>
      obtain ⟨looking, below, read⟩ := readsAt_of_learnt known
      exact absent below read (.inl rfl) user member
  | @checked clash known own =>
      obtain ⟨looking, below, read⟩ := readsAt_of_learnt known
      cases clash with
      | none => exact absent below read (.inr rfl) user member
      | some holder =>
          -- the account itself has it, and so no other
          obtain ⟨held, has⟩ := read.stored
          obtain ⟨later, present, same, keeps⟩ := alone.keepsLinks below holder held
          by_contra shares
          rw [Bool.not_eq_false] at shares
          refine differ ((alone.oneOwner one user member later present _ _ shares
            (keeps _ _ has)).trans (same.trans (own holder rfl)))

/-- Where links are apart, no flush in between has changed the links that an operation
writes back. -/
theorem LinksApart.links_stay {index loading flushing : Nat} {identity : OAuthProvider × String}
    {filter : UserFilter} {loaded : User} (apart : LinksApart start labels)
    (read : ReadsAt start labels loading index filter (some loaded))
    (flushes : FlushesFor start labels flushing index identity loaded.id)
    (order : loading < flushing) :
    ∃ later ∈ (standing start labels flushing).shared.users, later.id = loaded.id ∧
      later.oauthLinks = loaded.oauthLinks := by
  have carried : Carried (fun earlier later => later.id = earlier.id ∧
      (earlier.id = loaded.id → later.oauthLinks = earlier.oauthLinks))
      (standing start labels (loading + 1)).shared (standing start labels flushing).shared := by
    refine carried_between (fun _ => ⟨rfl, fun _ => rfl⟩) (fun left right => ?_) order ?_
    · exact ⟨right.1.trans left.1,
        fun same => (right.2 (left.1.trans same)).trans (left.2 same)⟩
    · intro position from_ below other operation id changes at_ writes user member same
      refine ⟨rfl, fun concerned => ?_⟩
      change changes.oauthLinks.getD user.oauthLinks = user.oauthLinks
      cases stored : changes.oauthLinks with
      | none => rfl
      | some links =>
          have stores : (Write.updateUser id changes).links = some (id, links) := by
            rw [Write.links, stored]
            rfl
          cases writes.links stores with
          | appended _ _ subject _ =>
              refine (apart.accounts index identity loaded.id loading flushing
                ⟨filter, loaded, read, rfl⟩ flushes position other _ from_ below
                ⟨operation, _, writes, subject, ?_⟩).elim
              rw [← concerned, same]
              rfl
  obtain ⟨later, present, same, _, stay⟩ := carried loaded read.stored.1
  exact ⟨later, present, same, stay rfl⟩

/-- Where lookups and flushes of links are apart, the flushed links are alone, up to every
position of the run. The induction is on the position. -/
theorem LinksApart.alone (apart : LinksApart start labels) (kept : WithoutDeletions labels)
    (distinct : DistinctIds start) (one : OneOwner start)
    (alive : ∀ user ∈ start.users, user.Live) (count : Nat) : AloneUntil start labels count := by
  induction count with
  | zero => exact fun position below => (Nat.not_lt_zero position below).elim
  | succ count ih =>
      intro position below index operation write at_ writes
      rcases Nat.lt_succ_iff_lt_or_eq.mp below with earlier | rfl
      · exact ih position earlier index operation write at_ writes
      rintro _ _ id links ⟨⟩ applies stores
      have free : ∀ {link : OAuthLink}, operation.subject = some link.identity →
          LookedUp (userService.learnt reads ⟨start, []⟩ (labels.take position) index)
            link.identity id →
          ∀ user ∈ (standing start labels position).shared.users, user.id ≠ id →
            user.hasLink link.provider link.providerUserId = false := fun subject looked =>
        looked.free apart ⟨operation, write, writes, subject, (writes.links stores).account⟩ ih one
          (standing_live alive kept)
      intro user member
      cases writes.links stores with
      | none =>
          exact ⟨fun _ link none => (List.not_mem_nil none).elim,
            fun same => (fetch_eq_none.mp applies.fetch_user user member same).elim⟩
      | first subject looked =>
          refine ⟨fun differ link single => ?_,
            fun same => (fetch_eq_none.mp applies.fetch_user user member same).elim⟩
          rw [List.mem_singleton.mp single]
          exact free subject looked user member differ
      | appended read same subject looked =>
          obtain ⟨loading, earlier, read⟩ := readsAt_of_learnt read
          obtain ⟨held, present, identity, links⟩ := apart.links_stay read
            ⟨operation, _, writes, subject, congrArg some same.symm⟩ earlier
          refine ⟨fun differ link inside => ?_, fun own link inside => ?_⟩
          · rcases List.mem_append.mp inside with base | single
            · -- a link it had already is on no other account
              by_contra shares
              rw [Bool.not_eq_false] at shares
              refine differ ((ih.oneOwner one user member held present _ _ shares ?_).trans
                (identity.trans same))
              exact User.hasLink_iff.mpr ⟨link, links ▸ base, rfl, rfl⟩
            · rw [List.mem_singleton.mp single]
              exact free subject looked user member differ
          · rw [(standing_distinct distinct position).unique member present
              (own.trans (same.symm.trans identity.symm)), links] at inside
            exact ⟨link, List.mem_append_left _ inside, rfl, rfl⟩

end Apart

/-! ## Handlers -/

/-- Links are kept, and each identity stays on one account. -/
def linkage : ServiceContract where
  rely := Carried User.KeepsLinks
  refl _ := .of_users_eq User.KeepsLinks.refl rfl
  trans := Carried.trans User.KeepsLinks.trans
  keeps store := DistinctIds store ∧ OneOwner store
  permitted := LinksAlone

omit [Libraries] in
/-- A step that leaves the users alone keeps the linkage, and is one its other operations
may rely on. -/
theorem linkage_of_users_eq {store later : Backend} (same : later.users = store.users)
    (kept : linkage.keeps store) : linkage.keeps later ∧ linkage.rely store later := by
  refine ⟨⟨?_, ?_⟩, .of_users_eq User.KeepsLinks.refl same⟩
  · rw [DistinctIds, same]
    exact kept.1
  · rw [OneOwner, same]
    exact kept.2

/-- The linkage is a tame contract: plain commands leave the users alone, and a permitted
write that applies keeps each user's links and one owner for each identity. -/
theorem linkage_tame : Tame linkage where
  persist relies user member :=
    let ⟨later, present, same, _⟩ := relies user member
    ⟨later, present, same⟩
  plain _ store plain _ kept := linkage_of_users_eq (plain.frame store).1 kept
  writes _ alone kept applies :=
    ⟨⟨kept.1.stored applies _, kept.2.stored alone applies⟩, carried_links alone applies⟩

/-- Runs whose link writes are current respect the linkage: every command in them is
permitted, and the environment leaves the users alone. -/
theorem currentLinks_respects : userService.Respects linkage CurrentLinks where
  permits allowed present pending := allowed _ _ _ rfl present pending
  environment {event pool} _ kept :=
    linkage_of_users_eq (environment_frame event pool.shared).1 kept

/-- At the end: the account handed out has the identity. -/
def Owner (operation : UserOperation) (answer : Answer) (store : Backend) : Prop :=
  ∀ provider providerUserId subject, LinksTo operation answer provider providerUserId subject →
    HasIdentity store subject provider providerUserId

section Handlers

variable {store : Backend} {provider : OAuthProvider} {providerUserId subject : String}

/-- A user with an identity keeps it while the others step. -/
theorem HasIdentity.of_rely {later : Backend}
    (has : HasIdentity store subject provider providerUserId) (moved : linkage.rely store later) :
    HasIdentity later subject provider providerUserId := by
  obtain ⟨user, member, named, link⟩ := has
  obtain ⟨version, present, same, keeps⟩ := moved user member
  exact ⟨version, present, (congrArg Libraries.toHexString same).trans named,
    keeps provider providerUserId link⟩

/-- An account may be handed out for an identity once it has it. -/
theorem valid_ret_of_identity {operation : UserOperation} {answer : Answer}
    (has : ∀ provider providerUserId subject,
      LinksTo operation answer provider providerUserId subject →
        HasIdentity store subject provider providerUserId) :
    Valid linkage operation (Owner operation) (.ret answer) store :=
  fun _ moved _ provider providerUserId subject links =>
    (has provider providerUserId subject links).of_rely moved

omit [Libraries] in
/-- A flush that appends a link leaves the array it was computed from, with it. -/
theorem hasLink_apply_append {loaded current stored : User} {link : OAuthLink} (at_ : Millis)
    (appended : current.oauthLinks = loaded.oauthLinks ++ [link]) (by_ : link.provider = provider)
    (identity : link.providerUserId = providerUserId) :
    (stored.apply (loaded.changes current) at_).hasLink provider providerUserId = true := by
  apply User.hasLink_iff.mpr
  refine ⟨link, ?_, by_, identity⟩
  change link ∈ (changed loaded.oauthLinks current.oauthLinks).getD stored.oauthLinks
  rw [appended, changed_append_singleton, Option.getD_some]
  exact List.mem_append_right _ (List.mem_singleton.mpr rfl)

/-- The user a provider login creates is answered as the owner of the identity that was
signed in with. -/
theorem createOAuthUser_owner (payload : OAuthPayload) :
    Valid linkage (.findOrCreateOAuthUser payload) (Owner (.findOrCreateOAuthUser payload))
      (createOAuthUser payload >>= fun result => .ret (.identity result)) store := by
  simp only [createOAuthUser, newObjectId, now, await, Program.perform_bind, Program.call_bind,
    Program.bind_assoc, Program.pure_eq, Program.ret_bind]
  refine valid_await linkage_tame trivial fun createdAt _ _ _ => ?_
  refine valid_await linkage_tame trivial fun id middle _ kept => ?_
  refine valid_flushEmail linkage_tame (fun _ => .here kept (.oauthUser id createdAt))
    fun at_ later _ _ _ _ _ => valid_ret_of_identity ?_
  rintro _ _ _ ⟨⟩
  refine ⟨oauthUser payload id createdAt, List.mem_append_right _ (List.mem_singleton.mpr rfl),
    rfl, User.hasLink_iff.mpr ⟨_, List.mem_singleton.mpr rfl, rfl, rfl⟩⟩

/-- A provider login answers with the owner of the identity, on its lookup and its creation
branches alike. -/
theorem findOrCreateOAuthUser_owner (payload : OAuthPayload) :
    Valid linkage (.findOrCreateOAuthUser payload) (Owner (.findOrCreateOAuthUser payload))
      (UsersService.findOrCreateOAuthUser payload >>= fun result => .ret (.identity result))
      store := by
  simp only [UsersService.findOrCreateOAuthUser, Program.bind_assoc]
  refine valid_findUser linkage_tame fun later _ _ => ?_
  cases found : later.users.find?
      (UserFilter.byLinkLive payload.provider payload.providerUserId).accepts with
  | some byProvider =>
      have accepted := UserFilter.accepts_byLinkLive.mp (List.find?_some found)
      apply valid_ret_of_identity
      rintro _ _ _ ⟨⟩
      exact ⟨byProvider, List.mem_of_find?_eq_some found, rfl, accepted.1⟩
  | none =>
      simp only
      cases merge : payload.mergeEmail with
      | none => exact createOAuthUser_owner payload
      | some email =>
          simp only [Program.bind_assoc]
          refine valid_findUser linkage_tame fun read _ keptRead => ?_
          cases owner : read.users.find? (UserFilter.byEmailLive email).accepts with
          | none => exact createOAuthUser_owner payload
          | some byEmail =>
              have accepted := UserFilter.accepts_byEmailLive.mp (List.find?_some owner)
              have member := List.mem_of_find?_eq_some owner
              simp only [now, await, Program.perform_bind, Program.call_bind,
                Program.bind_assoc, Program.pure_eq, Program.ret_bind]
              refine valid_await linkage_tame trivial fun linkedAt middle moved _ => ?_
              rw [merged_update, flush_bind]
              refine valid_await linkage_tame trivial fun at_ flushing further _ => ?_
              refine valid_write linkage_tame ⟨read, linkage.trans moved further, keptRead,
                .merge linkedAt member accepted.2 accepted.1 merge⟩
                fun last onward _ _ _ _ => valid_ret_of_identity ?_
              rintro _ _ _ ⟨⟩
              obtain ⟨stored, present, same, _⟩ :=
                linkage.trans (linkage.trans moved further) onward byEmail member
              exact ⟨_, mem_modifyAt_of_eq present same,
                congrArg Libraries.toHexString same, hasLink_apply_append at_ rfl rfl rfl⟩

/-- An upgrade with a provider answers with the owner of the linked identity. -/
theorem upgradeAccount_owner (userId : String) (payload : UpgradePayload) :
    Valid linkage (.upgradeAccount userId payload) (Owner (.upgradeAccount userId payload))
      (UsersService.upgradeAccount userId payload >>= fun user => .ret (.upgraded user))
      store := by
  simp only [UsersService.upgradeAccount, Program.bind_assoc]
  refine valid_findById linkage_tame fun user read _ keptRead parsed member live => ?_
  split
  · exact valid_fail _
  rename_i anonymous
  simp only [ne_eq, Decidable.not_not] at anonymous
  simp only [Program.bind_assoc]
  refine upgradeCredentials_valid linkage_tame fun current middle moved _ credentials => ?_
  simp only [now, await, Program.perform_bind, Program.pure_eq, Program.ret_bind]
  refine valid_await linkage_tame trivial fun upgradedAt later further _ => ?_
  have bumped : (upgraded current payload upgradedAt).tokenVersion = user.tokenVersion + 1 :=
    congrArg (· + 1) credentials.tokenVersion
  rw [User.update_of_tokenVersion (by omega)]
  have reached := linkage.trans moved further
  refine valid_flushEmail linkage_tame
    (fun after => ⟨read, reached, keptRead,
      .upgrade upgradedAt member live parsed anonymous credentials⟩)
    fun updatedAt last onward _ _ _ _ => ?_
  have has : ∀ provider providerUserId, payload.method = .oauth provider →
      truthy payload.providerUserId = some providerUserId →
      HasIdentity (last.stored updatedAt (.updateUser user.id
        (user.changes (upgraded current payload upgradedAt)))) current.hexId provider
        providerUserId := by
    intro provider providerUserId method identity
    obtain ⟨stored, present, same, _⟩ := linkage.trans reached onward user member
    cases credentials with
    | password _ byEmail => cases method.symm.trans byEmail
    | link linkedAt byLink identified =>
        cases method.symm.trans byLink
        cases identity.symm.trans identified
        exact ⟨_, mem_modifyAt_of_eq present same, congrArg Libraries.toHexString same,
          hasLink_apply_append updatedAt rfl rfl rfl⟩
  refine valid_nativeDeleteDevices linkage_tame fun final wiped _ => valid_ret_of_identity ?_
  intro provider providerUserId subject links
  cases links with
  | upgrade method identity => exact (has provider providerUserId method identity).of_rely wiped

/-- Every handler of the service, from any store. -/
theorem handle_owner (operation : UserOperation) (store : Backend) :
    Valid linkage operation (Owner operation) (UsersController.handle operation) store := by
  cases operation with
  | findOrCreateOAuthUser payload => exact findOrCreateOAuthUser_owner payload
  | upgradeAccount userId payload => exact upgradeAccount_owner userId payload
  | _ =>
      refine (handle_valid linkage_tame _).weaken fun outcome later _ => ?_
      cases outcome with
      | error error => trivial
      | ok answer => exact fun _ _ _ links => nomatch links

end Handlers

/-- Where messages about identities do not overlap and no account is deleted, each identity
that has been handed out stays on exactly one account, over every interleaving. -/
theorem linksExclusive_of_linksApart :
    LinksExclusive (fun labels => WithoutDeletions labels ∧ LinksApart {} labels) {} := by
  rintro labels ⟨kept, apart⟩ thread member answer provider providerUserId subject returned links
  have alone := apart.alone kept List.nodup_nil (fun _ none => nomatch none)
    (fun _ none => nomatch none) labels.length
  have reached : userService.Reaches CurrentLinks ⟨{}, []⟩
      (userService.schedule ⟨{}, []⟩ labels) := by
    refine .of_admits (System.admits_of_forall ?_)
    rintro position _ here index thread command rfl present pending
    rintro write at_ id links rfl applies
    exact alone position (List.getElem?_eq_some_iff.mp here).1 index thread.operation write at_
      ⟨thread, at_, ⟨here, present, pending⟩, rfl, applies⟩ write at_ id links rfl applies
  have initial : userService.Sound linkage (fun operation => Issues linkage operation)
      (fun operation => OnReturn (Owner operation)) ⟨{}, []⟩ :=
    ⟨⟨List.nodup_nil, fun _ none => nomatch none⟩, fun _ none => nomatch none⟩
  obtain ⟨sound, _⟩ := System.Reaches.sound currentLinks_respects
    (fun operation pool _ _ => handle_owner operation pool.shared) initial reached
  have settled := sound.threads thread member
  rw [returned] at settled
  obtain ⟨user, inside, named, has⟩ := settled _ (linkage.refl _) sound.keeps provider
    providerUserId subject links
  refine ⟨user, inside, named, has, fun other present shares => ?_⟩
  exact sound.keeps.1.unique present inside
    (sound.keeps.2 other present user inside provider providerUserId shares has)

omit [Libraries] in
/-- The operations that hand out accounts for identities, and the registration that
precedes an upgrade. -/
def UserOperation.handlesIdentities : UserOperation → Bool
  | .createAutoregUser _ => true
  | .findOrCreateOAuthUser _ => true
  | .upgradeAccount _ _ => true
  | _ => false

omit [Libraries] in
/-- The messages of a run are of these operations. -/
def OAuthTraffic (labels : List ServiceLabel) : Prop :=
  ∀ operation, .spawn operation ∈ labels → operation.handlesIdentities = true

end Law

/-! ## Two first logins at once -/

section FirstLogins

open scoped Plain

/-- A provider identity without an email. -/
def unaddressed : OAuthPayload where
  provider := .vk
  providerUserId := "v"

/-- Two logins of one new identity, both of which look it up before either stores
its account. -/
def firstLogins : List ServiceLabel :=
  [.spawn (.findOrCreateOAuthUser unaddressed), .spawn (.findOrCreateOAuthUser unaddressed),
    .step 0, .step 1] ++ List.replicate 5 (.step 0) ++ List.replicate 5 (.step 1)

/-- Two first logins with one identity look it up before either has stored a link. Both are
given an account, and each of the two has the identity. -/
theorem not_linksExclusive_of_firstLogins : ¬LinksExclusive OAuthTraffic {} := by
  intro exclusive
  have traffic : OAuthTraffic firstLogins := by
    intro operation spawned
    simp only [firstLogins, List.cons_append, List.nil_append, List.mem_cons, List.mem_append,
      List.mem_replicate, Label.spawn.injEq, reduceCtorEq, and_false, or_false] at spawned
    rcases spawned with rfl | rfl <;> rfl
  obtain ⟨user, _, _, _, only⟩ := exclusive firstLogins traffic _
    (List.mem_of_getElem? (i := 0) rfl) _ .vk "v" _ rfl .oauth
  have first := only _ (List.mem_of_getElem? (i := 0) rfl) rfl
  have second := only _ (List.mem_of_getElem? (i := 1) rfl) rfl
  exact nomatch congrArg User.id (first.trans second.symm)

end FirstLogins

end NestMonorepo
