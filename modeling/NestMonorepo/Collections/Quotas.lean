import Mathlib.Algebra.BigOperators.Group.Finset.Basic

/-! # Chains of quotas

Every request is counted under a key, once for each quota of a chain and up to the
first quota it exceeds; it passes if it exceeds none. What passes is determined by
the tightest quota alone.
-/

namespace Collections

/-- A limit on the requests counted under one key; some requests it does not count. -/
structure Quota (α : Type) where
  name : String
  limit : Nat
  skipIf : α → Bool

variable {α κ : Type} [DecidableEq κ]

/-- The requests counted so far, each under a quota's name and a key. -/
abbrev Hits (κ : Type) : Type := List (String × κ)

/-- Count a request under each quota in turn, up to the first one it exceeds. -/
def spend (key : κ) (request : α) : List (Quota α) → Hits κ → Hits κ × Bool
  | [], hits => (hits, true)
  | quota :: rest, hits =>
      if quota.skipIf request then spend key request rest hits
      else
        let counted := (quota.name, key) :: hits
        if quota.limit < counted.count (quota.name, key) then (counted, false)
        else spend key request rest counted

/-- The requests that pass, in their order. -/
def admitted (key : α → κ) (quotas : List (Quota α)) : List α → Hits κ → List α
  | [], _ => []
  | request :: rest, hits =>
      let (after, passes) := spend (key request) request quotas hits
      if passes then request :: admitted key quotas rest after
      else admitted key quotas rest after

/-- After so many requests of a key, each quota has counted those that no earlier
quota of the chain stopped. -/
def Tallied (counts : String → Nat) : List (Quota α) → Nat → Prop
  | [], _ => True
  | quota :: rest, served =>
      counts quota.name = served ∧ Tallied counts rest (min served quota.limit)

/-- What a key has been counted under each name. -/
def tally (hits : Hits κ) (key : κ) (name : String) : Nat := hits.count (name, key)

section Spend

variable {quotas : List (Quota α)} {key other : κ} {request : α} {hits : Hits κ} {served : Nat}

/-- A tally depends only on the counts under the names of the quotas. -/
theorem Tallied.congr {counts counts' : String → Nat} (tallied : Tallied counts quotas served)
    (same : ∀ quota ∈ quotas, counts' quota.name = counts quota.name) :
    Tallied counts' quotas served := by
  induction quotas generalizing served with
  | nil => trivial
  | cons quota rest ih =>
      obtain ⟨first, others⟩ := tallied
      refine ⟨?_, ih others fun quota member => same quota (List.mem_cons_of_mem _ member)⟩
      rw [same quota List.mem_cons_self, first]

/-- Before the first hit every quota has served nothing. -/
theorem tallied_nil : ∀ quotas : List (Quota α), Tallied (tally [] key) quotas 0
  | [] => trivial
  | quota :: rest => by
      refine ⟨rfl, ?_⟩
      rw [Nat.zero_min]
      exact tallied_nil rest

/-- A hit under its name and key is counted. -/
theorem tally_cons_self (name : String) :
    tally ((name, key) :: hits) key name = tally hits key name + 1 := List.count_cons_self

/-- A hit under another name is not. -/
theorem tally_cons_of_name {name counted : String} (differ : counted ≠ name) :
    tally ((counted, key) :: hits) other name = tally hits other name := by
  apply List.count_cons_of_ne
  intro same
  exact differ (congrArg Prod.fst same)

/-- Nor is one under another key. -/
theorem tally_cons_of_key {name counted : String} (differ : key ≠ other) :
    tally ((counted, key) :: hits) other name = tally hits other name := by
  apply List.count_cons_of_ne
  intro same
  exact differ (congrArg Prod.snd same)

/-- A request changes nothing about the other keys. -/
theorem spend_tally_of_key (differ : key ≠ other) (name : String) :
    tally (spend key request quotas hits).1 other name = tally hits other name := by
  induction quotas generalizing hits with
  | nil => rfl
  | cons quota rest ih =>
      rw [spend]
      split
      · exact ih
      · dsimp only
        split
        · exact tally_cons_of_key differ
        · rw [ih, tally_cons_of_key differ]

/-- Nor about the names of other quotas. -/
theorem spend_tally_of_name {name : String} (absent : ∀ quota ∈ quotas, quota.name ≠ name) :
    tally (spend key request quotas hits).1 key name = tally hits key name := by
  induction quotas generalizing hits with
  | nil => rfl
  | cons quota rest ih =>
      have differ : quota.name ≠ name := absent quota List.mem_cons_self
      have others : ∀ quota ∈ rest, quota.name ≠ name := fun quota member =>
        absent quota (List.mem_cons_of_mem _ member)
      rw [spend]
      split
      · exact ih others
      · dsimp only
        split
        · exact tally_cons_of_name differ
        · rw [ih others, tally_cons_of_name differ]

/-- A request that every quota counts passes if it is within all of them, and is
tallied either way. -/
theorem spend_tallied (names : (quotas.map Quota.name).Nodup)
    (counted : ∀ quota ∈ quotas, quota.skipIf request = false)
    (tallied : Tallied (tally hits key) quotas served) :
    ((spend key request quotas hits).2 = true ↔ ∀ quota ∈ quotas, served < quota.limit) ∧
      Tallied (tally (spend key request quotas hits).1 key) quotas (served + 1) := by
  induction quotas generalizing hits with
  | nil => exact ⟨⟨fun _ => by simp, fun _ => rfl⟩, trivial⟩
  | cons quota rest ih =>
      obtain ⟨own, others⟩ := List.nodup_cons.mp names
      have apart : ∀ other ∈ rest, quota.name ≠ other.name := by
        intro other member same
        exact own (same ▸ List.mem_map_of_mem member)
      obtain ⟨first, tallied⟩ := tallied
      have counts : ((quota.name, key) :: hits).count (quota.name, key) = served + 1 := by
        rw [← first]
        exact tally_cons_self quota.name
      have unchanged : ∀ other ∈ rest,
          tally ((quota.name, key) :: hits) key other.name = tally hits key other.name :=
        fun other member => tally_cons_of_name (apart other member)
      rw [spend, counted quota List.mem_cons_self, if_neg Bool.false_ne_true]
      dsimp only
      rw [counts]
      by_cases exceeded : quota.limit < served + 1
      · rw [if_pos exceeded]
        refine ⟨⟨fun passes => (Bool.false_ne_true passes).elim, fun within => ?_⟩, ?_, ?_⟩
        · exact absurd (within quota List.mem_cons_self) (by omega)
        · rw [tally_cons_self, first]
        · rw [show min (served + 1) quota.limit = min served quota.limit by omega]
          exact tallied.congr unchanged
      · rw [if_neg exceeded]
        rw [show min served quota.limit = served by omega] at tallied
        obtain ⟨passes, after⟩ := ih others
          (fun other member => counted other (List.mem_cons_of_mem _ member))
          (tallied.congr unchanged)
        refine ⟨?_, ?_, ?_⟩
        · rw [passes, List.forall_mem_cons]
          exact ⟨fun within => ⟨by omega, within⟩, And.right⟩
        · rw [spend_tally_of_name fun other member => (apart other member).symm, tally_cons_self,
            first]
        · rwa [show min (served + 1) quota.limit = served + 1 by omega]

end Spend

/-! ## Whole sequences -/

section Admitted

variable {key : α → κ} {quotas : List (Quota α)} {requests : List α} {tightest : Nat}

/-- The limit of the chain as a whole. -/
def Tightest (quotas : List (Quota α)) (tightest : Nat) : Prop :=
  ∀ served, (∀ quota ∈ quotas, served < quota.limit) ↔ served < tightest

/-- The admitted requests are some of the requests, in their order. -/
theorem admitted_sublist (hits : Hits κ) :
    (admitted key quotas requests hits).Sublist requests := by
  induction requests generalizing hits with
  | nil => exact List.Sublist.slnil
  | cons request rest ih =>
      rw [admitted]
      dsimp only
      split
      · exact (ih _).cons_cons _
      · exact (ih _).cons _

/-- What has passed of a key is what has been served of it, up to the tightest limit. The
induction is on the requests, with the tally of those that came before. -/
theorem admitted_count_add (names : (quotas.map Quota.name).Nodup)
    (counted : ∀ request ∈ requests, ∀ quota ∈ quotas, quota.skipIf request = false)
    (limit : Tightest quotas tightest) {hits : Hits κ} {served : κ → Nat}
    (tallied : ∀ key, Tallied (tally hits key) quotas (served key)) (index : κ) :
    ((admitted key quotas requests hits).map key).count index + min (served index) tightest =
      min (served index + (requests.map key).count index) tightest := by
  induction requests generalizing hits served with
  | nil => simp [admitted]
  | cons request rest ih =>
      obtain ⟨passes, after⟩ := spend_tallied names (counted request List.mem_cons_self)
        (tallied (key request))
      rw [limit] at passes
      have carried : ∀ other, Tallied
          (tally (spend (key request) request quotas hits).1 other) quotas
          (served other + if key request = other then 1 else 0) := by
        intro other
        by_cases same : key request = other
        · subst same
          rwa [if_pos rfl]
        · rw [if_neg same, Nat.add_zero]
          exact (tallied other).congr fun quota _ => spend_tally_of_key same quota.name
      have rest := ih (fun request member => counted request (List.mem_cons_of_mem _ member))
        carried
      rw [admitted]
      dsimp only
      by_cases passed : (spend (key request) request quotas hits).2 = true
      · have within := passes.mp passed
        rw [if_pos passed]
        simp only [List.map_cons, List.count_cons, beq_iff_eq]
        by_cases same : key request = index
        · subst same
          simp only [↓reduceIte] at rest ⊢
          omega
        · simp only [same, ↓reduceIte, Nat.add_zero] at rest ⊢
          exact rest
      · have beyond : ¬served (key request) < tightest := fun within => passed (passes.mpr within)
        rw [if_neg passed]
        simp only [List.map_cons, List.count_cons, beq_iff_eq]
        by_cases same : key request = index
        · subst same
          simp only [↓reduceIte] at rest ⊢
          omega
        · simp only [same, ↓reduceIte, Nat.add_zero] at rest ⊢
          exact rest

/-- Of each key as many requests pass as the tightest quota allows. -/
theorem admitted_count (names : (quotas.map Quota.name).Nodup)
    (counted : ∀ request ∈ requests, ∀ quota ∈ quotas, quota.skipIf request = false)
    (limit : Tightest quotas tightest) (index : κ) :
    ((admitted key quotas requests []).map key).count index =
      min ((requests.map key).count index) tightest := by
  have counts : ((admitted key quotas requests []).map key).count index + min 0 tightest =
      min (0 + (requests.map key).count index) tightest :=
    admitted_count_add names counted limit (fun _ => tallied_nil quotas) index
  rwa [Nat.zero_min, Nat.add_zero, Nat.zero_add] at counts

/-- How many requests pass, key by key. -/
theorem admitted_length (names : (quotas.map Quota.name).Nodup)
    (counted : ∀ request ∈ requests, ∀ quota ∈ quotas, quota.skipIf request = false)
    (limit : Tightest quotas tightest) :
    (admitted key quotas requests []).length =
      ∑ index ∈ (requests.map key).toFinset, min ((requests.map key).count index) tightest := by
  have keys : ((admitted key quotas requests []).map key).toFinset ⊆
      (requests.map key).toFinset := by
    intro index member
    rw [List.mem_toFinset] at member ⊢
    exact ((admitted_sublist []).map key).subset member
  calc (admitted key quotas requests []).length
      = ((admitted key quotas requests []).map key).length :=
        (List.length_map _).symm
    _ = ∑ index ∈ ((admitted key quotas requests []).map key).toFinset,
          ((admitted key quotas requests []).map key).count index :=
        (List.sum_toFinset_count_eq_length _).symm
    _ = ∑ index ∈ (requests.map key).toFinset,
          ((admitted key quotas requests []).map key).count index := by
        refine Finset.sum_subset keys fun index _ absent => ?_
        exact List.count_eq_zero.mpr fun member => absent (List.mem_toFinset.mpr member)
    _ = _ := Finset.sum_congr rfl fun index _ => admitted_count names counted limit index

/-- Requests that share a key cannot exceed the tightest quota together. -/
theorem admitted_length_le (names : (quotas.map Quota.name).Nodup)
    (counted : ∀ request ∈ requests, ∀ quota ∈ quotas, quota.skipIf request = false)
    (limit : Tightest quotas tightest) {index : κ} {alike : List α}
    (passed : alike.Sublist (admitted key quotas requests []))
    (share : ∀ request ∈ alike, key request = index) : alike.length ≤ tightest := by
  have same : ∀ counted ∈ alike.map key, index = counted := by
    intro counted member
    obtain ⟨request, present, rfl⟩ := List.mem_map.mp member
    exact (share request present).symm
  calc alike.length
      = (alike.map key).length := (List.length_map _).symm
    _ = (alike.map key).count index := (List.count_eq_length.mpr same).symm
    _ ≤ ((admitted key quotas requests []).map key).count index :=
        (passed.map key).count_le index
    _ ≤ tightest := by
        rw [admitted_count names counted limit]
        exact Nat.min_le_right _ _

end Admitted

end Collections
