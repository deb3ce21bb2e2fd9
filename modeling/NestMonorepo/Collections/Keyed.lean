import Mathlib.Data.List.Nodup
import Mathlib.Data.List.Basic

/-! # Collections of keyed documents

A collection is a list of documents in insertion order, each carrying its key.
Reads return the first document a filter accepts; an update rewrites the
documents of one key in place; an insertion appends.
-/

namespace Collections

variable {α κ : Type} [DecidableEq κ] (key : α → κ)

/-- The document stored under a key. -/
def fetch (index : κ) (documents : List α) : Option α :=
  documents.find? fun document => decide (key document = index)

/-- Rewrite the documents stored under a key. -/
def modifyAt (index : κ) (rewrite : α → α) (documents : List α) : List α :=
  documents.map fun document => if key document = index then rewrite document else document

/-- Remove the documents stored under a key. -/
def removeAt (index : κ) (documents : List α) : List α :=
  documents.filter fun document => decide (key document ≠ index)

variable {key} {index other : κ} {rewrite : α → α} {documents : List α} {document : α}

/-- What is fetched is one of the documents. -/
theorem fetch_some_mem (found : fetch key index documents = some document) :
    document ∈ documents :=
  List.mem_of_find?_eq_some found

/-- What is fetched has the key it was fetched by. -/
theorem fetch_some_key (found : fetch key index documents = some document) :
    key document = index :=
  of_decide_eq_true (List.find?_some (p := fun document => decide (key document = index)) found)

/-- Nothing is fetched exactly when no document has the key. -/
theorem fetch_eq_none : fetch key index documents = none ↔
    ∀ document ∈ documents, key document ≠ index := by
  simp only [fetch, List.find?_eq_none, decide_eq_true_eq, ne_eq]

variable (key) in
/-- By the key of a document of the list something is fetched. -/
theorem fetch_isSome_of_mem (member : document ∈ documents) :
    ∃ found, fetch key (key document) documents = some found := by
  cases present : fetch key (key document) documents with
  | some found => exact ⟨found, rfl⟩
  | none => exact (fetch_eq_none.mp present document member rfl).elim

/-- Under distinct keys a stored document is the one its key fetches. -/
theorem fetch_of_mem (distinct : (documents.map key).Nodup) (member : document ∈ documents) :
    fetch key (key document) documents = some document := by
  obtain ⟨found, present⟩ := fetch_isSome_of_mem key member
  have same : found = document :=
    List.inj_on_of_nodup_map distinct (fetch_some_mem present) member (fetch_some_key present)
  rw [present, same]

/-- Documents added behind do not hide what was fetched before. -/
theorem fetch_append_of_some {added : List α}
    (found : fetch key index documents = some document) :
    fetch key index (documents ++ added) = some document := by
  unfold fetch at found ⊢
  rw [List.find?_append, found, Option.some_or]

/-- Where nothing was fetched, the added documents decide. -/
theorem fetch_append_of_none {added : List α} (absent : fetch key index documents = none) :
    fetch key index (documents ++ added) = fetch key index added := by
  unfold fetch at absent ⊢
  rw [List.find?_append, absent, Option.none_or]

/-- From one document its own key fetches it. -/
theorem fetch_singleton : fetch key (key document) [document] = some document := by
  simp only [fetch, List.find?_cons, decide_true]

/-- From one document another key fetches nothing. -/
theorem fetch_singleton_ne (differ : key document ≠ index) :
    fetch key index [document] = none := by
  simp only [fetch, List.find?_cons, differ, decide_false, List.find?_nil]

/-- A removed key fetches nothing. -/
theorem fetch_removeAt_self : fetch key index (removeAt key index documents) = none := by
  rw [fetch_eq_none]
  intro document member
  exact of_decide_eq_true (List.mem_filter.mp member).2

/-- Removing one key does not change what another fetches. -/
theorem fetch_removeAt_ne (differ : other ≠ index) :
    fetch key other (removeAt key index documents) = fetch key other documents := by
  simp only [fetch, removeAt, List.find?_filter]
  congr 1
  funext document
  by_cases same : key document = other
  · simp only [same, ne_eq, differ, not_false_eq_true, decide_true, and_self]
  · simp only [same, decide_false, Bool.false_eq_true, and_false]

/-- A document of the modified list is an old one with another key, or the rewrite of one
with the key. -/
theorem mem_modifyAt (member : document ∈ modifyAt key index rewrite documents) :
    (document ∈ documents ∧ key document ≠ index) ∨
      ∃ old ∈ documents, key old = index ∧ document = rewrite old := by
  obtain ⟨old, present, rfl⟩ := List.mem_map.mp member
  by_cases same : key old = index
  · simp only [same, ↓reduceIte]
    exact Or.inr ⟨old, present, same, rfl⟩
  · simp only [same, ↓reduceIte]
    exact Or.inl ⟨present, same⟩

/-- A document with another key stays in the modified list. -/
theorem mem_modifyAt_of_ne (member : document ∈ documents) (differ : key document ≠ index) :
    document ∈ modifyAt key index rewrite documents :=
  List.mem_map.mpr ⟨document, member, by simp only [differ, ↓reduceIte]⟩

/-- A document with the key is in the modified list as its rewrite. -/
theorem mem_modifyAt_of_eq (member : document ∈ documents) (same : key document = index) :
    rewrite document ∈ modifyAt key index rewrite documents :=
  List.mem_map.mpr ⟨document, member, by simp only [same, ↓reduceIte]⟩

/-- Looking up by another key sees the documents rewritten. -/
theorem fetch_modifyAt_of_key {κ' : Type} [DecidableEq κ'] {key' : α → κ'} {index' : κ'}
    (preserving : ∀ document, key' (rewrite document) = key' document) :
    fetch key' index' (modifyAt key index rewrite documents) =
      (fetch key' index' documents).map fun document =>
        if key document = index then rewrite document else document := by
  unfold fetch modifyAt
  rw [List.find?_map]
  congr 2
  funext document
  change decide (key' (if key document = index then rewrite document else document) = index') = _
  split
  · rw [preserving]
  · rfl

section Preserving

variable (preserving : ∀ document, key (rewrite document) = key document)
include preserving

/-- Rewriting documents in place keeps the list of keys. -/
theorem modifyAt_keys : (modifyAt key index rewrite documents).map key = documents.map key := by
  unfold modifyAt
  rw [List.map_map]
  apply List.map_congr_left
  intro document _
  change key (if key document = index then rewrite document else document) = key document
  split
  · exact preserving document
  · rfl

/-- The modified key fetches the rewrite of what it fetched before. -/
theorem fetch_modifyAt_self :
    fetch key index (modifyAt key index rewrite documents) =
      (fetch key index documents).map rewrite := by
  induction documents with
  | nil => rfl
  | cons head rest ih =>
      by_cases same : key head = index
      · simp only [fetch, modifyAt, List.map_cons, same, ↓reduceIte, preserving, decide_true,
          List.find?_cons_of_pos, Option.map_some]
      · simp only [fetch, modifyAt, List.map_cons, same, ↓reduceIte, decide_false,
          Bool.false_eq_true, not_false_eq_true, List.find?_cons_of_neg] at ih ⊢
        exact ih

/-- Modifying at one key does not change what another fetches. -/
theorem fetch_modifyAt_ne (differ : other ≠ index) :
    fetch key other (modifyAt key index rewrite documents) = fetch key other documents := by
  induction documents with
  | nil => rfl
  | cons head rest ih =>
      by_cases same : key head = index
      · have skipped : key head ≠ other := fun equal => differ (equal.symm.trans same)
        simp only [fetch, modifyAt, List.map_cons, same, ↓reduceIte, preserving, differ.symm,
          decide_false, Bool.false_eq_true, not_false_eq_true, List.find?_cons_of_neg] at ih ⊢
        exact ih
      · simp only [fetch, modifyAt, List.map_cons, same, ↓reduceIte, List.find?_cons] at ih ⊢
        rw [ih]

end Preserving

/-- A key not yet stored stays unique when a document is appended. -/
theorem nodup_keys_append (distinct : (documents.map key).Nodup)
    (fresh : fetch key (key document) documents = none) :
    ((documents ++ [document]).map key).Nodup := by
  rw [List.map_append, List.nodup_append]
  refine ⟨distinct, List.nodup_singleton _, ?_⟩
  intro present member added single
  rw [List.mem_singleton.mp single]
  obtain ⟨old, inside, rfl⟩ := List.mem_map.mp member
  exact fetch_eq_none.mp fresh old inside

omit [DecidableEq κ] in
/-- Distinct keys stay distinct when documents are removed. -/
theorem nodup_keys_filter (distinct : (documents.map key).Nodup) (keep : α → Bool) :
    ((documents.filter keep).map key).Nodup :=
  distinct.sublist (List.filter_sublist.map key)

end Collections
