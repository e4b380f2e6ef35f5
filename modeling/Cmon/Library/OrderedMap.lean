import Mathlib.Order.Lattice
import Mathlib.Data.List.Sort

/-!
# Library — ordered maps

A map kept as a list of entries strictly ordered by key, with the operations of an ordered
dictionary that hands out places rather than copies: `insert` keeps an entry that is already
there, `put` overwrites it, `modify` changes the value at a key in place, and `entries` is the
iteration order.

`find?` determines the map: `mem_entries` reads an entry off it, and each operation has one
equation for the key it works on and one for every other key.
-/

namespace Cmon.Library

/-- Entries in strictly increasing order of their keys. -/
structure OrderedMap (K V : Type) [LinearOrder K] where
  entries : List (K × V)
  sorted : entries.Pairwise (fun a b => a.1 < b.1)

namespace OrderedMap
variable {K V : Type} [LinearOrder K]

/-! ### The operations -/

def empty : OrderedMap K V := ⟨[], .nil⟩

/-- The first value stored under `k`. -/
def lookup (k : K) : List (K × V) → Option V
  | [] => none
  | (k', v) :: es => if k' = k then some v else lookup k es

def find? (m : OrderedMap K V) (k : K) : Option V := lookup k m.entries

/-- `(k, v)` in its place, unless `k` is there already. -/
def place (k : K) (v : V) : List (K × V) → List (K × V)
  | [] => [(k, v)]
  | (k', v') :: es =>
      if k < k' then (k, v) :: (k', v') :: es
      else if k = k' then (k', v') :: es
      else (k', v') :: place k v es

theorem mem_place {k : K} {v : V} {e : K × V} :
    ∀ {es : List (K × V)}, e ∈ place k v es → e = (k, v) ∨ e ∈ es
  | [], h => by simpa [place] using h
  | (k', v') :: es, h => by
      simp only [place] at h
      split at h
      · simpa using h
      · split at h
        · exact .inr h
        · rcases List.mem_cons.mp h with rfl | h
          · exact .inr (.head _)
          · exact (mem_place h).imp_right (.tail _)

theorem place_sorted (k : K) (v : V) :
    ∀ {es : List (K × V)}, es.Pairwise (fun a b => a.1 < b.1) →
      (place k v es).Pairwise (fun a b => a.1 < b.1)
  | [], _ => List.pairwise_singleton _ _
  | (k', v') :: es, h => by
      obtain ⟨h₁, h₂⟩ := List.pairwise_cons.mp h
      simp only [place]
      split
      · rename_i hlt
        refine List.pairwise_cons.mpr ⟨fun e he => ?_, h⟩
        rcases List.mem_cons.mp he with rfl | he
        · exact hlt
        · exact hlt.trans (h₁ e he)
      · split
        · exact h
        · rename_i hlt hne
          refine List.pairwise_cons.mpr ⟨fun e he => ?_, place_sorted k v h₂⟩
          rcases mem_place he with rfl | he
          · exact lt_of_le_of_ne (not_lt.mp hlt) (Ne.symm hne)
          · exact h₁ e he

/-- An entry for `k`, unless there is one. -/
def insert (m : OrderedMap K V) (k : K) (v : V) : OrderedMap K V :=
  ⟨place k v m.entries, place_sorted k v m.sorted⟩

def erase (m : OrderedMap K V) (k : K) : OrderedMap K V :=
  ⟨m.entries.filter (fun e => e.1 ≠ k), m.sorted.filter _⟩

/-- The value at `k`, changed in place. -/
def modify (m : OrderedMap K V) (k : K) (f : V → V) : OrderedMap K V :=
  ⟨m.entries.map (fun e => if e.1 = k then (e.1, f e.2) else e), by
    refine List.Pairwise.map _ (fun a b hab => ?_) m.sorted
    split <;> split <;> exact hab⟩

/-- The entry for `k` is `v`, whether there was one or not. -/
def put (m : OrderedMap K V) (k : K) (v : V) : OrderedMap K V :=
  (m.insert k v).modify k (fun _ => v)

/-! ### Lookups -/

@[simp] theorem find?_empty (k : K) : (empty : OrderedMap K V).find? k = none := rfl

theorem lookup_eq_some {k : K} {v : V} :
    ∀ {es : List (K × V)}, es.Pairwise (fun a b => a.1 < b.1) →
      (lookup k es = some v ↔ (k, v) ∈ es)
  | [], _ => by simp [lookup]
  | (k', v') :: es, h => by
      obtain ⟨h₁, h₂⟩ := List.pairwise_cons.mp h
      simp only [lookup]
      split
      · rename_i e
        subst e
        constructor
        · rintro ⟨⟩; exact .head _
        · intro hm
          rcases List.mem_cons.mp hm with e | hm
          · exact congrArg some (Prod.mk.inj e).2.symm
          · exact absurd (h₁ _ hm) (lt_irrefl _)
      · rename_i hne
        rw [lookup_eq_some h₂, List.mem_cons, Prod.mk.injEq]
        exact ⟨.inr, fun h => h.resolve_left fun e => hne e.1.symm⟩

/-- An entry of the map is a lookup. -/
theorem mem_entries {m : OrderedMap K V} {k : K} {v : V} :
    (k, v) ∈ m.entries ↔ m.find? k = some v :=
  (lookup_eq_some m.sorted).symm

theorem lookup_place_self (k : K) (v : V) :
    ∀ {es : List (K × V)}, es.Pairwise (fun a b => a.1 < b.1) →
      lookup k (place k v es) = some ((lookup k es).getD v)
  | [], _ => by simp [place, lookup]
  | (k', v') :: es, h => by
      obtain ⟨h₁, h₂⟩ := List.pairwise_cons.mp h
      by_cases hlt : k < k'
      · -- nothing after `k'` has the key `k`
        have hnone : lookup k es = none := by
          cases e : lookup k es with
          | none => rfl
          | some w => exact absurd (hlt.trans (h₁ _ ((lookup_eq_some h₂).mp e))) (lt_irrefl _)
        simp [place, lookup, hlt, hlt.ne', hnone]
      · by_cases e : k = k'
        · simp [place, lookup, e]
        · simp [place, lookup, hlt, e, Ne.symm e, lookup_place_self k v h₂]

@[simp] theorem find?_insert_self (m : OrderedMap K V) (k : K) (v : V) :
    (m.insert k v).find? k = some ((m.find? k).getD v) :=
  lookup_place_self k v m.sorted

theorem lookup_place_of_ne {k j : K} (h : j ≠ k) (v : V) :
    ∀ es : List (K × V), lookup j (place k v es) = lookup j es
  | [] => by simp [place, lookup, h.symm]
  | (k', v') :: es => by
      simp only [place]
      split
      · simp [lookup, h.symm]
      · split
        · rfl
        · simp only [lookup, lookup_place_of_ne h v es]

theorem find?_insert_of_ne (m : OrderedMap K V) {k j : K} (h : j ≠ k) (v : V) :
    (m.insert k v).find? j = m.find? j :=
  lookup_place_of_ne h v m.entries

@[simp] theorem find?_erase_self (m : OrderedMap K V) (k : K) : (m.erase k).find? k = none := by
  cases e : (m.erase k).find? k with
  | none => rfl
  | some v => simpa [erase] using mem_entries.mpr e

theorem find?_erase_of_ne (m : OrderedMap K V) {k j : K} (h : j ≠ k) :
    (m.erase k).find? j = m.find? j := by
  refine Option.ext ?_
  intro v
  rw [← mem_entries, ← mem_entries]
  simp [erase, h]

theorem lookup_modify (k : K) (f : V → V) (j : K) :
    ∀ es : List (K × V), lookup j (es.map (fun e => if e.1 = k then (e.1, f e.2) else e)) =
      if j = k then (lookup j es).map f else lookup j es
  | [] => by simp [lookup]
  | (k', v) :: es => by
      simp only [List.map_cons, lookup]
      by_cases e : k' = k <;> by_cases e' : k' = j
      · subst e; subst e'; simp
      · subst e; simp [e', Ne.symm e', lookup_modify k' f j es]
      · subst e'; simp [e]
      · simp [e, e', lookup_modify k f j es]

@[simp] theorem find?_modify_self (m : OrderedMap K V) (k : K) (f : V → V) :
    (m.modify k f).find? k = (m.find? k).map f := by
  simp [find?, modify, lookup_modify]

theorem find?_modify_of_ne (m : OrderedMap K V) {k j : K} (h : j ≠ k) (f : V → V) :
    (m.modify k f).find? j = m.find? j := by
  simp [find?, modify, lookup_modify, h]

@[simp] theorem find?_put_self (m : OrderedMap K V) (k : K) (v : V) :
    (m.put k v).find? k = some v := by
  simp [put]

theorem find?_put_of_ne (m : OrderedMap K V) {k j : K} (h : j ≠ k) (v : V) :
    (m.put k v).find? j = m.find? j := by
  rw [put, find?_modify_of_ne _ h, find?_insert_of_ne _ h]

@[simp] theorem entries_put_empty (k : K) (v : V) :
    ((empty : OrderedMap K V).put k v).entries = [(k, v)] := by
  simp [put, insert, modify, place, empty]

/-! ### Reading a lookup back -/

theorem of_find?_insert {m : OrderedMap K V} {k j : K} {v w : V}
    (h : (m.insert k v).find? j = some w) : j = k ∧ w = v ∨ m.find? j = some w := by
  by_cases hj : j = k
  · subst hj
    rw [find?_insert_self] at h
    cases hf : m.find? j with
    | none => exact .inl ⟨rfl, by simpa [hf] using h.symm⟩
    | some w' => exact .inr (by simpa [hf] using h)
  · exact .inr ((find?_insert_of_ne m hj v).symm.trans h)

/-- What is in the map stays. -/
theorem find?_insert_of_some {m : OrderedMap K V} {j : K} {w : V} (h : m.find? j = some w)
    (k : K) (v : V) : (m.insert k v).find? j = some w := by
  by_cases hj : j = k
  · subst hj
    simp [h]
  · rw [find?_insert_of_ne m hj, h]

theorem of_find?_erase {m : OrderedMap K V} {k j : K} {w : V}
    (h : (m.erase k).find? j = some w) : j ≠ k ∧ m.find? j = some w := by
  by_cases hj : j = k
  · subst hj
    rw [find?_erase_self] at h
    cases h
  · exact ⟨hj, (find?_erase_of_ne m hj).symm.trans h⟩

/-! ### Insertion at a new and at a known key -/

theorem place_known {k : K} {v w : V} :
    ∀ {es : List (K × V)}, es.Pairwise (fun a b => a.1 < b.1) → lookup k es = some w →
      place k v es = es
  | [], _, h => by simp [lookup] at h
  | (k', v') :: es, hs, h => by
      obtain ⟨h₁, h₂⟩ := List.pairwise_cons.mp hs
      simp only [lookup] at h
      split at h
      · rename_i e; simp [place, e]
      · rename_i hne
        have hlt : k' < k := h₁ _ ((lookup_eq_some h₂).mp h)
        simp [place, hlt.not_gt, hlt.ne', place_known h₂ h]

/-- A known key keeps its entry. -/
theorem insert_known {m : OrderedMap K V} {k : K} {w : V} (h : m.find? k = some w) (v : V) :
    m.insert k v = m := by
  cases m with
  | mk es hs => simp only [insert, place_known hs h]

theorem place_perm {k : K} {v : V} :
    ∀ {es : List (K × V)}, es.Pairwise (fun a b => a.1 < b.1) → lookup k es = none →
      (place k v es).Perm ((k, v) :: es)
  | [], _, _ => .refl _
  | (k', v') :: es, hs, h => by
      obtain ⟨-, h₂⟩ := List.pairwise_cons.mp hs
      simp only [lookup] at h
      split at h
      · cases h
      · rename_i hne
        simp only [place]
        split
        · exact .refl _
        · rw [if_neg (Ne.symm hne)]
          exact ((place_perm h₂ h).cons _).trans (.swap _ _ _)

/-- A new key adds one entry. -/
theorem insert_new_perm {m : OrderedMap K V} {k : K} (h : m.find? k = none) (v : V) :
    (m.insert k v).entries.Perm ((k, v) :: m.entries) :=
  place_perm m.sorted h

/-- Two entries with one key are one entry. -/
theorem entries_nodup (m : OrderedMap K V) : m.entries.Nodup :=
  m.sorted.imp fun h e => absurd (congrArg Prod.fst e) h.ne

end OrderedMap
end Cmon.Library
