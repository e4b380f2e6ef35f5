import Mathlib.Data.List.Basic
import Mathlib.Data.List.Nodup
import Mathlib.Order.Lattice

/-!
# Library — tables with a key column

A table is a list of rows, `key` its key column.  `update` and `upsert` are the statements that
name a row by its key; nothing says that a key is unique, so each of them is about all rows with
the key.  The rows with another key are left as they are.

`Counted` is for a key that is handed out from a counter: it is unique, and stays so when a row is
added under the counter's number (`Counted.append`).
-/

namespace Cmon.Library.Table
variable {R K : Type} [DecidableEq K] {key : R → K} {k : K} {f : R → R} {new r : R} {rows : List R}

/-- `update … where key = k`. -/
def update (key : R → K) (k : K) (f : R → R) (rows : List R) : List R :=
  rows.map fun r => if key r = k then f r else r

/-- A row is inserted unless there is one with its key, which is updated. -/
def upsert (key : R → K) (new : R) (f : R → R) (rows : List R) : List R :=
  if (rows.countP fun r => key r = key new) = 0 then rows ++ [new] else update key (key new) f rows

/-! ### Update -/

theorem keys_update (hf : ∀ r, key r = k → key (f r) = k) :
    (update key k f rows).map key = rows.map key := by
  rw [update, List.map_map]
  refine List.map_congr_left ?_
  intro r _
  by_cases h : key r = k
  · simp [h, hf r h]
  · simp [h]

theorem mem_update_self (hr : r ∈ rows) (h : key r = k) : f r ∈ update key k f rows :=
  List.mem_map.mpr ⟨r, hr, if_pos h⟩

theorem mem_update_of_ne (hf : ∀ r, key r = k → key (f r) = k) (h : key r ≠ k) :
    r ∈ update key k f rows ↔ r ∈ rows := by
  constructor
  · intro hr
    obtain ⟨r₀, hr₀, rfl⟩ := List.mem_map.mp hr
    split at h
    · rename_i hk
      exact absurd (hf r₀ hk) h
    · rename_i hk
      rwa [if_neg hk]
  · exact fun hr => List.mem_map.mpr ⟨r, hr, if_neg h⟩

/-- A row with the key was updated. -/
theorem exists_of_mem_update (hr : r ∈ update key k f rows) (h : key r = k) :
    ∃ r₀ ∈ rows, key r₀ = k ∧ r = f r₀ := by
  obtain ⟨r₀, hr₀, rfl⟩ := List.mem_map.mp hr
  split at h
  · rename_i hk
    exact ⟨r₀, hr₀, hk, if_pos hk⟩
  · rename_i hk
    exact absurd h hk

/-- Rows that the update does not concern. -/
theorem filter_update {P : R → Prop} [DecidablePred P]
    (h : ∀ r ∈ rows, key r = k → ¬ P r ∧ ¬ P (f r)) :
    (update key k f rows).filter P = rows.filter P := by
  induction rows with
  | nil => rfl
  | cons r rows ih =>
      have hrows := ih fun r' hr' => h r' (.tail _ hr')
      rw [update] at hrows ⊢
      by_cases hk : key r = k
      · obtain ⟨hr, hfr⟩ := h r (.head _) hk
        simp [hk, hr, hfr, hrows]
      · simp [hk, hrows, List.filter_cons]

/-- The rows that are updated. -/
theorem filter_update_self (hf : ∀ r, key r = k → key (f r) = k) :
    (update key k f rows).filter (fun r => key r = k) =
      (rows.filter fun r => key r = k).map f := by
  induction rows with
  | nil => rfl
  | cons r rows ih =>
      rw [update] at ih ⊢
      by_cases hk : key r = k
      · simp [hk, hf r hk, ih]
      · simp [hk, ih]

/-- A unique key selects one row. -/
theorem filter_key_of_nodup (h : (rows.map key).Nodup) (hr : r ∈ rows) (hk : key r = k) :
    (rows.filter fun r => key r = k) = [r] := by
  induction rows with
  | nil => exact absurd hr List.not_mem_nil
  | cons r₀ rows ih =>
      obtain ⟨hnot, h⟩ := List.nodup_cons.mp h
      rcases List.mem_cons.mp hr with rfl | hr
      · have hrest : (rows.filter fun r => key r = k) = [] := by
          refine List.filter_eq_nil_iff.mpr ?_
          intro r' hr'
          rw [decide_eq_true_iff]
          exact fun e => hnot (by rw [hk, ← e]; exact List.mem_map_of_mem hr')
        simp [hk, hrest]
      · have hne : key r₀ ≠ k := fun e => hnot (by rw [e, ← hk]; exact List.mem_map_of_mem hr)
        simp [hne, ih h hr]

/-! ### Upsert -/

theorem countP_key_eq_zero : (rows.countP fun r => key r = k) = 0 ↔ k ∉ rows.map key := by
  simp [List.countP_eq_zero]

theorem nodup_upsert (hf : ∀ r, key r = key new → key (f r) = key new)
    (h : (rows.map key).Nodup) : ((upsert key new f rows).map key).Nodup := by
  rw [upsert]
  split_ifs with hc
  · rw [List.map_append, List.map_singleton]
    refine List.nodup_append.mpr ⟨h, List.nodup_singleton _, fun a ha b hb hab => ?_⟩
    obtain rfl := List.mem_singleton.mp hb
    exact countP_key_eq_zero.mp hc (hab ▸ ha)
  · rwa [keys_update hf]

theorem mem_upsert_of_ne (hf : ∀ r, key r = key new → key (f r) = key new) (h : key r ≠ key new) :
    r ∈ upsert key new f rows ↔ r ∈ rows := by
  rw [upsert]
  split_ifs
  · rw [List.mem_append, List.mem_singleton]
    exact or_iff_left fun e => h (e ▸ rfl)
  · exact mem_update_of_ne hf h

/-- The rows with the key are the new one or updated ones. -/
theorem exists_of_mem_upsert (hr : r ∈ upsert key new f rows) (h : key r = key new) :
    r = new ∨ ∃ r₀ ∈ rows, key r₀ = key new ∧ r = f r₀ := by
  rw [upsert] at hr
  split_ifs at hr with hc
  · rcases List.mem_append.mp hr with hr | hr
    · exact absurd (h ▸ List.mem_map_of_mem hr) (countP_key_eq_zero.mp hc)
    · exact .inl (List.mem_singleton.mp hr)
  · exact .inr (exists_of_mem_update hr h)

/-- There is a row with the key. -/
theorem exists_upsert (rows : List R) (hf : ∀ r, key r = key new → key (f r) = key new) :
    ∃ r ∈ upsert key new f rows, key r = key new := by
  rw [upsert]
  split_ifs with hc
  · exact ⟨new, List.mem_append_right _ (List.mem_singleton_self _), rfl⟩
  · obtain ⟨r₀, hr₀, hk⟩ := List.mem_map.mp (not_not.mp (mt countP_key_eq_zero.mpr hc))
    exact ⟨f r₀, mem_update_self hr₀ hk, hf r₀ hk⟩

/-! ### The greatest keys -/

/-- In descending order the first `n` are those that fewer than `n` exceed. -/
theorem mem_take_iff {K : Type} [LinearOrder K] {ks : List K} (h : ks.Pairwise (· > ·)) {n : Nat}
    {k : K} : k ∈ ks.take n ↔ k ∈ ks ∧ (ks.countP fun j => k < j) < n := by
  induction ks generalizing n with
  | nil => simp
  | cons j ks ih =>
      obtain ⟨hj, hks⟩ := List.pairwise_cons.mp h
      cases n with
      | zero => simp
      | succ n =>
          rw [List.take_succ_cons, List.mem_cons, List.mem_cons, ih hks]
          by_cases he : k = j
          · -- nothing exceeds the greatest
            subst he
            have h0 : (ks.countP fun i => k < i) = 0 :=
              List.countP_eq_zero.mpr fun i hi => by simpa using (hj i hi).le
            simp [h0]
          · by_cases hk : k ∈ ks
            · simp [he, hk, hj k hk]
            · simp [he, hk]

/-! ### A key from a counter -/

/-- The keys are unique and positive, and lie below the number that comes next.  The counter has no
bound here: a program that counts with an `int` is meant as long as the numbers are below 2³¹. -/
structure Counted (key : R → Int) (next : Int) (rows : List R) : Prop where
  pos : 0 < next
  ids : ∀ r ∈ rows, 0 < key r ∧ key r < next
  nodup : (rows.map key).Nodup

namespace Counted
variable {key : R → Int} {next next' : Int} {rows rows' : List R} {new : R}

theorem nil : Counted key 1 [] :=
  ⟨Int.one_pos, fun _ h => absurd h List.not_mem_nil, List.nodup_nil⟩

theorem of_mem (h : Counted key next rows) {k : Int} (hk : k ∈ rows.map key) :
    0 < k ∧ k < next := by
  obtain ⟨r, hr, rfl⟩ := List.mem_map.mp hk
  exact h.ids r hr

/-- A row is added under the counter's number, and the counter goes on. -/
theorem append (h : Counted key next rows) (hnew : key new = next) :
    Counted key (next + 1) (rows ++ [new]) := by
  refine ⟨Int.lt_add_one_of_le (Int.le_of_lt h.pos), ?_, ?_⟩
  · intro r hr
    rcases List.mem_append.mp hr with hr | hr
    · have hold := h.ids r hr
      omega
    · obtain rfl := List.mem_singleton.mp hr
      have hpos := h.pos
      omega
  · rw [List.map_append, List.map_singleton, hnew]
    refine List.nodup_append.mpr ⟨h.nodup, List.nodup_singleton _, ?_⟩
    intro a ha b hb
    obtain rfl := List.mem_singleton.mp hb
    exact Int.ne_of_lt (h.of_mem ha).2

theorem sublist (h : Counted key next rows) (hs : rows'.Sublist rows) : Counted key next rows' :=
  ⟨h.pos, fun r hr => h.ids r (hs.subset hr), h.nodup.sublist (hs.map _)⟩

theorem mono (h : Counted key next rows) (hn : next ≤ next') : Counted key next' rows :=
  ⟨Int.lt_of_lt_of_le h.pos hn,
    fun r hr => ⟨(h.ids r hr).1, Int.lt_of_lt_of_le (h.ids r hr).2 hn⟩, h.nodup⟩

theorem of_keys (h : Counted key next rows) (he : rows'.map key = rows.map key) :
    Counted key next rows' := by
  refine ⟨h.pos, fun r hr => h.of_mem (he ▸ List.mem_map_of_mem hr), ?_⟩
  rw [he]
  exact h.nodup

end Counted

end Cmon.Library.Table
