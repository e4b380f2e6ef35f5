import Cmon.Journal.Model

/-!
# Journal — the purge

Which rows `purgeEntries` deletes: those that are too old, when the preferences limit the age, and
those that too many newer rows have outnumbered, when they limit the count.

* `mem_purged`: these are the rows that a purge deletes when it commits;
* `mem_purgeEntries`: any other row survives it, and every row one that does not commit;
* `mem_purge_added`: whether the row of a first save survives it depends on the time of its call.
-/

namespace Cmon
open Library

namespace JournalDb
variable {p : Platform} {m : Moment} {db : JournalDb} {r : CallRow}

/-- The row has passed the age limit of the preferences. -/
def TooOld (p : Platform) (m : Moment) (r : CallRow) : Prop :=
  m.prefs.delJournalByAge = true ∧
    ∃ d ∈ p.julianday r.tm1, p.julianNow m.now - d > m.prefs.maxJournalAge

instance (p : Platform) (m : Moment) (r : CallRow) : Decidable (TooOld p m r) :=
  inferInstanceAs (Decidable (_ ∧ ∃ d ∈ p.julianday r.tm1, _))

/-- The rows with a greater id that are not too old are as many as the count limit of the
preferences. -/
def Outnumbered (p : Platform) (m : Moment) (rows : List CallRow) (id : Int) : Prop :=
  m.prefs.delJournalByCount = true ∧ 0 ≤ m.prefs.maxJournalCount ∧
    m.prefs.maxJournalCount ≤ (rows.countP fun r => id < r.id ∧ ¬ TooOld p m r)

instance (p : Platform) (m : Moment) (rows : List CallRow) (id : Int) :
    Decidable (Outnumbered p m rows id) :=
  inferInstanceAs (Decidable (_ ∧ _ ∧ _))

/-- A purge leaves the database alone when one of its statements or its commit fails. -/
def PurgeCommits (m : Moment) : Prop :=
  ∀ k, m.purgeFault = some k →
    (if m.prefs.delJournalByAge then 1 else 0) + (if m.prefs.delJournalByCount then 1 else 0) < k

instance (m : Moment) : Decidable (PurgeCommits m) :=
  inferInstanceAs (Decidable (∀ k ∈ m.purgeFault, _))

/-- What the two statements of a purge make. -/
def purged (p : Platform) (m : Moment) (db : JournalDb) : JournalDb :=
  let db := if m.prefs.delJournalByAge then deleteByAge p m.now m.prefs.maxJournalAge db else db
  if m.prefs.delJournalByCount then deleteByCount m.prefs.maxJournalCount db else db

theorem purgeTx_takes (p : Platform) (m : Moment) (db : JournalDb) :
    Tx.Takes (purgeTx p m) db ()
      ((if m.prefs.delJournalByAge then 1 else 0) + (if m.prefs.delJournalByCount then 1 else 0))
      () (purged p m db) () :=
  (Tx.Takes.when _ (Tx.Takes.write _ db ())).bind (Tx.Takes.when _ (Tx.Takes.write _ _ ()))

/-- A purge commits, or leaves the database alone. -/
theorem purgeEntries_eq (p : Platform) (m : Moment) (db : JournalDb) :
    purgeEntries p m db = if PurgeCommits m then purged p m db else db := by
  rw [purgeEntries]
  split
  · split
    · rename_i h
      rw [Tx.transact_done (purgeTx_takes p m db) h]
    · rename_i h
      rw [PurgeCommits] at h
      push Not at h
      obtain ⟨k, hk, hle⟩ := h
      refine Tx.transact_rolledBack ?_
      rw [hk]
      exact Tx.transact_short (purgeTx_takes p m db) (Nat.lt_succ_of_le hle)
  · rename_i h
    obtain ⟨hage, hcount⟩ := not_or.mp fun hor => h (Bool.or_eq_true .. ▸ hor)
    rw [purged, if_neg hcount, if_neg hage, ite_self]

/-- The first statement leaves the rows that are not too old. -/
theorem calls_deleteByAge (p : Platform) (m : Moment) (db : JournalDb) :
    (if m.prefs.delJournalByAge then deleteByAge p m.now m.prefs.maxJournalAge db else db).calls =
      db.calls.filter fun r => ¬ TooOld p m r := by
  split
  · rename_i h
    refine List.filter_congr fun r _ => ?_
    cases hd : p.julianday r.tm1 with
    | none => simp [TooOld, hd]
    | some d => simp [TooOld, hd, h]
  · rename_i h
    exact (List.filter_eq_self.mpr fun r _ => by simp [TooOld, h]).symm

/-- The ids that `order by id desc limit maxCount` selects. -/
theorem mem_newestIds (h : (db.calls.map (·.id)).Nodup) {maxCount id : Int} :
    id ∈ newestIds maxCount db ↔ id ∈ db.calls.map (·.id) ∧
      (maxCount < 0 ∨ (db.calls.countP fun r => id < r.id : Nat) < maxCount) := by
  have hperm := List.mergeSort_perm (db.calls.map (·.id)) fun a b => decide (b ≤ a)
  rw [newestIds]
  split
  · rename_i hneg
    rw [hperm.mem_iff]
    simp [hneg]
  · rename_i hpos
    have hsorted :
        ((db.calls.map (·.id)).mergeSort fun a b => decide (b ≤ a)).Pairwise (· > ·) := by
      have hle := @List.pairwise_mergeSort Int (fun a b => decide (b ≤ a))
        (fun a b c hab hbc => by simp at hab hbc ⊢; omega) (fun a b => by simp; omega)
        (db.calls.map (·.id))
      exact (hle.and ((hperm.nodup_iff).mpr h)).imp fun ⟨h₁, h₂⟩ => by
        simp at h₁; omega
    rw [Table.mem_take_iff hsorted, hperm.mem_iff, hperm.countP_eq, List.countP_map]
    refine and_congr_right fun _ => ?_
    rw [or_iff_right hpos]
    have hcount : (db.calls.countP ((fun j => decide (id < j)) ∘ (·.id))) =
        db.calls.countP fun r => id < r.id := rfl
    rw [hcount]
    omega

/-- **A purge that commits deletes the rows that are too old or outnumbered.** -/
theorem mem_purged (h : (db.calls.map (·.id)).Nodup) : r ∈ (purged p m db).calls ↔
    r ∈ db.calls ∧ ¬ TooOld p m r ∧ ¬ Outnumbered p m db.calls r.id := by
  have hcalls := calls_deleteByAge p m db
  rw [purged]
  generalize (if m.prefs.delJournalByAge then _ else db : JournalDb) = db₁ at hcalls
  have hmem : r ∈ db₁.calls ↔ r ∈ db.calls ∧ ¬ TooOld p m r := by
    rw [hcalls, List.mem_filter, decide_eq_true_iff]
  by_cases hc : m.prefs.delJournalByCount = true
  · have hids : (db₁.calls.map (·.id)).Nodup := by
      rw [hcalls]
      exact h.sublist (List.filter_sublist.map _)
    have hcount : (db₁.calls.countP fun r' => r.id < r'.id) =
        db.calls.countP fun r' => r.id < r'.id ∧ ¬ TooOld p m r' := by
      rw [hcalls, List.countP_filter]
      exact List.countP_congr fun r' _ => by simp
    rw [if_pos hc, deleteByCount, List.mem_filter, decide_eq_true_iff, mem_newestIds hids, hmem,
      hcount, Outnumbered]
    constructor
    · rintro ⟨⟨hr, ho⟩, -, hn⟩
      exact ⟨hr, ho, fun ⟨_, h0, hle⟩ => by omega⟩
    · rintro ⟨hr, ho, hn⟩
      refine ⟨⟨hr, ho⟩, List.mem_map_of_mem (hmem.mpr ⟨hr, ho⟩), ?_⟩
      by_contra hcon
      exact hn ⟨hc, by omega, by omega⟩
  · rw [if_neg hc, hmem, Outnumbered]
    simp [hc]

/-- A row that is neither too old nor outnumbered survives a purge, and every row one that does
not commit. -/
theorem mem_purgeEntries (h : (db.calls.map (·.id)).Nodup) : r ∈ (purgeEntries p m db).calls ↔
    r ∈ db.calls ∧ (PurgeCommits m → ¬ TooOld p m r ∧ ¬ Outnumbered p m db.calls r.id) := by
  rw [purgeEntries_eq]
  split
  · rename_i hc
    rw [mem_purged h, forall_prop_of_true hc]
  · rename_i hc
    rw [forall_prop_of_false hc, and_true]

/-! ### The row of a first save -/

section
variable {j j' : JournalEntry}

/-- It survives the purge or not by the time of its call alone. -/
theorem mem_purge_added (h : WF db) (hc : j'.creation = j.creation) :
    rowOf p db.nextcallid j' ∈ (purgeEntries p m (added p db j')).calls ↔
      rowOf p db.nextcallid j ∈ (purgeEntries p m (added p db j)).calls := by
  have hrow : ∀ i : JournalEntry, rowOf p db.nextcallid i ∈ (added p db i).calls :=
    fun i => List.mem_append_right _ (List.mem_singleton_self _)
  have hold : TooOld p m (rowOf p db.nextcallid j') ↔ TooOld p m (rowOf p db.nextcallid j) := by
    rw [TooOld, TooOld, rowOf, rowOf, hc]
  -- no id is greater than the new one
  have hcount : ∀ i : JournalEntry, (added p db i).calls.countP
      (fun r => db.nextcallid < r.id ∧ ¬ TooOld p m r) = 0 := by
    refine fun i => List.countP_eq_zero.mpr fun r hr hgt => ?_
    have hlt := ((h.added p i).ids r hr).2
    exact absurd (of_decide_eq_true hgt).1 (not_lt.mpr (Int.lt_add_one_iff.mp hlt))
  have hout : Outnumbered p m (added p db j').calls db.nextcallid ↔
      Outnumbered p m (added p db j).calls db.nextcallid := by
    rw [Outnumbered, Outnumbered, hcount, hcount]
  rw [mem_purgeEntries (h.added p j').nodup, mem_purgeEntries (h.added p j).nodup,
    and_iff_right (hrow j'), and_iff_right (hrow j), hold]
  exact imp_congr_right fun _ => and_congr_right fun _ => not_congr hout

/-- It is the one under the new id. -/
theorem find?_purge_added (h : WF db) :
    (purgeEntries p m (added p db j)).calls.find? (·.id = db.nextcallid) =
      if rowOf p db.nextcallid j ∈ (purgeEntries p m (added p db j)).calls then
        some (rowOf p db.nextcallid j)
      else none := by
  have hunique : ∀ r ∈ (purgeEntries p m (added p db j)).calls, r.id = db.nextcallid →
      r = rowOf p db.nextcallid j := by
    intro r hr hid
    rcases List.mem_append.mp ((purgeEntries_sublist p m _).1.subset hr) with hr | hr
    · exact absurd hid (ne_of_lt (h.ids r hr).2)
    · exact List.mem_singleton.mp hr
  split
  · rename_i hmem
    have hsome : ((purgeEntries p m (added p db j)).calls.find?
        (·.id = db.nextcallid)).isSome = true :=
      List.find?_isSome.mpr ⟨_, hmem, decide_eq_true rfl⟩
    obtain ⟨r, hr⟩ := Option.isSome_iff_exists.mp hsome
    rw [hr, hunique r (List.mem_of_find?_eq_some hr) (of_decide_eq_true (List.find?_some hr :))]
  · rename_i hmem
    refine List.find?_eq_none.mpr fun r hr hid => hmem ?_
    exact hunique r hr (of_decide_eq_true hid) ▸ hr

end

end JournalDb
end Cmon
