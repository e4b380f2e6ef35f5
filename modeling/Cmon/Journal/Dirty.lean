import Cmon.Library.Run
import Cmon.Journal.Model

/-!
# Journal — the dirty flag

An entry beside the journal: it is changed by its setters in any order, and saved from time to
time, while everything else that happens leaves its row alone.  The entry is new, or was read
back from a row the program wrote.

* `clean_stored`: whenever the entry is clean, its row is the one a save would write;
* `skip_eq_write`: so the saves that write a clean entry too end in the same table.

The flag itself is no value of the entry: `setDirty` is called by a save and by reading a row
only.
-/

namespace Cmon
open Library

/-- A setter of `CJournalEntry` and its arguments; `now` is the clock. -/
inductive Mutator where
  | setCallerAddress (strAddress : String)
  | setCalledAddress (strAddress : String)
  | setCallerName (strName : String)
  | setCalledName (strName : String)
  | setResult (result : EntryResult)
  | setState (now : Int) (newState : EntryState)
  | setCreation (dt : Option Int)
  | setBeginNow (now : Int)
  | setBegin (dt : Option Int)
  | setEndNow (now : Int)
  | setDurationInSec (ll : Int)
  | setType (type : EntryType)
  | setDbKey (key : Int)
  | setResolvingCaller
  | setResolvingCalled
  | setPid (val : Nat)
  | setCid (val : Nat)

namespace JournalEntry

/-- The setter is called. -/
def mutate (e : JournalEntry) : Mutator → JournalEntry
  | .setCallerAddress s => e.setCallerAddress s
  | .setCalledAddress s => e.setCalledAddress s
  | .setCallerName s => e.setCallerName s
  | .setCalledName s => e.setCalledName s
  | .setResult result => e.setResult result
  | .setState now newState => e.setState now newState
  | .setCreation dt => e.setCreation dt
  | .setBeginNow now => e.setBeginNow now
  | .setBegin dt => e.setBegin dt
  | .setEndNow now => e.setEndNow now
  | .setDurationInSec ll => e.setDurationInSec ll
  | .setType type => e.setType type
  | .setDbKey key => e.setDbKey key
  | .setResolvingCaller => e.setResolvingCaller
  | .setResolvingCalled => e.setResolvingCalled
  | .setPid val => e.setPid val
  | .setCid val => e.setCid val

/-- **An entry that is clean after a setter was clean before it, and holds the same values under
the same key.** -/
theorem edited_mutate (e : JournalEntry) (f : Mutator) (h : (e.mutate f).dirty = false) :
    e.dirty = false ∧ (e.mutate f).stored = e.stored ∧ (e.mutate f).dbKey = e.dbKey := by
  -- one setter writes the key
  have hkey : ∀ {e' : JournalEntry}, Edited e e' → e'.dbKey = e.dbKey → e'.dirty = false →
      e.dirty = false ∧ e'.stored = e.stored ∧ e'.dbKey = e.dbKey :=
    fun hed hk hd => ⟨(hed hd).1, (hed hd).2, hk⟩
  cases f with
  | setCallerAddress s => exact hkey (.setCallerAddress s) rfl h
  | setCalledAddress s => exact hkey (.setCalledAddress s) rfl h
  | setCallerName s => exact hkey (.setCallerName s) rfl h
  | setCalledName s => exact hkey (.setCalledName s) rfl h
  | setResult result => exact hkey (.setResult result) rfl h
  | setState now s => exact hkey (.setState now s) (setState_dbKey _ _ _) h
  | setCreation dt => exact hkey (.setCreation dt) rfl h
  | setBeginNow now => exact hkey (.setBeginNow now) rfl h
  | setBegin dt => exact hkey (.setBegin dt) rfl h
  | setEndNow now => exact hkey (.setEndNow now) rfl h
  | setDurationInSec ll => exact hkey (.setDurationInSec ll) rfl h
  | setType type => exact hkey (.setType type) rfl h
  | setDbKey key =>
      simp only [mutate, JournalEntry.setDbKey, mark, Bool.or_eq_false_iff,
        bne_eq_false_iff_eq] at h
      obtain ⟨hd, rfl⟩ := h
      exact ⟨hd, rfl, rfl⟩
  | setResolvingCaller => exact hkey .setResolvingCaller rfl h
  | setResolvingCalled => exact hkey .setResolvingCalled rfl h
  | setPid val | setCid val => exact ⟨h, rfl, rfl⟩

end JournalEntry

/-- An entry and the journal. -/
structure Held where
  db : JournalDb
  entry : JournalEntry

/-- What happens next: a setter, a save, or anything that leaves the entry alone. -/
inductive HeldStep where
  | mutate (f : Mutator)
  | save (m : Moment)
  | others (db : JournalDb)

namespace Held

def step (p : Platform) (s : Held) : HeldStep → Held
  | .mutate f => { s with entry := s.entry.mutate f }
  | .save m =>
      let o := s.db.insertUpdateEntry p true m s.entry
      ⟨o.db, o.entry⟩
  | .others db => { s with db }

/-- The same, but a save writes a clean entry too. -/
def writeStep (p : Platform) (s : Held) : HeldStep → Held
  | .save m =>
      let o := s.db.insertUpdateEntry p true m (s.entry.setDirty true)
      ⟨o.db, o.entry⟩
  | st => s.step p st

/-- The key `key` is that of no row yet, or of one that is there. -/
def Named (db : JournalDb) (key : Int) : Prop := key = 0 ∨ key ∈ db.calls.map (·.id)

/-- The saves commit, no other writer changes the entry's row, and the row is not purged.  A key
that is set by hand is that of a row, or none. -/
def Undisturbed (p : Platform) (s : Held) : HeldStep → Prop
  | .mutate (.setDbKey key) => Named s.db key
  | .mutate _ => True
  | .save m =>
      m.saveFault = none ∧
        (s.entry.dbKey = 0 → JournalDb.rowOf p s.db.nextcallid s.entry ∈
          (JournalDb.purgeEntries p m (JournalDb.added p s.db s.entry)).calls)
  | .others db =>
      JournalDb.WF db ∧ ∀ r : CallRow, r.id = s.entry.dbKey → (r ∈ db.calls ↔ r ∈ s.db.calls)

/-- The journal is well formed, the key of the entry is that of a row if there is one, and the row
of a clean entry is what a save would write. -/
structure Kept (p : Platform) (s : Held) : Prop where
  wf : JournalDb.WF s.db
  named : Named s.db s.entry.dbKey
  clean : s.entry.dirty = false → JournalDb.rowOf p s.entry.dbKey s.entry ∈ s.db.calls

variable {p : Platform} {s : Held}

/-! ### The steps -/

/-- What is written depends on the stored values alone. -/
theorem rowOf_of_stored {e e' : JournalEntry} (h : e'.stored = e.stored) (key : Int) :
    JournalDb.rowOf p key e' = JournalDb.rowOf p key e := by
  simp only [JournalEntry.stored, Prod.mk.injEq] at h
  obtain ⟨h₁, h₂, h₃, h₄, h₅, h₆, h₇, h₈, h₉⟩ := h
  simp only [JournalDb.rowOf, h₁, h₂, h₃, h₄, h₅, h₆, h₇, h₈, h₉]

theorem dbKey_mutate (e : JournalEntry) (f : Mutator) :
    (e.mutate f).dbKey = e.dbKey ∨ ∃ key, f = .setDbKey key := by
  cases f with
  | setDbKey key => exact .inr ⟨key, rfl⟩
  | setState now newState => exact .inl (JournalEntry.setState_dbKey _ _ _)
  | _ => exact .inl rfl

/-- A key under which a clean entry is stored is a row's. -/
theorem Kept.dbKey_ne_zero (h : Kept p s) (hd : s.entry.dirty = false) : s.entry.dbKey ≠ 0 :=
  ne_of_gt (h.wf.ids _ (h.clean hd)).1

theorem Kept.mutate (h : Kept p s) {f : Mutator} (hu : Undisturbed p s (.mutate f)) :
    Kept p (s.step p (.mutate f)) := by
  refine ⟨h.wf, ?_, fun hd => ?_⟩
  · rcases dbKey_mutate s.entry f with hk | ⟨key, rfl⟩
    · show Named s.db (s.entry.mutate f).dbKey
      rw [hk]
      exact h.named
    · exact hu
  · obtain ⟨hd₀, hst, hk⟩ := s.entry.edited_mutate f hd
    show JournalDb.rowOf p (s.entry.mutate f).dbKey (s.entry.mutate f) ∈ s.db.calls
    rw [hk, rowOf_of_stored hst]
    exact h.clean hd₀

theorem Kept.save (h : Kept p s) {m : Moment} (hu : Undisturbed p s (.save m)) :
    Kept p (s.step p (.save m)) := by
  have hs := JournalDb.insertUpdateEntry_saves p true m s.db s.entry
  show Kept p ⟨(s.db.insertUpdateEntry p true m s.entry).db,
    (s.db.insertUpdateEntry p true m s.entry).entry⟩
  have hwf := hs.wf h.wf
  generalize s.db.insertUpdateEntry p true m s.entry = o at hs hwf
  obtain ⟨hm, hpurge⟩ := hu
  cases hs with
  | clean => exact h
  | unusable _ hok => cases hok
  | failed _ _ hf =>
      obtain ⟨k, hk, -⟩ := hf
      rw [hm] at hk
      cases hk
  | keyed _ _ hf => simp [hm] at hf
  | inserted _ _ _ hkey =>
      have hrow := hpurge hkey
      exact ⟨hwf, .inr (List.mem_map_of_mem hrow), fun _ => hrow⟩
  | updated _ _ _ hkey =>
      obtain ⟨r, hr, hid⟩ := List.mem_map.mp (h.named.resolve_left hkey)
      have hrow : JournalDb.rowOf p s.entry.dbKey s.entry ∈
          (JournalDb.updated p s.db s.entry).calls := Table.mem_update_self hr hid
      exact ⟨hwf, .inr (List.mem_map_of_mem hrow), fun _ => hrow⟩

/-- **Every step keeps the row of a clean entry what a save would write.** -/
theorem Kept.step (h : Kept p s) {st : HeldStep} (hu : Undisturbed p s st) :
    Kept p (s.step p st) := by
  match st, hu with
  | .mutate f, hu => exact h.mutate hu
  | .save m, hu => exact h.save hu
  | .others db, ⟨hwf, hrows⟩ =>
      refine ⟨hwf, h.named.imp_right fun hk => ?_, fun hd => (hrows _ rfl).mpr (h.clean hd)⟩
      obtain ⟨r, hr, hid⟩ := List.mem_map.mp hk
      exact List.mem_map.mpr ⟨r, (hrows r hid).mpr hr, hid⟩

/-- The row of a clean entry is there already. -/
theorem Kept.updated (h : Kept p s) (hd : s.entry.dirty = false) :
    JournalDb.updated p s.db (s.entry.setDirty true) = s.db := by
  refine congrArg (JournalDb.mk s.db.nextcallid) ?_
  refine (List.map_congr_left fun r hr => ?_).trans (List.map_id _)
  split
  · rename_i hid
    exact List.inj_on_of_nodup_map h.wf.nodup (h.clean hd) hr hid.symm
  · rfl

/-- To write a clean entry is to write nothing. -/
theorem Kept.writeStep (h : Kept p s) {st : HeldStep} (hu : Undisturbed p s st) :
    s.writeStep p st = s.step p st := by
  match st, hu with
  | .mutate _, _ | .others _, _ => rfl
  | .save m, hu =>
      show Held.mk (s.db.insertUpdateEntry p true m (s.entry.setDirty true)).db
        (s.db.insertUpdateEntry p true m (s.entry.setDirty true)).entry = Held.mk _ _
      cases hd : s.entry.dirty with
      | true => rw [show s.entry.setDirty true = s.entry from by rw [← hd]; rfl]
      | false =>
          have hclean : s.db.insertUpdateEntry p true m s.entry = ⟨s.db, s.entry, false⟩ :=
            if_neg (by simp [hd])
          -- the row is there already
          rw [hclean, JournalDb.insertUpdateEntry_free (j := s.entry.setDirty true) rfl hu.1,
            if_neg (show (s.entry.setDirty true).dbKey ≠ 0 from h.dbKey_ne_zero hd), h.updated hd]
          show Held.mk s.db (s.entry.setDirty false) = Held.mk s.db s.entry
          rw [← hd]
          rfl

/-! ### The start -/

/-- A date of a row reads back as it was written. -/
def ReadsBack (p : Platform) (tm : String) : Prop :=
  ((p.parseISOCombined tm).map p.formatISOCombined).getD "" = tm

/-- The entry is new, or was read back from a row that a save has written. -/
inductive Fresh (p : Platform) : Held → Prop where
  | created {db : JournalDb} (hdb : JournalDb.WF db) (self pid cid : Nat) (type : EntryType)
      (now : Int) : Fresh p ⟨db, .create self pid cid type now⟩
  | readBack {db : JournalDb} {m : Moment} {key : Int} {e₀ e : JournalEntry}
      (hdb : JournalDb.WF db) (hget : db.getEntry p true m key e₀ = some e)
      (hwritten : ∀ r ∈ db.calls, r.id = key → ∃ j, r = JournalDb.rowOf p key j)
      (hdates : ∀ r ∈ db.calls, r.id = key → ReadsBack p r.tm1 ∧ ReadsBack p r.tm2) :
      Fresh p ⟨db, e⟩

/-- A row that a save has written is written the same after it was read back. -/
theorem rowOf_loadRow {key : Int} {j e₀ : JournalEntry}
    (h₁ : ReadsBack p (JournalDb.rowOf p key j).tm1)
    (h₂ : ReadsBack p (JournalDb.rowOf p key j).tm2) :
    JournalDb.rowOf p key (JournalDb.loadRow p e₀ (JournalDb.rowOf p key j)) =
      JournalDb.rowOf p key j := by
  show CallRow.mk key j.type j.result
    (((p.parseISOCombined (JournalDb.rowOf p key j).tm1).map p.formatISOCombined).getD "")
    (((p.parseISOCombined (JournalDb.rowOf p key j).tm2).map p.formatISOCombined).getD "")
    (toInt (toInt j.durationInSec)) (toAscii (toAscii j.callerAddress))
    (toUTF8 (toUTF8 j.callerName)) (toAscii (toAscii j.calledAddress))
    (toUTF8 (toUTF8 j.calledName)) = JournalDb.rowOf p key j
  rw [h₁, h₂, toInt_toInt, toAscii_toAscii, toAscii_toAscii, toUTF8_toUTF8, toUTF8_toUTF8]
  rfl

theorem Fresh.kept (h : Fresh p s) : Kept p s := by
  cases h with
  | created hdb self pid cid type now =>
      refine ⟨hdb, .inl (JournalEntry.create_dbKey ..), fun hd => ?_⟩
      rw [JournalEntry.create_dirty] at hd
      cases hd
  | @readBack db m key e₀ e hdb hget hwritten hdates =>
      obtain ⟨r, hr, hid, rfl⟩ := JournalDb.getEntry_row hget
      obtain ⟨j, hj⟩ := hwritten r hr hid
      obtain ⟨h₁, h₂⟩ := hdates r hr hid
      subst hid
      refine ⟨hdb, .inr (List.mem_map_of_mem hr), fun _ => ?_⟩
      rw [hj] at h₁ h₂
      have hback : JournalDb.rowOf p r.id (JournalDb.loadRow p e₀ (JournalDb.rowOf p r.id j)) =
        JournalDb.rowOf p r.id j := rowOf_loadRow h₁ h₂
      rw [← hj] at hback
      exact hback.symm ▸ hr

end Held

/-! ### The run -/

variable {p : Platform} {s₀ : Held} {steps : List HeldStep}

theorem kept_run (h₀ : s₀.Fresh p) (h : Along (Held.step p) (Held.Undisturbed p) s₀ steps) :
    (run (Held.step p) s₀ steps).Kept p :=
  h.inv (fun _ _ hk hu => hk.step hu) h₀.kept

/-- The runs that write a clean entry too end alike. -/
theorem skip_eq_write (h₀ : s₀.Fresh p)
    (h : Along (Held.step p) (Held.Undisturbed p) s₀ steps) :
    run (Held.writeStep p) s₀ steps = run (Held.step p) s₀ steps :=
  h.run_eq (fun _ _ hk hu => hk.step hu) (fun _ _ hk hu => hk.writeStep hu) h₀.kept

/-- **Whenever the entry is clean, its row is the one a save would write, and a program that saves
clean entries too ends with the same table.** -/
theorem clean_stored (h₀ : s₀.Fresh p) (h : Along (Held.step p) (Held.Undisturbed p) s₀ steps) :
    let s := run (Held.step p) s₀ steps
    (s.entry.dirty = false → (s.db.calls.filter fun r => r.id = s.entry.dbKey) =
      [JournalDb.rowOf p s.entry.dbKey s.entry]) ∧
    (run (Held.writeStep p) s₀ steps).db = s.db := by
  have hk := kept_run h₀ h
  exact ⟨fun hd => Table.filter_key_of_nodup hk.wf.nodup (hk.clean hd) rfl,
    congrArg (·.db) (skip_eq_write h₀ h)⟩

/-- A new call that is named, saved, answered, and saved twice. -/
def savedTwice : List HeldStep :=
  [.mutate (.setCallerName "Bob"), .save (.quiet 0), .mutate (.setState 5 .connected),
    .save (.quiet 5), .save (.quiet 6)]

theorem clean_stored_twice :
    let s := run (Held.step utcPlatform) ⟨.initial, .create 0 0 0 .incoming 0⟩ savedTwice
    (s.entry.dirty = false → (s.db.calls.filter fun r => r.id = s.entry.dbKey) =
      [JournalDb.rowOf utcPlatform s.entry.dbKey s.entry]) ∧
    (run (Held.writeStep utcPlatform) ⟨.initial, .create 0 0 0 .incoming 0⟩ savedTwice).db =
      s.db := by
  refine clean_stored (.created .initial 0 0 0 .incoming 0) ⟨trivial, ⟨rfl, fun _ => ?_⟩, trivial,
    ⟨rfl, fun hk => ?_⟩, ⟨rfl, fun hk => ?_⟩, trivial⟩
  · decide
  · exact absurd hk (by decide)
  · exact absurd hk (by decide)

end Cmon
