import Cmon.Library.Table
import Cmon.Library.Transaction
import Cmon.Journal.Entry

/-!
# Journal — the model

The journal database and the functions of `CJournalModel` that write and read it:
`insertUpdateEntry`, `purgeEntries` and `getEntry`.

* `JournalDb`: the counter `nextcallid` of the table `config` and the rows of the table `calls`.
  The table declares no primary key, so two rows may have one id; that they do not is part of the
  invariant `WF`.  Ids below 2³¹ are meant, which `(int) j.getDbKey()` keeps: they are not counted
  to that bound, and the cast is not written.  A column holds no NULL (the program writes every
  column of a row), and the columns `type` and `res` hold the enumerators themselves.
* `Moment`: what a call meets at its time: the clock, the preferences, and the statement of a
  transaction that fails, counted from `0`; a commit counts as the last statement.
* `Saves` lists the outcomes of `insertUpdateEntry`, `insertUpdateEntry_saves` says that there is
  no other, and `Saves.wf` that each keeps `WF`.
-/

namespace Cmon
open Library

/-- A row of the table `calls`. -/
structure CallRow where
  id : Int
  type : EntryType
  res : EntryResult
  tm1 : String
  tm2 : String
  dur : Int
  clnr : String
  cln : String
  cdnr : String
  cdn : String
  deriving DecidableEq, Repr

/-- The journal database. -/
structure JournalDb where
  nextcallid : Int
  calls : List CallRow
  deriving DecidableEq, Repr

/-- What a call meets at its time.  `saveFault` and `purgeFault` are the failing statements of the
two transactions, `readFault` says that a `select` fails. -/
structure Moment where
  now : Int
  prefs : GeneralPrefs
  saveFault : Option Nat
  purgeFault : Option Nat
  readFault : Bool

/-- The moment `now` of a program whose internal numbers have up to three digits, with no
failure. -/
def Moment.quiet (now : Int) : Moment :=
  ⟨now, { GeneralPrefs.initial with externalByLen := true, internalNrLen := 3 }, none, none, false⟩

/-- A first save does not fail after it has set the key. -/
def Moment.KeepsKey (m : Moment) : Prop := m.saveFault ≠ some 2 ∧ m.saveFault ≠ some 3

instance (m : Moment) : Decidable m.KeepsKey :=
  inferInstanceAs (Decidable (m.saveFault ≠ some 2 ∧ m.saveFault ≠ some 3))

/-- The journal of a new file. -/
def JournalDb.initial : JournalDb := ⟨1, []⟩

namespace JournalDb

/-! ### The functions -/

/-- The row that is written for an entry under the id `dbkey`, an `int`. -/
def rowOf (p : Platform) (dbkey : Int) (j : JournalEntry) : CallRow where
  id := dbkey
  type := j.type
  res := j.result
  tm1 := (j.creation.map p.formatISOCombined).getD ""
  tm2 := (j.begin.map p.formatISOCombined).getD ""
  dur := toInt j.durationInSec
  clnr := toAscii j.callerAddress
  cln := toUTF8 j.callerName
  cdnr := toAscii j.calledAddress
  cdn := toUTF8 j.calledName

/-- The statements of `insertUpdateEntry` between `begin` and `commit`; its `dbkey` is the key as an
`int`, which for the ids that are meant is the key. -/
def saveTx (p : Platform) (j : JournalEntry) : Tx JournalDb JournalEntry Unit :=
  if j.dbKey = 0 then do
    let dbkey ← Tx.read (·.nextcallid)
    Tx.write fun db => { db with nextcallid := dbkey + 1 }
    Tx.modMem (·.setDbKey dbkey)
    Tx.write fun db => { db with calls := db.calls ++ [rowOf p dbkey j] }
  else
    Tx.write fun db =>
      { db with calls := db.calls.map fun r => if r.id = j.dbKey then rowOf p j.dbKey j else r }

/-- `delete from calls where ((julianday('now') - julianday(tm1)) > maxAge)`. -/
def deleteByAge (p : Platform) (now maxAge : Int) (db : JournalDb) : JournalDb :=
  { db with calls := db.calls.filter fun r =>
      match p.julianday r.tm1 with
      | none => true
      | some d => ¬ p.julianNow now - d > maxAge }

/-- `select id from calls order by id desc limit maxCount`; a negative limit is none. -/
def newestIds (maxCount : Int) (db : JournalDb) : List Int :=
  let ids := (db.calls.map (·.id)).mergeSort (fun a b => b ≤ a)
  if maxCount < 0 then ids else ids.take maxCount.toNat

/-- `delete from calls where id not in (…)`. -/
def deleteByCount (maxCount : Int) (db : JournalDb) : JournalDb :=
  { db with calls := db.calls.filter fun r => r.id ∈ db.newestIds maxCount }

def purgeTx (p : Platform) (m : Moment) : Tx JournalDb Unit Unit := do
  Tx.when m.prefs.delJournalByAge (Tx.write (deleteByAge p m.now m.prefs.maxJournalAge))
  Tx.when m.prefs.delJournalByCount (Tx.write (deleteByCount m.prefs.maxJournalCount))

def purgeEntries (p : Platform) (m : Moment) (db : JournalDb) : JournalDb :=
  if m.prefs.delJournalByAge || m.prefs.delJournalByCount then
    (Tx.transact (fun s _ => s) (purgeTx p m) m.purgeFault db ()).2.1
  else db

/-- What a call of `insertUpdateEntry` leaves: the database, the entry, and whether the
listeners were notified. -/
structure Saved where
  db : JournalDb
  entry : JournalEntry
  notified : Bool
  deriving DecidableEq, Repr

/-- `insertUpdateEntry`, on a database that is usable when `isOk` holds. -/
def insertUpdateEntry (p : Platform) (isOk : Bool) (m : Moment) (db : JournalDb)
    (j : JournalEntry) : Saved :=
  if j.dirty then
    if isOk then
      match Tx.transact (fun s _ => s) (saveTx p j) m.saveFault db j with
      | (true, db', j') =>
          ⟨if j.dbKey = 0 then purgeEntries p m db' else db', j'.setDirty false, true⟩
      | (false, db', j') => ⟨db', j', false⟩
    else ⟨db, j.setDirty false, false⟩
  else ⟨db, j, false⟩

/-- An entry filled from a row, as `getEntry` and `getEntries` do. -/
def loadRow (p : Platform) (e : JournalEntry) (r : CallRow) : JournalEntry :=
  (((((((((e.setDbKey r.id).setType r.type).setResult r.res).setDurationInSec r.dur).setCreation
    (p.parseISOCombined r.tm1)).setBegin (p.parseISOCombined r.tm2)).setCallerAddress
    r.clnr).setCallerName r.cln).setCalledAddress r.cdnr).setCalledName r.cdn |>.setDirty false

/-- `getEntry`: the entry with the key, in the object `e`. -/
def getEntry (p : Platform) (isOk : Bool) (m : Moment) (db : JournalDb) (key : Int)
    (e : JournalEntry) : Option JournalEntry :=
  if isOk && !m.readFault then (db.calls.find? (·.id = key)).map (loadRow p e) else none

/-! ### The transaction of a save -/

variable {p : Platform} {m : Moment} {db : JournalDb} {j : JournalEntry}

theorem rowOf_dur {key : Int} : (rowOf p key j).dur = toInt j.durationInSec := rfl

/-- The database a first save makes. -/
def added (p : Platform) (db : JournalDb) (j : JournalEntry) : JournalDb :=
  ⟨db.nextcallid + 1, db.calls ++ [rowOf p db.nextcallid j]⟩

/-- The database a later save makes. -/
def updated (p : Platform) (db : JournalDb) (j : JournalEntry) : JournalDb :=
  { db with calls := db.calls.map fun r => if r.id = j.dbKey then rowOf p j.dbKey j else r }

theorem saveTx_new (h : j.dbKey = 0) :
    Tx.Takes (saveTx p j) db j 3 () (added p db j) (j.setDbKey db.nextcallid) := by
  rw [saveTx, if_pos h, show 3 = 1 + (1 + (0 + 1)) from rfl]
  refine (Tx.Takes.read _ db j).bind ?_
  refine (Tx.Takes.write _ _ _).bind ?_
  exact (Tx.Takes.modMem _ _ _).bind (Tx.Takes.write _ _ _)

theorem saveTx_known (h : j.dbKey ≠ 0) :
    Tx.Takes (saveTx p j) db j 1 () (updated p db j) j := by
  rw [saveTx, if_neg h]
  exact Tx.Takes.write _ db j

/-- A first save has four failure points: the two statements before the key is set, the insert
and the commit after it. -/
theorem transact_new_short (h : j.dbKey = 0) {k : Nat} (hk : k < 4) :
    Tx.transact (fun s _ => s) (saveTx p j) (some k) db j =
      (false, db, if k ≤ 1 then j else j.setDbKey db.nextcallid) := by
  rw [saveTx, if_pos h]
  match k, hk with
  | 0, _ | 1, _ | 2, _ | 3, _ => rfl

/-- A later save has two: the update and the commit. -/
theorem transact_known_short (h : j.dbKey ≠ 0) {k : Nat} (hk : k < 2) :
    Tx.transact (fun s _ => s) (saveTx p j) (some k) db j = (false, db, j) := by
  rw [saveTx, if_neg h]
  match k, hk with
  | 0, _ | 1, _ => rfl

/-- Whether the save meets the failure the moment has in store. -/
def Fails (m : Moment) (j : JournalEntry) : Prop :=
  ∃ k, m.saveFault = some k ∧ k < if j.dbKey = 0 then 4 else 2

instance (m : Moment) (j : JournalEntry) : Decidable (Fails m j) :=
  inferInstanceAs (Decidable (∃ k ∈ m.saveFault, _))

theorem transact_new (h : j.dbKey = 0) (hf : ¬ Fails m j) :
    Tx.transact (fun s _ => s) (saveTx p j) m.saveFault db j =
      (true, added p db j, j.setDbKey db.nextcallid) := by
  refine Tx.transact_done (saveTx_new h) ?_
  intro k e
  refine Nat.le_of_not_lt fun hk => hf ⟨k, e, ?_⟩
  rwa [if_pos h]

theorem transact_known (h : j.dbKey ≠ 0) (hf : ¬ Fails m j) :
    Tx.transact (fun s _ => s) (saveTx p j) m.saveFault db j = (true, updated p db j, j) := by
  refine Tx.transact_done (saveTx_known h) ?_
  intro k e
  refine Nat.le_of_not_lt fun hk => hf ⟨k, e, ?_⟩
  rwa [if_neg h]

/-- The outcomes of `insertUpdateEntry`. -/
inductive Saves (p : Platform) (isOk : Bool) (m : Moment) (db : JournalDb) (j : JournalEntry) :
    Saved → Prop where
  | clean (hd : j.dirty = false) : Saves p isOk m db j ⟨db, j, false⟩
  | unusable (hd : j.dirty = true) (hok : isOk = false) :
      Saves p isOk m db j ⟨db, j.setDirty false, false⟩
  | failed (hd : j.dirty = true) (hok : isOk = true) (hf : Fails m j) :
      Saves p isOk m db j ⟨db, j, false⟩
  | keyed (hd : j.dirty = true) (hok : isOk = true)
      (hf : m.saveFault = some 2 ∨ m.saveFault = some 3) (hkey : j.dbKey = 0) :
      Saves p isOk m db j ⟨db, j.setDbKey db.nextcallid, false⟩
  | inserted (hd : j.dirty = true) (hok : isOk = true) (hf : ¬ Fails m j) (hkey : j.dbKey = 0) :
      Saves p isOk m db j
        ⟨purgeEntries p m (added p db j), (j.setDbKey db.nextcallid).setDirty false, true⟩
  | updated (hd : j.dirty = true) (hok : isOk = true) (hf : ¬ Fails m j) (hkey : j.dbKey ≠ 0) :
      Saves p isOk m db j ⟨updated p db j, j.setDirty false, true⟩

/-- **The outcomes of a save.** -/
theorem insertUpdateEntry_saves (p : Platform) (isOk : Bool) (m : Moment) (db : JournalDb)
    (j : JournalEntry) : Saves p isOk m db j (insertUpdateEntry p isOk m db j) := by
  rw [insertUpdateEntry]
  by_cases hd : j.dirty = true
  · rw [if_pos hd]
    by_cases hok : isOk = true
    · rw [if_pos hok]
      by_cases hkey : j.dbKey = 0
      · by_cases hf : Fails m j
        · obtain ⟨k, e, hk⟩ := hf
          rw [if_pos hkey] at hk
          rw [e, transact_new_short hkey hk]
          -- the key is set between the statements 1 and 2
          by_cases h : k ≤ 1
          · simpa [h] using .failed hd hok ⟨k, e, by rwa [if_pos hkey]⟩
          · obtain rfl | rfl : k = 2 ∨ k = 3 := by omega
            · exact .keyed hd hok (.inl e) hkey
            · exact .keyed hd hok (.inr e) hkey
        · rw [transact_new hkey hf]
          simpa [hkey] using .inserted hd hok hf hkey
      · by_cases hf : Fails m j
        · obtain ⟨k, e, hk⟩ := hf
          rw [e, transact_known_short hkey (by simpa [hkey] using hk)]
          exact .failed hd hok ⟨k, e, hk⟩
        · rw [transact_known hkey hf]
          simpa [hkey] using .updated hd hok hf hkey
    · rw [if_neg hok]
      exact .unusable hd (by simpa using hok)
  · rw [if_neg hd]
    exact .clean (by simpa using hd)

/-- A save that meets no failure. -/
theorem insertUpdateEntry_free (hd : j.dirty = true) (hm : m.saveFault = none) :
    insertUpdateEntry p true m db j =
      if j.dbKey = 0 then
        ⟨purgeEntries p m (added p db j), (j.setDbKey db.nextcallid).setDirty false, true⟩
      else ⟨updated p db j, j.setDirty false, true⟩ := by
  have h := insertUpdateEntry_saves p true m db j
  have hf : ¬ Fails m j := by rintro ⟨k, e, -⟩; rw [hm] at e; cases e
  generalize insertUpdateEntry p true m db j = o at h
  cases h with
  | clean h => rw [hd] at h; cases h
  | unusable _ hok => cases hok
  | failed _ _ h => exact absurd h hf
  | keyed _ _ h => rw [hm] at h; simp at h
  | inserted _ _ _ hkey => rw [if_pos hkey]
  | updated _ _ _ hkey => rw [if_neg hkey]

/-- A first save that gets as far as the key. -/
theorem insertUpdateEntry_new (hd : j.dirty = true) (hkey : j.dbKey = 0)
    (h : m.saveFault ≠ some 0 ∧ m.saveFault ≠ some 1) :
    insertUpdateEntry p true m db j =
      if m.saveFault = some 2 ∨ m.saveFault = some 3 then ⟨db, j.setDbKey db.nextcallid, false⟩
      else ⟨purgeEntries p m (added p db j), (j.setDbKey db.nextcallid).setDirty false, true⟩ := by
  rw [insertUpdateEntry, if_pos hd, if_pos rfl]
  by_cases hf : m.saveFault = some 2 ∨ m.saveFault = some 3
  · rw [if_pos hf]
    rcases hf with e | e <;> rw [e, transact_new_short hkey (by decide)] <;> rfl
  · have hfree : ¬ Fails m j := by
      rintro ⟨k, e, hk⟩
      rw [if_pos hkey] at hk
      rw [e] at hf h
      obtain rfl | rfl | rfl | rfl : k = 0 ∨ k = 1 ∨ k = 2 ∨ k = 3 := by omega
      · exact h.1 rfl
      · exact h.2 rfl
      · exact hf (.inl rfl)
      · exact hf (.inr rfl)
    rw [if_neg hf, transact_new hkey hfree]
    simp [hkey]

/-! ### The purge -/

/-- A purge only deletes rows. -/
theorem purgeEntries_sublist (p : Platform) (m : Moment) (db : JournalDb) :
    (purgeEntries p m db).calls.Sublist db.calls ∧
      (purgeEntries p m db).nextcallid = db.nextcallid := by
  rw [purgeEntries]
  split
  · -- whatever the transaction reaches has lost rows and nothing else
    have h : Tx.Keeps (fun (s : JournalDb) (_ : Unit) =>
        s.calls.Sublist db.calls ∧ s.nextcallid = db.nextcallid) (purgeTx p m) := by
      refine .bind (.when _ (.write fun s _ hs => ?_)) fun _ => .when _ (.write fun s _ hs => ?_)
      · exact ⟨List.filter_sublist.trans hs.1, hs.2⟩
      · exact ⟨List.filter_sublist.trans hs.1, hs.2⟩
    obtain ⟨ok, s, u, e, hs⟩ := Tx.transact_keeps h (fun s _ => s) m.purgeFault
      ⟨List.Sublist.refl db.calls, rfl⟩
    rw [e]
    cases ok
    · exact ⟨List.Sublist.refl _, rfl⟩
    · exact hs
  · exact ⟨.refl _, rfl⟩

/-! ### The invariant -/

/-- The counter is ahead of every id, and no id is given twice.  The ids are those of an `int`,
so fewer than 2³¹ calls are meant. -/
abbrev WF (db : JournalDb) : Prop := Table.Counted (·.id) db.nextcallid db.calls

theorem WF.initial : WF JournalDb.initial := Table.Counted.nil

theorem WF.purge (h : WF db) (p : Platform) (m : Moment) : WF (purgeEntries p m db) := by
  obtain ⟨hs, hn⟩ := purgeEntries_sublist p m db
  rw [WF, hn]
  exact h.sublist hs

theorem WF.added (h : WF db) (p : Platform) (j : JournalEntry) : WF (added p db j) :=
  h.append rfl

theorem updated_ids (p : Platform) (db : JournalDb) (j : JournalEntry) :
    (JournalDb.updated p db j).calls.map (·.id) = db.calls.map (·.id) :=
  Table.keys_update (f := fun _ => rowOf p j.dbKey j) fun _ _ => rfl

theorem WF.updated (h : WF db) (p : Platform) (j : JournalEntry) : WF (updated p db j) :=
  h.of_keys (updated_ids p db j)

/-- **Every save keeps the database well formed.** -/
theorem Saves.wf {isOk : Bool} {o : Saved} (h : Saves p isOk m db j o) (hdb : WF db) :
    WF o.db := by
  cases h with
  | inserted => exact (hdb.added p j).purge p m
  | updated => exact hdb.updated p j
  | _ => exact hdb

/-- A save never turns the counter back. -/
theorem Saves.nextcallid_le {isOk : Bool} {o : Saved} (h : Saves p isOk m db j o) :
    db.nextcallid ≤ o.db.nextcallid := by
  cases h with
  | inserted =>
      rw [(purgeEntries_sublist p m _).2]
      exact Int.le_of_lt (Int.lt_succ _)
  | _ => exact le_refl _

/-! ### What a save makes of the entry -/

/-- A save changes the key and the flag of the entry and nothing else. -/
theorem Saves.entry {isOk : Bool} {o : Saved} (h : Saves p isOk m db j o) :
    o.entry.self = j.self ∧ o.entry.stored = j.stored := by
  cases h <;> exact ⟨rfl, rfl⟩

/-- The key it gives is the counter's. -/
theorem Saves.dbKey {isOk : Bool} {o : Saved} (h : Saves p isOk m db j o) :
    o.entry.dbKey = j.dbKey ∨ j.dbKey = 0 ∧ o.entry.dbKey = db.nextcallid := by
  cases h with
  | keyed _ _ _ hkey => exact .inr ⟨hkey, rfl⟩
  | inserted _ _ _ hkey => exact .inr ⟨hkey, rfl⟩
  | _ => exact .inl rfl

/-- What a save that keeps the key does to the key and the counter. -/
theorem Saves.counter {isOk : Bool} {o : Saved} (h : Saves p isOk m db j o)
    (hm : j.dbKey = 0 → m.KeepsKey) :
    o.db.nextcallid = db.nextcallid ∧ o.entry.dbKey = j.dbKey ∨
      o.db.nextcallid = db.nextcallid + 1 ∧ j.dbKey = 0 ∧ o.entry.dbKey = db.nextcallid := by
  cases h with
  | keyed _ _ hf hkey => exact absurd hf (by simp [(hm hkey).1, (hm hkey).2])
  | inserted _ _ _ hkey => exact .inr ⟨(purgeEntries_sublist _ _ _).2, hkey, rfl⟩
  | _ => exact .inl ⟨rfl, rfl⟩

/-- A row of the database after a save was there before, or is the row of the saved entry. -/
theorem Saves.mem_calls {isOk : Bool} {o : Saved} (h : Saves p isOk m db j o) {r : CallRow}
    (hr : r ∈ o.db.calls) : r ∈ db.calls ∨
      r = rowOf p r.id j ∧ (j.dbKey = 0 ∧ r.id = db.nextcallid ∨ j.dbKey ≠ 0 ∧ r.id = j.dbKey) := by
  cases h with
  | inserted _ _ _ hkey =>
      rcases List.mem_append.mp ((purgeEntries_sublist p m _).1.subset hr) with hr | hr
      · exact .inl hr
      · obtain rfl := List.mem_singleton.mp hr
        exact .inr ⟨rfl, .inl ⟨hkey, rfl⟩⟩
  | updated _ _ _ hkey =>
      obtain ⟨r', hr', e⟩ := List.mem_map.mp hr
      split at e
      · subst e
        exact .inr ⟨rfl, .inr ⟨hkey, rfl⟩⟩
      · exact .inl (e ▸ hr')
  | _ => exact .inl hr

/-- An entry that is read back has the content of a row with its key. -/
theorem getEntry_row {isOk : Bool} {key : Int} {e e' : JournalEntry}
    (h : getEntry p isOk m db key e = some e') :
    ∃ r ∈ db.calls, r.id = key ∧ e' = loadRow p e r := by
  rw [getEntry] at h
  split at h
  · obtain ⟨r, hr, rfl⟩ := Option.map_eq_some_iff.mp h
    exact ⟨r, List.mem_of_find?_eq_some hr, of_decide_eq_true (List.find?_some hr :), rfl⟩
  · cases h

/-- An entry that is read back has the key it was asked for. -/
theorem getEntry_dbKey {isOk : Bool} {key : Int} {e e' : JournalEntry}
    (h : getEntry p isOk m db key e = some e') : e'.dbKey = key := by
  obtain ⟨r, -, rfl, rfl⟩ := getEntry_row h
  rfl

end JournalDb
end Cmon
