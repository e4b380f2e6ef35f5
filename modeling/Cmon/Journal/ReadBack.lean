import Cmon.Journal.Counts
import Cmon.Journal.Purge

/-!
# Journal — what a save gives back

`getEntry` and `getEntries` after a save that was committed.  Addresses are stored in ASCII; times
are stored as they stand on the wall clock, a missing one as an empty text; a duration is stored
as an `int`, so one of 2³¹ seconds or more is not given back (`toInt_of_inInt` says which are);
a first save is followed by the purge, which may take other rows away and the new one too.

* `SameCall`: an entry that was read, and the entry that was saved.
* `read_committed`: as long as the row of the entry is there, both functions give the entry back;
  the list has each row once; a save changes no other row, and only the purge takes one away.
-/

namespace Cmon
open Library

/-- The entry `e` that was read is the entry `j` that was saved: times to the second of the wall
clock, the duration as an `int`, addresses in ASCII. -/
structure SameCall (p : Platform) (e j : JournalEntry) : Prop where
  type : e.type = j.type
  result : e.result = j.result
  creation : e.creation.map p.formatISOCombined = j.creation.map p.formatISOCombined
  begin : e.begin.map p.formatISOCombined = j.begin.map p.formatISOCombined
  durationInSec : e.durationInSec = toInt j.durationInSec
  callerAddress : e.callerAddress = toAscii j.callerAddress
  calledAddress : e.calledAddress = toAscii j.calledAddress
  callerName : '\x00' ∉ j.callerName.toList → e.callerName = j.callerName
  calledName : '\x00' ∉ j.calledName.toList → e.calledName = j.calledName

/-- What `ParseISOCombined` documents: a time that `FormatISOCombined` has written is read as one
that is written the same, and an empty text is no time. -/
structure ReadsTimes (p : Platform) (j : JournalEntry) : Prop where
  written : ∀ t, j.creation = some t ∨ j.begin = some t →
    (p.parseISOCombined (p.formatISOCombined t)).map p.formatISOCombined =
      some (p.formatISOCombined t)
  empty : p.parseISOCombined "" = none

namespace JournalDb

/-- The list that `getEntries` without a filter and a search gives, in any order. -/
def Lists (p : Platform) (calls : List CallRow) (list : List JournalEntry) : Prop :=
  ∃ (e : JournalEngine) (m : JournalModel) (j : JournalEntry) (old : List JournalEntry)
      (rows : List CallRow), m.currentFilter = none ∧ m.strNameAndNumberCond = "" ∧
    e.select (journalListSql none m.sortOrder m.bSortAsc "") calls = .ok (rows, none) ∧
    rows.Perm calls ∧ list = (m.getEntries p e true calls j old).1

/-- The row is left by the purge of a first save. -/
def Left (p : Platform) (m : Moment) (db : JournalDb) (j : JournalEntry) (r : CallRow) : Prop :=
  j.dbKey = 0 → ¬ TooOld p m r ∧ ¬ Outnumbered p m (added p db j).calls r.id

/-- What the save `o` of `j` gives back. -/
structure GivesBack (p : Platform) (m : Moment) (db : JournalDb) (j : JournalEntry) (o : Saved) :
    Prop where
  entry : o.entry.dbKey ∈ o.db.calls.map (·.id) → ∀ (m' : Moment) (e : JournalEntry),
    m'.readFault = false → ∃ e', getEntry p true m' o.db o.entry.dbKey e = some e' ∧
      SameCall p e' j
  listed : o.entry.dbKey ∈ o.db.calls.map (·.id) → ∀ list, Lists p o.db.calls list →
    ∃ e ∈ list, e.dbKey = o.entry.dbKey ∧ SameCall p e j
  once : ∀ list, Lists p o.db.calls list →
    (list.map (·.dbKey)).Perm (o.db.calls.map (·.id)) ∧ (list.map (·.dbKey)).Nodup
  inserted : j.dbKey = 0 → Left p m db j (rowOf p o.entry.dbKey j) →
    o.entry.dbKey ∈ o.db.calls.map (·.id)
  updated : j.dbKey ≠ 0 → o.entry.dbKey ∈ db.calls.map (·.id) →
    o.entry.dbKey ∈ o.db.calls.map (·.id)
  others : ∀ r ∈ o.db.calls, r.id ≠ o.entry.dbKey → r ∈ db.calls
  kept : ∀ r ∈ db.calls, r.id ≠ o.entry.dbKey → Left p m db j r → r ∈ o.db.calls

variable {p : Platform} {m : Moment} {db : JournalDb} {j e : JournalEntry} {isOk : Bool}

/-- What is read of the row of an entry. -/
theorem sameCall_loadRow (h : ReadsTimes p j) (e : JournalEntry) (key : Int) :
    SameCall p (loadRow p e (rowOf p key j)) j := by
  have htime : ∀ time : Option Int, (∀ t, time = some t → j.creation = some t ∨ j.begin = some t) →
      (p.parseISOCombined ((time.map p.formatISOCombined).getD "")).map p.formatISOCombined =
        time.map p.formatISOCombined := by
    intro time htime
    cases time with
    | none => exact congrArg _ h.empty
    | some t => exact h.written t (htime t rfl)
  exact ⟨rfl, rfl, htime j.creation fun _ ht => .inl ht, htime j.begin fun _ ht => .inr ht, rfl,
    rfl, rfl, fun hnul => cString_of_noNul hnul, fun hnul => cString_of_noNul hnul⟩

/-- Each row is loaded into the entry of the turn before. -/
theorem exists_mem_loadRows (p : Platform) (j : JournalEntry) {rows : List CallRow} {r : CallRow}
    (hr : r ∈ rows) : ∃ e, loadRow p e r ∈ JournalModel.loadRows p j rows := by
  induction rows generalizing j with
  | nil => exact absurd hr List.not_mem_nil
  | cons row rows ih =>
      rcases List.mem_cons.mp hr with rfl | hr
      · exact ⟨j, .head _⟩
      · obtain ⟨e, he⟩ := ih (loadRow p j row) hr
        exact ⟨e, .tail _ he⟩

/-- A list without a filter has an entry for each row. -/
theorem Lists.loadRows {calls : List CallRow} {list : List JournalEntry} (h : Lists p calls list) :
    ∃ rows j, rows.Perm calls ∧ list = JournalModel.loadRows p j rows := by
  obtain ⟨e, m, j, old, rows, hcurrent, hcond, hselect, hperm, rfl⟩ := h
  refine ⟨rows, j, hperm, ?_⟩
  rw [JournalModel.getEntries, if_pos rfl, hcurrent, hcond, hselect]

/-- The row with the key of the entry, after a committed save, is the one that was written. -/
theorem row_committed {o : Saved} (h : Saves p isOk m db j o) (hok : o.notified = true)
    (hdb : WF db) {r : CallRow} (hr : r ∈ o.db.calls) (hid : r.id = o.entry.dbKey) :
    r = rowOf p r.id j := by
  cases h with
  | inserted hd _ hf hkey =>
      rcases List.mem_append.mp ((purgeEntries_sublist p m _).1.subset hr) with hr | hr
      · exact absurd (hdb.ids r hr).2 (hid ▸ Int.lt_irrefl _)
      · obtain rfl := List.mem_singleton.mp hr
        rfl
  | updated hd _ hf hkey =>
      obtain ⟨r', hr', e⟩ := List.mem_map.mp hr
      split_ifs at e with hk
      · subst e
        rfl
      · exact absurd (e ▸ hid) hk
  | _ => cases hok

/-- The key of the entry has a row when the purge has left it, or when the entry had one. -/
theorem has_row {o : Saved} (h : Saves p isOk m db j o) (hok : o.notified = true) (hdb : WF db) :
    (j.dbKey = 0 → Left p m db j (rowOf p o.entry.dbKey j) →
        o.entry.dbKey ∈ o.db.calls.map (·.id)) ∧
      (j.dbKey ≠ 0 → o.entry.dbKey ∈ db.calls.map (·.id) →
        o.entry.dbKey ∈ o.db.calls.map (·.id)) := by
  cases h with
  | inserted hd _ hf hkey =>
      refine ⟨fun _ hleft => ?_, fun hne => absurd hkey hne⟩
      have hrow : rowOf p db.nextcallid j ∈ (added p db j).calls :=
        List.mem_append_right _ (List.mem_singleton_self _)
      have hmem := (mem_purgeEntries (hdb.added p j).nodup).mpr ⟨hrow, fun _ => hleft hkey⟩
      exact List.mem_map_of_mem hmem
  | updated hd _ hf hkey =>
      refine ⟨fun h0 => absurd h0 hkey, fun _ hmem => ?_⟩
      rw [updated_ids]
      exact hmem
  | _ => cases hok

/-- The rows of other calls. -/
theorem others_committed {o : Saved} (h : Saves p isOk m db j o) (hok : o.notified = true)
    (hdb : WF db) (r : CallRow) (hid : r.id ≠ o.entry.dbKey) :
    (r ∈ o.db.calls → r ∈ db.calls) ∧ (r ∈ db.calls → Left p m db j r → r ∈ o.db.calls) := by
  cases h with
  | inserted hd _ hf hkey =>
      constructor
      · intro hr
        rcases List.mem_append.mp ((purgeEntries_sublist p m _).1.subset hr) with hr | hr
        · exact hr
        · obtain rfl := List.mem_singleton.mp hr
          exact absurd rfl hid
      · exact fun hr hleft => (mem_purgeEntries (hdb.added p j).nodup).mpr
          ⟨List.mem_append_left _ hr, fun _ => hleft hkey⟩
  | updated hd _ hf hkey =>
      constructor
      · intro hr
        obtain ⟨r', hr', e⟩ := List.mem_map.mp hr
        split_ifs at e with hk
        · subst e
          exact absurd rfl hid
        · exact e ▸ hr'
      · exact fun hr _ => List.mem_map.mpr ⟨r, hr, if_neg hid⟩
  | _ => cases hok

/-- **What a committed save gives back.** -/
theorem read_committed (hdb : WF db) (htimes : ReadsTimes p j)
    (hok : (insertUpdateEntry p isOk m db j).notified = true) :
    GivesBack p m db j (insertUpdateEntry p isOk m db j) := by
  have h := insertUpdateEntry_saves p isOk m db j
  generalize insertUpdateEntry p isOk m db j = o at h hok ⊢
  have hrow : ∀ r ∈ o.db.calls, r.id = o.entry.dbKey → ∀ e, SameCall p (loadRow p e r) j := by
    intro r hr hid e
    rw [row_committed h hok hdb hr hid]
    exact sameCall_loadRow htimes e r.id
  refine ⟨fun hkey m' e hread => ?_, fun hkey list hlist => ?_, fun list hlist => ?_,
    (has_row h hok hdb).1, (has_row h hok hdb).2, fun r hr hid => ?_, fun r hr hid => ?_⟩
  · obtain ⟨r₀, hr₀, hid₀⟩ := List.mem_map.mp hkey
    have hsome : (o.db.calls.find? (·.id = o.entry.dbKey)).isSome = true :=
      List.find?_isSome.mpr ⟨r₀, hr₀, decide_eq_true hid₀⟩
    obtain ⟨r, hr⟩ := Option.isSome_iff_exists.mp hsome
    have hid : r.id = o.entry.dbKey := of_decide_eq_true (List.find?_some hr :)
    refine ⟨loadRow p e r, ?_, hrow r (List.mem_of_find?_eq_some hr) hid e⟩
    rw [getEntry, hread, hr]
    rfl
  · obtain ⟨r, hr, hid⟩ := List.mem_map.mp hkey
    obtain ⟨rows, j', hperm, rfl⟩ := hlist.loadRows
    obtain ⟨e, he⟩ := exists_mem_loadRows p j' (hperm.mem_iff.mpr hr)
    exact ⟨_, he, hid, hrow r hr hid e⟩
  · obtain ⟨rows, j', hperm, rfl⟩ := hlist.loadRows
    rw [JournalModel.loadRows_keys]
    exact ⟨hperm.map _, (hperm.map _).nodup_iff.mpr (h.wf hdb).nodup⟩
  · exact (others_committed h hok hdb r hid).1 hr
  · exact (others_committed h hok hdb r hid).2 hr

/-! ### What is not given back -/

/-- A call from `Jörg`, whose provider gives his name for a number. -/
def fromJoerg (now : Int) : JournalEntry :=
  (JournalEntry.create 0 0 0 .incoming now).setCallerAddress "Jörg"

/-- A moment of a program that keeps the calls of one day. -/
def keepsOneDay (now : Int) : Moment :=
  { Moment.quiet now with
    prefs := { GeneralPrefs.initial with delJournalByAge := true, maxJournalAge := 1 } }

theorem read_joerg : GivesBack utcPlatform (.quiet 1353274722) .initial (fromJoerg 1353274722)
    (insertUpdateEntry utcPlatform true (.quiet 1353274722) .initial (fromJoerg 1353274722)) := by
  refine read_committed .initial ⟨fun t ht => ?_, by decide⟩ rfl
  obtain rfl : t = 1353274722 := by
    rcases ht with ht | ht
    · exact (Option.some.inj ht).symm
    · cases ht
  decide

/-- The address of the call is read as `J_rg`, and the duration of a call of 2³² seconds as none; a
call of two days later takes the row of the first away, and the next save of the first call is
committed and writes nothing. -/
theorem not_given_back :
    let first := insertUpdateEntry utcPlatform true (keepsOneDay 1353274722) .initial
      (fromJoerg 1353274722)
    let later := keepsOneDay (1353274722 + 2 * 86400)
    let second := insertUpdateEntry utcPlatform true later first.db (fromJoerg later.now)
    let third := insertUpdateEntry utcPlatform true later second.db
      (first.entry.setCallerName "Jörg")
    let long := insertUpdateEntry utcPlatform true (keepsOneDay 1353274722) .initial
      ((fromJoerg 1353274722).setDurationInSec 4294967296)
    (long.db.getEntry utcPlatform true (keepsOneDay 1353274722) long.entry.dbKey long.entry).map
        (·.durationInSec) = some 0 ∧
      first.notified = true ∧ second.notified = true ∧ third.notified = true ∧
      (first.db.getEntry utcPlatform true later first.entry.dbKey first.entry).map
        (·.callerAddress) = some "J_rg" ∧
      first.db.calls.map (·.id) = [1] ∧ second.db.calls.map (·.id) = [2] ∧
      third.db.getEntry utcPlatform true later third.entry.dbKey third.entry = none := by
  decide +kernel

end JournalDb
end Cmon
