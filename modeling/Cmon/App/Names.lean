import Mathlib.Data.List.Find
import Cmon.Journal.Purge
import Cmon.App.Attribution

/-!
# App — two sources of a name

A name of a call comes with a call info of the plug-in, and as the name of the contact that was
found for its number.  A call info fills a name that is empty, a contact's name replaces any; the
entry is saved after each of them.

* `renamed_info` and `renamed_deliver`: what each of them makes of the name, in the entry and in the
  journal, for a call that has a key; `rowName_saved`: what a save makes of the name in its row.
* `rowName_saved_first`: what a first save makes of it, for a call that was never saved.
* `current_run`: along every run in which the keys tell the calls apart (`Apart`), the row of an active call has the
  name of its entry, unless that is still to be saved.
* `orderFree_iff`: it does not matter which one comes first, and no name is lost, exactly when the
  contact has a name, and the save after the response is not the only one to fail; `orderFree_known`
  and `orderFree_first` are its two cases.
-/

namespace Cmon
open Library

/-- The names in a row. -/
def CallRow.name (row : CallRow) : ResolveFor → String
  | .caller => row.cln
  | .called => row.cdn

/-- The name in the row with the id `key`. -/
def JournalDb.rowName (db : JournalDb) (key : Int) (side : ResolveFor) : Option String :=
  (db.calls.find? (·.id = key)).map (·.name side)

namespace App
variable {w : World} {m : Moment} {s : App} {k : JournalKey} {side : ResolveFor} {key : Int}

/-- The name of the active call at `k`. -/
def nameAt (s : App) (k : JournalKey) (side : ResolveFor) : Option String :=
  (s.activeCalls.find? k).map fun e => e.name side

/-- The name in the journal, in the row of the active call at `k`. -/
def storedAt (s : App) (k : JournalKey) (side : ResolveFor) : Option String :=
  (s.activeCalls.find? k).bind fun e => s.db.rowName e.dbKey side

/-- The response is one for the call at `k`. -/
def Reaches (s : App) (r : Response) (k : JournalKey) : Prop :=
  ∃ e, s.findActiveEntry r.callId = some (k, e)

instance (s : App) (r : Response) (k : JournalKey) : Decidable (s.Reaches r k) :=
  decidable_of_iff ((s.findActiveEntry r.callId).map (·.1) = some k) <| by
    rw [Option.map_eq_some_iff]
    constructor
    · rintro ⟨⟨k, e⟩, he, rfl⟩
      exact ⟨e, he⟩
    · rintro ⟨e, he⟩
      exact ⟨(k, e), he, rfl⟩

/-- The event leaves a name where there was one, in the entry and in the journal; a name with a
NUL in it is stored up to that. -/
structure KeepsName (w : World) (k : JournalKey) (side : ResolveFor) (s : App)
    (ev : AppEvent) : Prop where
  entry : ∀ n, s.nameAt k side = some n → n ≠ "" → (s.step w ev).nameAt k side ≠ some ""
  row : ∀ n, s.storedAt k side = some n → n ≠ "" → ∀ n',
    (s.step w ev).nameAt k side = some n' → '\x00' ∉ n'.toList →
      (s.step w ev).storedAt k side ≠ some ""

/-- The two events leave the same name in the entry and in the journal, whichever comes first, and
lose none. -/
structure OrderFree (w : World) (k : JournalKey) (side : ResolveFor) (s : App)
    (a b : AppEvent) : Prop where
  same : (run (step w) s [a, b]).nameAt k side = (run (step w) s [b, a]).nameAt k side
  stored : (run (step w) s [a, b]).storedAt k side = (run (step w) s [b, a]).storedAt k side
  kept : Along (step w) (KeepsName w k side) s [a, b]
  kept' : Along (step w) (KeepsName w k side) s [b, a]

/-- The journal is usable, and the save of an entry that has a key does not fail. -/
def CommitsAt (w : World) (m : Moment) : Prop :=
  w.dbIsOk = true ∧ m.saveFault ≠ some 0 ∧ m.saveFault ≠ some 1

instance (w : World) (m : Moment) : Decidable (CommitsAt w m) :=
  decidable_of_iff (w.dbIsOk = true ∧ m.saveFault ≠ some 0 ∧ m.saveFault ≠ some 1) Iff.rfl

/-- The entry has a key, and the row under it has its name, unless that is still to be saved. -/
def Current (w : World) (s : App) (side : ResolveFor) (e : JournalEntry) : Prop :=
  w.dbIsOk = true → e.dirty = false → e.dbKey ≠ 0 ∧
    ∀ row ∈ s.db.calls, row.id = e.dbKey → row.name side = toUTF8 (e.name side)

/-! ### A save -/

section
variable {e e' : JournalEntry}

theorem rowOf_name (p : Platform) (key : Int) (e : JournalEntry) :
    (JournalDb.rowOf p key e).name side = toUTF8 (e.name side) := by
  cases side <;> rfl

/-- An entry that stores the same has the same names. -/
theorem name_of_stored (h : e'.stored = e.stored) : e'.name side = e.name side := by
  cases side with
  | caller => exact congrArg (·.2.2.2.2.2.2.1) h
  | called => exact congrArg (·.2.2.2.2.2.2.2.2) h

theorem saved_name (w : World) (m : Moment) (s : App) (e : JournalEntry) :
    (saved w m s e).entry.name side = e.name side :=
  name_of_stored (saves_saved w m s e).entry.2

/-- The saved entry is as its row, if the one before was. -/
theorem current_saved (hwf : JournalDb.WF s.db) (hkey : e'.dbKey = e.dbKey)
    (hedit : JournalEntry.Edited e e') (h : Current w s side e) :
    w.dbIsOk = true → (saved w m s e').entry.dirty = false →
      (saved w m s e').entry.dbKey ≠ 0 ∧
        ∀ row ∈ (saved w m s e').db.calls, row.id = (saved w m s e').entry.dbKey →
          row.name side = toUTF8 ((saved w m s e').entry.name side) := by
  intro hok hclean
  rw [saved_name]
  have hs := saves_saved w m s e'
  generalize saved w m s e' = o at hs hclean
  cases hs with
  | clean hd =>
      obtain ⟨hd₀, hstored⟩ := hedit hd
      rw [name_of_stored hstored, hkey]
      exact h hok hd₀
  | unusable _ hno => rw [hok] at hno; cases hno
  | failed hd => exact absurd (hd.symm.trans hclean) Bool.noConfusion
  | keyed hd =>
      have hdirty : (e'.setDbKey s.db.nextcallid).dirty = true := by
        simp [JournalEntry.setDbKey, JournalEntry.mark, hd]
      exact absurd (hdirty.symm.trans hclean) Bool.noConfusion
  | inserted =>
      refine ⟨ne_of_gt hwf.pos, fun row hrow hid => ?_⟩
      rcases List.mem_append.mp ((JournalDb.purgeEntries_sublist _ m _).1.subset hrow) with
        hrow | hrow
      · exact absurd hid (ne_of_lt (hwf.ids row hrow).2)
      · rw [List.mem_singleton.mp hrow, rowOf_name]
  | updated _ _ _ hne =>
      refine ⟨hne, fun row hrow hid => ?_⟩
      obtain ⟨r, -, heq⟩ := List.mem_map.mp hrow
      split_ifs at heq with hr
      · rw [← heq, rowOf_name]
      · exact absurd (heq ▸ hid) hr

/-- A save leaves the rows of other ids. -/
theorem row_other (hne : e'.dbKey ≠ 0 → key ≠ e'.dbKey) (hlt : key < s.db.nextcallid)
    {row : CallRow} (hrow : row ∈ (saved w m s e').db.calls) (hid : row.id = key) :
    row ∈ s.db.calls := by
  rcases (saves_saved w m s e').mem_calls hrow with h | ⟨-, ⟨-, h⟩ | ⟨hne', h⟩⟩
  · exact h
  · omega
  · exact absurd (hid.symm.trans h) (hne hne')

end

/-! ### The run -/

/-- The keys tell the calls apart, and every active entry is as its row. -/
structure NamesTell (w : World) (t : Noted) : Prop where
  keys : RowsTell t
  wf : JournalDb.WF t.app.db
  current : ∀ side k e, t.app.activeCalls.find? k = some e → Current w t.app side e

theorem NamesTell.start (w : World) {db : JournalDb} (h : JournalDb.WF db) :
    NamesTell w (.start db) :=
  ⟨.start h.pos, h, fun _ _ _ hf => nomatch hf⟩

section
variable {t : Noted} {e e' : JournalEntry}

/-- Two active entries with one key are one. -/
theorem RowsTell.unique (h : RowsTell t) {j : JournalKey} {e₁ : JournalEntry}
    (he : t.app.activeCalls.find? k = some e) (hj : t.app.activeCalls.find? j = some e₁)
    (hne : e.dbKey ≠ 0) (hkey : e₁.dbKey = e.dbKey) : j = k := by
  have hown := h.entries k e he hne
  have hown₁ := h.entries j e₁ hj (hkey ▸ hne)
  rw [hkey, hown] at hown₁
  have hk := h.inStep.newest k
  have hj' := h.inStep.newest j
  rw [he] at hk
  rw [hj] at hj'
  exact h.inStep.inj j k e.self (hj'.symm.trans (Option.some.inj hown₁ ▸ rfl)) hk.symm

/-- The key of an active entry is one the counter has passed. -/
theorem NamesTell.lt (h : NamesTell w t) (he : t.app.activeCalls.find? k = some e) :
    e.dbKey < t.app.db.nextcallid := by
  by_cases h0 : e.dbKey = 0
  · rw [h0]
    exact h.wf.pos
  · exact h.keys.passed.2 _ _ (h.keys.entries k e he h0)

/-- The entries after an edit of the one at `k`. -/
theorem NamesTell.edit (h : NamesTell w t) (rq : List Request) (rp : List Response)
    (he : t.app.activeCalls.find? k = some e) (hkey : e'.dbKey = e.dbKey)
    (hedit : JournalEntry.Edited e e') (side : ResolveFor) {j : JournalKey} {e₁ : JournalEntry}
    (hj : ({ t.app with requests := rq, responses := rp }.edit w m k e').activeCalls.find? j =
      some e₁) :
    Current w ({ t.app with requests := rq, responses := rp }.edit w m k e') side e₁ := by
  rcases find?_edit (s := { t.app with requests := rq, responses := rp }) he hj with
    ⟨-, rfl⟩ | ⟨hjk, hj⟩
  · exact current_saved (s := { t.app with requests := rq, responses := rp }) h.wf hkey hedit
      (h.current side k e he)
  · intro hok hclean
    obtain ⟨hne₁, hrows⟩ := h.current side j e₁ hj hok hclean
    refine ⟨hne₁, fun row hrow hid => hrows row (row_other (fun hne => ?_) (h.lt hj) hrow hid) hid⟩
    exact fun heq => hjk (h.keys.unique he hj (hkey ▸ hne) (heq.trans hkey))

end

theorem NamesTell.step {t : Noted} (h : NamesTell w t) {ev : AppEvent} (hi : Apart t ev) :
    NamesTell w (t.step w ev) := by
  have hkeys := h.keys.step (w := w) hi
  have hwf := wf_step (w := w) h.wf ev
  have ha := step_acts w t.app ev
  rw [Noted.step] at hkeys ⊢
  generalize t.app.step w ev = s' at ha hkeys hwf
  refine ⟨hkeys, hwf, fun side j e₁ hj => ?_⟩
  cases ha with
  | noStatus | noInfo | worked | unanswered => exact h.current side j e₁ hj
  | ended => exact h.current side j e₁ (find?_ended hj)
  | created m pid cid type status =>
      rcases find?_onNewCall hj with ⟨-, rfl⟩ | hj
      · refine current_saved h.wf rfl (.refl _) fun _ hclean => ?_
        rw [newEntry_dirty] at hclean
        cases hclean
      · intro hok hclean
        obtain ⟨hne₁, hrows⟩ := h.current side j e₁ hj hok hclean
        refine ⟨hne₁, fun row hrow hid => hrows row ?_ hid⟩
        exact row_other (fun hne => absurd (newEntry_dbKey ..) hne) (h.lt hj) hrow hid
  | @moved m pid cid status e he =>
      exact h.edit t.app.requests t.app.responses he (JournalEntry.setState_dbKey _ _ _)
        (.setState _ _) side hj
  | @informed m pid cid info e e' rq he hask =>
      exact h.edit rq t.app.responses he hask.entry.dbKey hask.entry.edited side hj
  | @named m k e e' r rp hrp he hr =>
      have hrel := relabelled_setName r.userData r.sn e
      exact h.edit t.app.requests rp (findActiveEntry_find? he) (hr ▸ hrel.dbKey)
        (hr ▸ hrel.edited) side hj
  | @copied m e e' r rp hrp hn hget hr =>
      -- no active entry has the key of the response
      intro hok hclean
      obtain ⟨hne₁, hrows⟩ := h.current side j e₁ hj hok hclean
      refine ⟨hne₁, fun row hrow hid => hrows row ?_ hid⟩
      refine row_other (s := { t.app with responses := rp }) (fun _ heq => ?_) (h.lt hj) hrow hid
      have hnone := List.find?_eq_none.mp hn (j, e₁) (OrderedMap.mem_entries.mpr hj)
      rw [hr, (relabelled_setName _ _ _).dbKey, JournalDb.getEntry_dbKey hget] at heq
      exact absurd heq (by simpa using hnone)

/-- **The row of an active call has the name of its entry, unless that is still to be saved**,
along every run in which the keys tell the calls apart. -/
theorem current_run (w : World) {db : JournalDb} (hdb : JournalDb.WF db) {evs : List AppEvent}
    (h : Along (Noted.step w) Apart (.start db) evs) (side : ResolveFor) {k : JournalKey}
    {e : JournalEntry}
    (he : (run (Noted.step w) (.start db) evs).app.activeCalls.find? k = some e) :
    Current w (run (Noted.step w) (.start db) evs).app side e :=
  (Along.inv (I := NamesTell w) (fun _ _ ht hi => ht.step hi) (.start w hdb) h).current side k e he

/-! ### One event -/

theorem nameAt_edit {e : JournalEntry} (he : s.activeCalls.find? k = some e) (e' : JournalEntry) :
    (s.edit w m k e').nameAt k side = some (e'.name side) := by
  rw [nameAt, find?_edit_self he, Option.map_some, saved_name]

theorem fillNames_name (info : CallInfo) (e : JournalEntry) :
    (fillNames info e).name side = if e.name side = "" then info.name side else e.name side := by
  by_cases h₁ : e.calledName = "" <;> by_cases h₂ : e.callerName = "" <;>
    cases side <;>
      simp [fillNames, JournalEntry.name, CallInfo.name, JournalEntry.setCalledName,
        JournalEntry.setCallerName, h₁, h₂]

/-- To look a number up leaves the names. -/
theorem FillsIn.name {info : CallInfo} {filled : ResolveFor} {q q' : Filling}
    (h : FillsIn w m info filled q q') : q'.1.name side = q.1.name side := by
  cases h with
  | nothing => rfl
  | kept => exact JournalEntry.setAddress_name ..
  | asked => rw [JournalEntry.setResolving_name, JournalEntry.setAddress_name]

theorem fillIn_name (info : CallInfo) (e : JournalEntry) (rs : List Request) :
    (fillIn w m info e rs).1.name side =
      if e.name side = "" then info.name side else e.name side := by
  obtain ⟨q, hcalled, hcaller⟩ := fillIn_sides w m info e rs
  rw [hcaller.name, hcalled.name, fillNames_name]

/-- A call info of an active call is an edit of its entry. -/
theorem step_info {pid cid : Nat} {e : JournalEntry} {info : CallInfo}
    (he : s.activeCalls.find? (journalKey pid cid) = some e) :
    s.step w (.call m (.callInfo pid cid info)) =
      { s with requests := (fillIn w m info e s.requests).2 }.edit w m (journalKey pid cid)
        (fillIn w m info e s.requests).1 := by
  rw [step, handle, onCallInfoUpdate, he]

theorem find?_info {pid cid : Nat} {e : JournalEntry} {info : CallInfo}
    (he : s.activeCalls.find? (journalKey pid cid) = some e) :
    (s.step w (.call m (.callInfo pid cid info))).activeCalls.find? (journalKey pid cid) =
      some (saved w m s (fillIn w m info e s.requests).1).entry := by
  rw [step_info he]
  exact find?_edit_self (s := { s with requests := (fillIn w m info e s.requests).2 }) he _

/-- So is a response. -/
theorem step_deliver {r : Response} {rp : List Response} {e : JournalEntry}
    (hr : s.responses = r :: rp) (h : s.findActiveEntry r.callId = some (k, e)) :
    s.step w (.deliver m) =
      { s with responses := rp }.edit w m k (setName r.userData r.sn e) := by
  have hactive : ({ s with responses := rp } : App).findActiveEntry r.callId = some (k, e) := h
  rw [step, hr]
  dsimp only
  rw [onResolverResponse, hactive]

theorem setName_name (side : ResolveFor) (sn : String) (e : JournalEntry) :
    (setName side sn e).name side = sn := by
  cases side <;> rfl

theorem responses_info (pid cid : Nat) (info : CallInfo) :
    (s.step w (.call m (.callInfo pid cid info))).responses = s.responses := by
  rw [step, handle, onCallInfoUpdate]
  split <;> rfl

theorem Reaches.find? {r : Response} (h : s.Reaches r k) :
    ∃ e, s.findActiveEntry r.callId = some (k, e) ∧ s.activeCalls.find? k = some e := by
  obtain ⟨e, he⟩ := h
  exact ⟨e, he, OrderedMap.mem_entries.mp (List.mem_of_find?_eq_some he)⟩

theorem Reaches.dbKey {r : Response} {e : JournalEntry} (h : s.Reaches r k)
    (he : s.activeCalls.find? k = some e) : e.dbKey = r.callId := by
  obtain ⟨e₁, hactive, he₁⟩ := h.find?
  exact Option.some.inj (he₁.symm.trans he) ▸ findActiveEntry_dbKey hactive

/-- An active call keeps its key of the database. -/
theorem findActiveEntry_edit {e e' : JournalEntry} {key : Int}
    (h : s.findActiveEntry key = some (k, e)) (hdb : e'.dbKey = e.dbKey) (hkey : key ≠ 0) :
    (s.edit w m k e').findActiveEntry key = some (k, (saved w m s e').entry) := by
  have hfind := OrderedMap.mem_entries.mp (List.mem_of_find?_eq_some h)
  have he : e.dbKey = key := by simpa using List.find?_some h
  have hsaved : (saved w m s e').entry.dbKey = key := by
    rcases (saves_saved w m s e').dbKey with hsame | ⟨hzero, -⟩
    · rw [hsame, hdb, he]
    · exact absurd (he.symm.trans (hdb.symm.trans hzero)) hkey
  -- the edited entry has its key, and the others are as they were
  have hcongr : s.activeCalls.entries.find? ((fun x => decide (x.2.dbKey = key)) ∘
      fun x => if x.1 = k then (x.1, (saved w m s e').entry) else x) =
        s.activeCalls.entries.find? fun x => x.2.dbKey = key := by
    refine List.find?_congr fun x hx => ?_
    by_cases hk : x.1 = k
    · have hx' : x.2 = e := by
        have hmem := OrderedMap.mem_entries.mp (show (x.1, x.2) ∈ s.activeCalls.entries from hx)
        exact Option.some.inj ((hk ▸ hmem).symm.trans hfind)
      simp [hk, hsaved, hx', he]
    · simp [hk]
  have hmap : (s.edit w m k e').findActiveEntry key = _ := List.find?_map
  rw [hmap, hcongr, show s.activeCalls.entries.find? (fun x => x.2.dbKey = key) = _ from h]
  simp

/-- A call with a key of the database is still reached by a response after a call info. -/
theorem Reaches.info {r : Response} {pid cid : Nat} (h : s.Reaches r (journalKey pid cid))
    (hkey : r.callId ≠ 0) (info : CallInfo) :
    (s.step w (.call m (.callInfo pid cid info))).Reaches r (journalKey pid cid) := by
  obtain ⟨e, he, hfind⟩ := h.find?
  have hdb : (fillIn w m info e s.requests).1.dbKey = e.dbKey :=
    (asks_fillIn w m info e s.requests).entry.dbKey
  rw [step_info hfind]
  exact ⟨_, findActiveEntry_edit (s := { s with requests := _ }) he hdb hkey⟩

/-! ### The name in the journal -/

theorem storedAt_of {e : JournalEntry} (he : s.activeCalls.find? k = some e) :
    s.storedAt k side = s.db.rowName e.dbKey side := by
  rw [storedAt, he, Option.bind_some]

/-- No row has the key of an entry that was never saved. -/
theorem rowName_zero {db : JournalDb} (h : JournalDb.WF db) : db.rowName 0 side = none := by
  have hnone : db.calls.find? (·.id = 0) = none := by
    refine List.find?_eq_none.mpr fun row hrow hid => ?_
    exact absurd (of_decide_eq_true hid) (ne_of_gt (h.ids row hrow).1)
  rw [JournalDb.rowName, hnone, Option.map_none]

section
variable {e e' : JournalEntry}

theorem storedAt_edit (he : s.activeCalls.find? k = some e) (e' : JournalEntry) :
    (s.edit w m k e').storedAt k side =
      (saved w m s e').db.rowName (saved w m s e').entry.dbKey side :=
  storedAt_of (find?_edit_self he e')

/-- A save that does not commit leaves the journal, and the key of the entry. -/
theorem saved_not_commits (h : ¬ CommitsAt w m) (s : App) (e : JournalEntry) :
    (saved w m s e).db = s.db ∧ (saved w m s e).entry.dbKey = e.dbKey := by
  have hfails : ∀ {n : Nat}, m.saveFault = some n → 2 ≤ n → w.dbIsOk = true → False := by
    intro n hn hle hok
    refine h ⟨hok, ?_, ?_⟩ <;>
      · rw [hn]
        intro heq
        injection heq
        omega
  have hs := saves_saved w m s e
  generalize saved w m s e = o at hs
  cases hs with
  | clean | unusable | failed => exact ⟨rfl, rfl⟩
  | keyed _ hok hf => exact (hf.elim (hfails · le_rfl hok) (hfails · (by decide) hok)).elim
  | inserted _ hok hf hkey | updated _ hok hf hkey =>
      refine absurd ⟨hok, fun h₀ => hf ⟨0, h₀, ?_⟩, fun h₁ => hf ⟨1, h₁, ?_⟩⟩ h <;>
        · split <;> decide

/-- A save that commits writes the name of a dirty entry into the row it has. -/
theorem rowName_saved (hkey : e'.dbKey ≠ 0) (hd : e'.dirty = true) (hc : CommitsAt w m) :
    (saved w m s e').db.rowName e'.dbKey side =
      (s.db.rowName e'.dbKey side).map fun _ => toUTF8 (e'.name side) := by
  have hs := saves_saved w m s e'
  generalize saved w m s e' = o at hs
  cases hs with
  | clean hd' => exact absurd (hd'.symm.trans hd) Bool.noConfusion
  | unusable _ hno => exact absurd (hno.symm.trans hc.1) Bool.noConfusion
  | failed _ _ hf =>
      obtain ⟨n, hn, hlt⟩ := hf
      rw [if_neg hkey] at hlt
      obtain rfl | rfl : n = 0 ∨ n = 1 := by omega
      · exact absurd hn hc.2.1
      · exact absurd hn hc.2.2
  | keyed _ _ _ h0 | inserted _ _ _ h0 => exact absurd h0 hkey
  | updated =>
      -- the row that is found is the one that was written
      have hid : ∀ row : CallRow, (if row.id = e'.dbKey then
          JournalDb.rowOf w.platform e'.dbKey e' else row).id = row.id := by
        intro row
        split_ifs with h
        · exact h.symm
        · rfl
      have hfind : (JournalDb.updated w.platform s.db e').calls.find? (·.id = e'.dbKey) =
          (s.db.calls.find? (·.id = e'.dbKey)).map fun row => if row.id = e'.dbKey then
            JournalDb.rowOf w.platform e'.dbKey e' else row := by
        refine (List.find?_map ..).trans (congrArg _ ?_)
        exact congrArg (s.db.calls.find? ·) (funext fun row => by simp [hid])
      rw [JournalDb.rowName, JournalDb.rowName, hfind, Option.map_map, Option.map_map]
      refine Option.map_congr fun row hrow => ?_
      have hrowid : row.id = e'.dbKey := by simpa using List.find?_some hrow
      simp only [Function.comp_apply, if_pos hrowid, rowOf_name]

/-- From `s` to `s'` the call at `k` with the key `key` gets the name `n`, and is saved at `m`. -/
structure Renamed (w : World) (m : Moment) (k : JournalKey) (key : Int) (side : ResolveFor)
    (n : String) (s s' : App) : Prop where
  name : s'.nameAt k side = some n
  stored : s'.storedAt k side =
    if CommitsAt w m then (s.storedAt k side).map fun _ => toUTF8 n else s.storedAt k side
  current : ∃ e, s'.activeCalls.find? k = some e ∧ e.dbKey = key ∧ Current w s' side e

/-- An edit of an entry that is as its row, and is not saved for the first time. -/
theorem renamed_edit (hwf : JournalDb.WF s.db) (he : s.activeCalls.find? k = some e)
    (hkey : e.dbKey ≠ 0 ∨ ¬ CommitsAt w m) (hsame : e'.dbKey = e.dbKey)
    (hedit : JournalEntry.Edited e e') (hc : Current w s side e) :
    Renamed w m k e.dbKey side (e'.name side) s (s.edit w m k e') := by
  have hsaved : (saved w m s e').entry.dbKey = e.dbKey := by
    rcases hkey with hkey | hnot
    · rcases (saves_saved w m s e').dbKey with h | ⟨h0, -⟩
      · exact h.trans hsame
      · exact absurd (hsame.symm.trans h0) hkey
    · exact (saved_not_commits hnot s e').2.trans hsame
  refine ⟨nameAt_edit he e', ?_, _, find?_edit_self he e', hsaved, current_saved hwf hsame hedit hc⟩
  rw [storedAt_edit he, storedAt_of he, hsaved]
  split
  · rename_i hcommits
    have hne : e.dbKey ≠ 0 := hkey.resolve_right (not_not_intro hcommits)
    by_cases hd : e'.dirty = true
    · rw [← hsame]
      exact rowName_saved (hsame ▸ hne) hd hcommits
    · -- a clean entry has its name in the row already
      obtain ⟨hd₀, hstored⟩ := hedit (Bool.not_eq_true _ ▸ hd)
      have hdb : (saved w m s e').db = s.db := by
        rw [saved, JournalDb.insertUpdateEntry, if_neg hd]
      rw [hdb]
      cases hrow : s.db.rowName e.dbKey side with
      | none => rfl
      | some n =>
          obtain ⟨row, hfound, rfl⟩ := Option.map_eq_some_iff.mp hrow
          have hid : row.id = e.dbKey := by simpa using List.find?_some hfound
          rw [(hc hcommits.1 hd₀).2 row (List.mem_of_find?_eq_some hfound) hid,
            name_of_stored hstored]
          rfl
  · rename_i hnot
    rw [(saved_not_commits hnot s e').1]

/-- A call info, of a call that is as its row. -/
theorem renamed_info (hwf : JournalDb.WF s.db) {pid cid : Nat}
    (he : s.activeCalls.find? (journalKey pid cid) = some e)
    (hkey : e.dbKey ≠ 0 ∨ ¬ CommitsAt w m) (hc : Current w s side e) (info : CallInfo) :
    Renamed w m (journalKey pid cid) e.dbKey side
      (if e.name side = "" then info.name side else e.name side) s
      (s.step w (.call m (.callInfo pid cid info))) := by
  have hask := asks_fillIn w m info e s.requests
  rw [step_info he, ← fillIn_name (w := w) (m := m) info e s.requests]
  have hedited := renamed_edit (m := m) (s := { s with requests := _ }) hwf he hkey
    hask.entry.dbKey hask.entry.edited hc
  exact ⟨hedited.name, hedited.stored, hedited.current⟩

/-- A response to the look-up of a call that has a key and is as its row. -/
theorem renamed_deliver (hwf : JournalDb.WF s.db) {r : Response} {rp : List Response}
    (hr : s.responses = r :: rp) (h : s.Reaches r k) (hkey : r.callId ≠ 0)
    (hc : ∀ e, s.activeCalls.find? k = some e → Current w s r.userData e) :
    Renamed w m k r.callId r.userData r.sn s (s.step w (.deliver m)) := by
  obtain ⟨e, hactive, he⟩ := h.find?
  have hrel := relabelled_setName r.userData r.sn e
  have hdb := findActiveEntry_dbKey hactive
  have hedited := renamed_edit (m := m) (s := { s with responses := rp }) hwf he
    (.inl (hdb ▸ hkey)) hrel.dbKey hrel.edited (hc e he)
  rw [setName_name, hdb] at hedited
  rw [step_deliver hr hactive]
  exact ⟨hedited.name, hedited.stored, hedited.current⟩

/-- A name that is not empty is kept. -/
theorem Renamed.keeps {n : String} {ev : AppEvent}
    (h : Renamed w m k key side n s (s.step w ev)) (hn : n ≠ "") :
    KeepsName w k side s ev := by
  refine ⟨fun _ _ _ hempty => ?_, fun x hx hne n' hn' hnul hempty => ?_⟩
  · rw [h.name] at hempty
    exact hn (Option.some.inj hempty)
  · rw [h.name] at hn'
    obtain rfl := Option.some.inj hn'
    rw [h.stored, hx] at hempty
    split_ifs at hempty
    · rw [Option.map_some, toUTF8, cString_of_noNul hnul] at hempty
      exact hn (Option.some.inj hempty)
    · exact hne (Option.some.inj hempty)

end

/-! ### Both, for a call with a key -/

/-- A call that is told a name has one. -/
theorem filled_ne {info : CallInfo} {e : JournalEntry} (hinfo : info.name side ≠ "") :
    (if e.name side = "" then info.name side else e.name side) ≠ "" := by
  split
  · exact hinfo
  · assumption

/-- Where the order makes no difference, the contact has a name. -/
theorem OrderFree.sn_ne {a b : AppEvent} {sn n : String} (hfree : OrderFree w k side s a b)
    (hab : ((s.step w a).step w b).nameAt k side = some sn)
    (hba : ((s.step w b).step w a).nameAt k side = some (if sn = "" then n else sn))
    (hn : n ≠ "") : sn ≠ "" := by
  intro hsn
  have hsame : some sn = some (if sn = "" then n else sn) := hab.symm.trans (hfree.same.trans hba)
  rw [if_pos hsn, hsn] at hsame
  exact hn (Option.some.inj hsame).symm

/-- What the journal has of the name when another one follows. -/
theorem Renamed.stored_then {n n' : String} {m' : Moment} {s₁ s₂ : App}
    (h : Renamed w m k key side n s s₁) (h' : Renamed w m' k key side n' s₁ s₂) :
    s₂.storedAt k side =
      if CommitsAt w m' then (s.storedAt k side).map fun _ => toUTF8 n'
      else if CommitsAt w m then (s.storedAt k side).map fun _ => toUTF8 n
      else s.storedAt k side := by
  rw [h'.stored, h.stored]
  split_ifs
  · rw [Option.map_map]
    rfl
  · rfl
  · rfl
  · rfl

section
variable {m' : Moment} {pid cid : Nat} {info : CallInfo} {r : Response} {rp : List Response}
  {e : JournalEntry}

/-- The call info, and then the response. -/
theorem renamed_info_deliver (m m' : Moment) (info : CallInfo) (hwf : JournalDb.WF s.db)
    (hr : s.responses = r :: rp)
    (h : s.Reaches r (journalKey pid cid)) (hkey : r.callId ≠ 0)
    (he : s.activeCalls.find? (journalKey pid cid) = some e) (hc : Current w s r.userData e) :
    let s₁ := s.step w (.call m (.callInfo pid cid info))
    Renamed w m (journalKey pid cid) r.callId r.userData
        (if e.name r.userData = "" then info.name r.userData else e.name r.userData) s s₁ ∧
      Renamed w m' (journalKey pid cid) r.callId r.userData r.sn s₁ (s₁.step w (.deliver m')) := by
  have hdb := h.dbKey he
  have hinfo := renamed_info (m := m) hwf he (.inl (hdb ▸ hkey)) hc info
  rw [hdb] at hinfo
  refine ⟨hinfo, renamed_deliver (wf_step hwf _) ((responses_info pid cid info).trans hr)
    (h.info hkey info) hkey fun e₁ he₁ => ?_⟩
  obtain ⟨e₂, he₂, -, hc₂⟩ := hinfo.current
  exact Option.some.inj (he₂.symm.trans he₁) ▸ hc₂

/-- The response, and then the call info. -/
theorem renamed_deliver_info (m m' : Moment) (info : CallInfo) (hwf : JournalDb.WF s.db)
    (hr : s.responses = r :: rp)
    (h : s.Reaches r (journalKey pid cid)) (hkey : r.callId ≠ 0)
    (he : s.activeCalls.find? (journalKey pid cid) = some e) (hc : Current w s r.userData e) :
    let s₁ := s.step w (.deliver m')
    Renamed w m' (journalKey pid cid) r.callId r.userData r.sn s s₁ ∧
      Renamed w m (journalKey pid cid) r.callId r.userData
        (if r.sn = "" then info.name r.userData else r.sn) s₁
        (s₁.step w (.call m (.callInfo pid cid info))) := by
  have hdeliver := renamed_deliver (m := m') hwf hr h hkey fun e₁ he₁ =>
    Option.some.inj (he.symm.trans he₁) ▸ hc
  obtain ⟨e₁, he₁, hdb₁, hc₁⟩ := hdeliver.current
  have hname₁ : e₁.name r.userData = r.sn := by
    have hname := hdeliver.name
    rw [nameAt, he₁] at hname
    exact Option.some.inj hname
  have hinfo := renamed_info (m := m) (wf_step hwf _) he₁ (.inl (hdb₁ ▸ hkey)) hc₁ info
  rw [hname₁, hdb₁] at hinfo
  exact ⟨hdeliver, hinfo⟩

theorem orderFree_known (hwf : JournalDb.WF s.db) (hr : s.responses = r :: rp)
    (hinfo : info.name r.userData ≠ "") (h : s.Reaches r (journalKey pid cid))
    (hkey : r.callId ≠ 0) (he : s.activeCalls.find? (journalKey pid cid) = some e)
    (hc : Current w s r.userData e) :
    OrderFree w (journalKey pid cid) r.userData s (.call m (.callInfo pid cid info))
        (.deliver m') ↔
      r.sn ≠ "" ∧ ((∃ row ∈ s.db.calls, row.id = r.callId) → CommitsAt w m → ¬ CommitsAt w m' →
        toUTF8 (if e.name r.userData = "" then info.name r.userData else e.name r.userData) =
          toUTF8 r.sn) := by
  obtain ⟨hinfo₁, hdeliver₂⟩ := renamed_info_deliver m m' info hwf hr h hkey he hc
  obtain ⟨hdeliver₁, hinfo₂⟩ := renamed_deliver_info m m' info hwf hr h hkey he hc
  have hrow : (∃ row ∈ s.db.calls, row.id = r.callId) ↔
      ∃ n, s.storedAt (journalKey pid cid) r.userData = some n := by
    rw [storedAt_of he, h.dbKey he]
    simp [JournalDb.rowName, Option.map_eq_some_iff, ← Option.isSome_iff_exists, List.find?_isSome]
  have hstored := hinfo₁.stored_then hdeliver₂
  have hstored' := hdeliver₁.stored_then hinfo₂
  constructor
  · intro hfree
    have hsn := hfree.sn_ne hdeliver₂.name hinfo₂.name hinfo
    refine ⟨hsn, fun hexists hm hm' => ?_⟩
    obtain ⟨n, hn⟩ := hrow.mp hexists
    have hsame := hfree.stored
    rw [run_cons, run_cons, run_nil, run_cons, run_cons, run_nil, hstored, hstored', if_neg hm',
      if_pos hm, if_pos hm, if_neg hsn, hn] at hsame
    exact Option.some.inj hsame
  · rintro ⟨hsn, hagree⟩
    rw [if_neg hsn] at hstored' hinfo₂
    refine ⟨?_, ?_, ⟨hinfo₁.keeps (filled_ne hinfo), hdeliver₂.keeps hsn, trivial⟩,
      ⟨hdeliver₁.keeps hsn, hinfo₂.keeps hsn, trivial⟩⟩
    · rw [run_cons, run_cons, run_nil, run_cons, run_cons, run_nil, hdeliver₂.name, hinfo₂.name]
    · rw [run_cons, run_cons, run_nil, run_cons, run_cons, run_nil, hstored, hstored']
      cases hst : s.storedAt (journalKey pid cid) r.userData with
      | none => split_ifs <;> rfl
      | some n =>
          by_cases hm : CommitsAt w m <;> by_cases hm' : CommitsAt w m'
          · simp [hm, hm']
          · simp [hm, hm', hagree (hrow.mpr ⟨n, hst⟩) hm hm']
          · simp [hm, hm']
          · simp [hm, hm']

end

/-! ### Both, for a call without a key -/

section
variable {e e' : JournalEntry}

/-- With a usable journal it is still to be saved. -/
theorem Current.dirty (hc : Current w s side e) (hedit : JournalEntry.Edited e e')
    (h0 : e.dbKey = 0) (hok : w.dbIsOk = true) : e'.dirty = true := by
  by_contra hd
  exact (hc hok (hedit (Bool.not_eq_true _ ▸ hd)).1).1 h0

/-- When it is saved, the name in the journal depends on the name and the time of the call. -/
theorem rowName_saved_first {s₁ : App} (hwf : JournalDb.WF s.db) (hdb : s₁.db = s.db)
    (h0 : e.dbKey = 0) (h0' : e'.dbKey = 0) (hd : w.dbIsOk = true → e.dirty = true)
    (hd' : w.dbIsOk = true → e'.dirty = true) (hcreation : e'.creation = e.creation)
    (hname : e'.name side = e.name side) :
    (saved w m s₁ e').db.rowName (saved w m s₁ e').entry.dbKey side =
      (saved w m s e).db.rowName (saved w m s e).entry.dbKey side := by
  by_cases hm : CommitsAt w m
  · obtain ⟨hok, hfault⟩ := hm
    rw [saved, saved, hdb, hok, JournalDb.insertUpdateEntry_new (hd hok) h0 hfault,
      JournalDb.insertUpdateEntry_new (hd' hok) h0' hfault]
    split
    · rfl
    · -- both rows survive the purge or none
      have hmem := JournalDb.mem_purge_added (p := w.platform) (m := m) hwf hcreation
      change (JournalDb.purgeEntries w.platform m _).rowName s.db.nextcallid side =
        (JournalDb.purgeEntries w.platform m _).rowName s.db.nextcallid side
      rw [JournalDb.rowName, JournalDb.rowName, JournalDb.find?_purge_added hwf,
        JournalDb.find?_purge_added hwf, if_congr hmem rfl rfl]
      split
      · rw [Option.map_some, Option.map_some, rowOf_name, rowOf_name, hname]
      · rfl
  · obtain ⟨hkept, hkey⟩ := saved_not_commits hm s e
    obtain ⟨hkept', hkey'⟩ := saved_not_commits hm s₁ e'
    rw [hkept, hkept', hkey, hkey', hdb, h0, h0']

end

section
variable {m' : Moment} {pid cid : Nat} {info : CallInfo} {r : Response} {rp : List Response}
  {e : JournalEntry}

/-- If the call info leaves it without one, it was not saved. -/
theorem Reaches.not_commits (hwf : JournalDb.WF s.db)
    (h' : (s.step w (.call m (.callInfo pid cid info))).Reaches r (journalKey pid cid))
    (h0 : r.callId = 0) (he : s.activeCalls.find? (journalKey pid cid) = some e)
    (hdb : e.dbKey = 0) (hc : Current w s side e) : ¬ CommitsAt w m := by
  rintro ⟨hok, hfault⟩
  have hask := asks_fillIn w m info e s.requests
  have hkey := (h'.dbKey (find?_info he)).trans h0
  rw [saved, hok, JournalDb.insertUpdateEntry_new (hc.dirty hask.entry.edited hdb hok)
    (hask.entry.dbKey.trans hdb) hfault] at hkey
  split at hkey <;> exact absurd hkey (ne_of_gt hwf.pos)

/-- The response is put into its entry and saved. -/
theorem deliver_first (hwf : JournalDb.WF s.db) (hr : s.responses = r :: rp) (h : s.Reaches r k)
    (he : s.activeCalls.find? k = some e) (hc : Current w s r.userData e) :
    ∃ o, o = saved w m s (setName r.userData r.sn e) ∧
      (s.step w (.deliver m)).nameAt k r.userData = some r.sn ∧
      (s.step w (.deliver m)).storedAt k r.userData = o.db.rowName o.entry.dbKey r.userData ∧
      (s.step w (.deliver m)).activeCalls.find? k = some o.entry ∧
      Current w (s.step w (.deliver m)) r.userData o.entry := by
  obtain ⟨e₁, hactive, he₁⟩ := h.find?
  obtain rfl := Option.some.inj (he.symm.trans he₁)
  have hrel := relabelled_setName r.userData r.sn e
  rw [step_deliver hr hactive]
  refine ⟨_, rfl, ?_, storedAt_edit (s := { s with responses := rp }) he _,
    find?_edit_self (s := { s with responses := rp }) he _,
    current_saved (s := { s with responses := rp }) hwf hrel.dbKey hrel.edited hc⟩
  rw [nameAt_edit (s := { s with responses := rp }) he, setName_name]

/-- A call info that does not save it leaves the journal, and the time of the call. -/
theorem info_not_commits (info : CallInfo) (hnot : ¬ CommitsAt w m)
    (he : s.activeCalls.find? (journalKey pid cid) = some e) :
    (s.step w (.call m (.callInfo pid cid info))).db = s.db ∧
      ∀ e₁, (s.step w (.call m (.callInfo pid cid info))).activeCalls.find? (journalKey pid cid) =
        some e₁ → e₁.dbKey = e.dbKey ∧ e₁.creation = e.creation := by
  have hask := (asks_fillIn w m info e s.requests).entry
  obtain ⟨hdb, hkey⟩ := saved_not_commits hnot s (fillIn w m info e s.requests).1
  refine ⟨?_, fun e₁ he₁ => ?_⟩
  · rw [step_info he]
    exact hdb
  obtain rfl := Option.some.inj ((find?_info he).symm.trans he₁)
  refine ⟨hkey.trans hask.dbKey, Eq.trans ?_ hask.creation⟩
  exact congrArg (·.2.2.1) (saves_saved w m s (fillIn w m info e s.requests).1).entry.2

theorem keepsName_of_none {ev : AppEvent} {n : String} (hnone : s.storedAt k side = none)
    (hname : (s.step w ev).nameAt k side = some n) (hn : n ≠ "") : KeepsName w k side s ev := by
  refine ⟨fun _ _ _ hempty => ?_, fun x hx => ?_⟩
  · rw [hname] at hempty
    exact hn (Option.some.inj hempty)
  · rw [hnone] at hx
    cases hx

theorem orderFree_first (hwf : JournalDb.WF s.db) (hr : s.responses = r :: rp)
    (hinfo : info.name r.userData ≠ "") (h : s.Reaches r (journalKey pid cid))
    (h' : (s.step w (.call m (.callInfo pid cid info))).Reaches r (journalKey pid cid))
    (h0 : r.callId = 0) (he : s.activeCalls.find? (journalKey pid cid) = some e)
    (hc : Current w s r.userData e) :
    OrderFree w (journalKey pid cid) r.userData s (.call m (.callInfo pid cid info))
      (.deliver m') ↔ r.sn ≠ "" := by
  have hdb : e.dbKey = 0 := (h.dbKey he).trans h0
  have hnot := h'.not_commits hwf h0 he hdb hc
  have hr₁ := (responses_info (w := w) (m := m) pid cid info).trans hr
  obtain ⟨hkept, hsame⟩ := info_not_commits info hnot he
  -- the call info, and then the response
  have hinfo₁ := renamed_info (m := m) hwf he (.inr hnot) hc info
  obtain ⟨e₁, he₁, hdb₁, hc₁⟩ := hinfo₁.current
  obtain ⟨o₂, ho₂, hname₂, hstored₂, -, -⟩ :=
    deliver_first (m := m') (wf_step (w := w) hwf _) hr₁ h' he₁ hc₁
  -- the response, and then the call info
  obtain ⟨o₁, ho₁, hname₁, hstored₁, hfind₁, hcurrent₁⟩ := deliver_first (m := m') hwf hr h he hc
  have hinfo₂ := renamed_info (m := m) (wf_step (w := w) hwf _) hfind₁ (.inr hnot) hcurrent₁ info
  have hsn₁ : o₁.entry.name r.userData = r.sn := by
    rw [ho₁, saved_name, setName_name]
  rw [hsn₁] at hinfo₂
  constructor
  · exact fun hfree => hfree.sn_ne hname₂ hinfo₂.name hinfo
  · intro hsn
    have hnone : s.storedAt (journalKey pid cid) r.userData = none := by
      rw [storedAt_of he, hdb, rowName_zero hwf]
    have hnone₁ := hinfo₁.stored
    rw [if_neg hnot, hnone] at hnone₁
    rw [if_neg hsn] at hinfo₂
    refine ⟨?_, ?_, ⟨hinfo₁.keeps (filled_ne hinfo), keepsName_of_none hnone₁ hname₂ hsn, trivial⟩,
      ⟨keepsName_of_none hnone hname₁ hsn, hinfo₂.keeps hsn, trivial⟩⟩
    · rw [run_cons, run_cons, run_nil, run_cons, run_cons, run_nil, hname₂, hinfo₂.name]
    · rw [run_cons, run_cons, run_nil, run_cons, run_cons, run_nil, hinfo₂.stored, if_neg hnot,
        hstored₁, hstored₂, ho₁, ho₂]
      have hrel := relabelled_setName r.userData r.sn e
      have hrel₁ := relabelled_setName r.userData r.sn e₁
      refine rowName_saved_first hwf hkept (hrel.dbKey.trans hdb) ?_
        (hc.dirty hrel.edited hdb) (hc₁.dirty hrel₁.edited (hdb₁.trans hdb)) ?_ ?_
      · exact hrel₁.dbKey.trans (hdb₁.trans hdb)
      · exact hrel₁.creation.trans ((hsame e₁ he₁).2.trans hrel.creation.symm)
      · rw [setName_name, setName_name]

/-- **The order makes no difference, and no name is lost, exactly when the contact has a name and
the save after the response does not fail alone**, or leaves the same name by chance. -/
theorem orderFree_iff (hwf : JournalDb.WF s.db) (hr : s.responses = r :: rp)
    (hinfo : info.name r.userData ≠ "") (h : s.Reaches r (journalKey pid cid))
    (h' : (s.step w (.call m (.callInfo pid cid info))).Reaches r (journalKey pid cid))
    (he : s.activeCalls.find? (journalKey pid cid) = some e) (hc : Current w s r.userData e) :
    OrderFree w (journalKey pid cid) r.userData s (.call m (.callInfo pid cid info))
        (.deliver m') ↔
      r.sn ≠ "" ∧ ((∃ row ∈ s.db.calls, row.id = r.callId) → CommitsAt w m → ¬ CommitsAt w m' →
        toUTF8 (if e.name r.userData = "" then info.name r.userData else e.name r.userData) =
          toUTF8 r.sn) := by
  by_cases h0 : r.callId = 0
  · rw [orderFree_first hwf hr hinfo h h' h0 he hc, iff_self_and]
    rintro - ⟨row, hrow, hid⟩
    exact absurd (hid.trans h0) (ne_of_gt (hwf.ids row hrow).1)
  · exact orderFree_known hwf hr hinfo h h0 he hc

end

/-- A call from the number 12, for which a contact of the name `sn` is found. -/
def finding (sn : String) : List AppEvent :=
  [.call (.quiet 0) (.newCall 1 5 .incoming .offering),
    .call (.quiet 1) (.callInfo 1 5 ⟨"", "12", "", ""⟩), .work [knows "12" sn]]

def found (sn : String) : App := run (step .utc) (start .initial) (finding sn)

/-- The name of the contact is taken. -/
theorem orderFree_found : OrderFree .utc (journalKey 1 5) .caller (found "Alice")
    (.call (.quiet 2) (.callInfo 1 5 ⟨"", "", "", "Bob"⟩)) (.deliver (.quiet 3)) := by
  have hr : (found "Alice").responses = [⟨1, .caller, "Alice", 0⟩] := by decide +kernel
  have hreaches : (found "Alice").Reaches ⟨1, .caller, "Alice", 0⟩ (journalKey 1 5) := by
    decide +kernel
  obtain ⟨e, -, he⟩ := hreaches.find?
  have hwf : JournalDb.WF (found "Alice").db :=
    ⟨by decide +kernel, by decide +kernel, by decide +kernel⟩
  have hapart : Along (Noted.step .utc) Apart (.start .initial) (finding "Alice") := by
    decide +kernel
  exact (orderFree_iff hwf hr (by decide) hreaches (by decide +kernel) he
    (current_run .utc .initial hapart .caller he)).mpr
      ⟨by decide, fun _ _ hm => absurd (by decide : CommitsAt .utc (.quiet 3)) hm⟩

/-- What comes first, a call info with the name `Bob` or the response, and what the journal then
holds. -/
def storedAfter (sn : String) (m' : Moment) (infoFirst : Bool) : Option String :=
  (run (step .utc) (found sn) (if infoFirst then
    [.call (.quiet 2) (.callInfo 1 5 ⟨"", "", "", "Bob"⟩), .deliver m']
  else [.deliver m', .call (.quiet 2) (.callInfo 1 5 ⟨"", "", "", "Bob"⟩)])).storedAt (journalKey 1 5) .caller

/-- The contact has no name: the plug-in's is lost when it came first.  The contact has one: it is
not stored when the save after the response fails, unless the call info is still to come. -/
theorem name_lost :
    storedAfter "" (.quiet 3) true = some "" ∧ storedAfter "" (.quiet 3) false = some "Bob" ∧
    ¬ OrderFree .utc (journalKey 1 5) .caller (found "")
      (.call (.quiet 2) (.callInfo 1 5 ⟨"", "", "", "Bob"⟩)) (.deliver (.quiet 3)) ∧
    let m' : Moment := { Moment.quiet 3 with saveFault := some 0 }
    storedAfter "Alice" m' true = some "Bob" ∧ storedAfter "Alice" m' false = some "Alice" ∧
    ¬ OrderFree .utc (journalKey 1 5) .caller (found "Alice")
      (.call (.quiet 2) (.callInfo 1 5 ⟨"", "", "", "Bob"⟩)) (.deliver m') := by
  have hempty : storedAfter "" (.quiet 3) true = some "" := by decide +kernel
  have hempty' : storedAfter "" (.quiet 3) false = some "Bob" := by decide +kernel
  have hfails : storedAfter "Alice" { Moment.quiet 3 with saveFault := some 0 } true =
      some "Bob" := by decide +kernel
  have hfails' : storedAfter "Alice" { Moment.quiet 3 with saveFault := some 0 } false =
      some "Alice" := by decide +kernel
  refine ⟨hempty, hempty', fun h => ?_, hfails, hfails', fun h => ?_⟩
  · exact absurd (hempty.symm.trans (h.stored.trans hempty')) (by decide)
  · exact absurd (hfails.symm.trans (h.stored.trans hfails')) (by decide)

end App

end Cmon
