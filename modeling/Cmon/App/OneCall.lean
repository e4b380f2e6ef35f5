import Cmon.App.Keys

/-!
# App — one call

What a run looks like from one of its calls.  `OneCall` is the call's active entry, while it has
one, and its row, both without their key and address; `OneCall.step` is what an event of the call
does to them.  Which events of a run are those of the call under the plug-in's key `k` whose row
has the id `key` is `ownEvents`: the statuses and infos under `k`, and the responses that carry
`key`.

`Shows` says that a state of the application shows the call so.  `Shows.steps`: as long as no
save fails, nothing is purged and `k` is not announced again, every event keeps it so, an event
of the call by its step and any other event by leaving the call alone.
-/

namespace Cmon
open Library

/-- Saves commit, and purge nothing. -/
structure Moment.Calm (m : Moment) : Prop where
  saveFault : m.saveFault = none
  byAge : m.prefs.delJournalByAge = false
  byCount : m.prefs.delJournalByCount = false

instance (m : Moment) : Decidable m.Calm :=
  decidable_of_iff (m.saveFault = none ∧ m.prefs.delJournalByAge = false ∧
    m.prefs.delJournalByCount = false) ⟨fun ⟨a, b, c⟩ => ⟨a, b, c⟩, fun ⟨a, b, c⟩ => ⟨a, b, c⟩⟩

/-- An entry without its key and its address. -/
def JournalEntry.bare (e : JournalEntry) : JournalEntry := { e with self := 0, dbKey := 0 }

/-- A row without its id. -/
def CallRow.bare (r : CallRow) : CallRow := { r with id := 0 }

/-- An event of a call: a status or an info of the plug-in, or a name that was found. -/
inductive OwnEvent where
  | status (m : Moment) (status : CallStatus)
  | info (m : Moment) (info : CallInfo)
  | found (m : Moment) (data : ResolveFor) (sn : String)

/-- A call as its row and its entry show it. -/
structure OneCall where
  entry : Option JournalEntry
  row : CallRow

namespace OneCall

/-- The entry `e` of the call is saved. -/
def save (p : Platform) (c : OneCall) (e : JournalEntry) : OneCall :=
  if e.dirty then ⟨some (e.setDirty false), JournalDb.rowOf p 0 e⟩ else ⟨some e, c.row⟩

/-- The call is announced, and its row inserted. -/
def start (p : Platform) (m : Moment) (pid cid : Nat) (type : CallType) (status : CallStatus) :
    OneCall :=
  let e := (JournalEntry.create 0 pid cid (callType2JournalType type) m.now).setState m.now
    (callState2JournalState status)
  ⟨some (e.setDirty false), JournalDb.rowOf p 0 e⟩

def step (w : World) (c : OneCall) : OwnEvent → OneCall
  | .status m status =>
      match c.entry with
      | none => c
      | some e =>
          if status = .idle then { c with entry := none }
          else c.save w.platform (e.setState m.now (callState2JournalState status))
  | .info m info =>
      match c.entry with
      | none => c
      | some e => c.save w.platform (App.fillIn w m info e []).1
  | .found m data sn =>
      match c.entry with
      | some e => c.save w.platform (App.setName data sn e)
      | none =>
          -- the row is read back, unless the `select` fails
          if m.readFault then c
          else
            let e := JournalDb.loadRow w.platform (.create 0 0 0 .unknown m.now) c.row
            { c with row := (c.save w.platform (App.setName data sn e)).row }

end OneCall

namespace App

/-- The event is one of the call with the key `k` and the row `key`. -/
def ownEvent (k : JournalKey) (key : Int) (s : App) : AppEvent → Option OwnEvent
  | .call m (.callStatus pid cid status) =>
      if journalKey pid cid = k then some (.status m status) else none
  | .call m (.callInfo pid cid info) =>
      if journalKey pid cid = k then some (.info m info) else none
  | .call _ (.newCall _ _ _ _) | .work _ => none
  | .deliver m =>
      match s.responses with
      | [] => none
      | r :: _ => if r.callId = key then some (.found m r.userData r.sn) else none

/-- The events of the call in a run. -/
def ownEvents (w : World) (k : JournalKey) (key : Int) : App → List AppEvent → List OwnEvent
  | _, [] => []
  | s, ev :: evs => (s.ownEvent k key ev).toList ++ ownEvents w k key (s.step w ev) evs

end App

/-- The event announces a call under the key `k`. -/
def AppEvent.Announces (k : JournalKey) : AppEvent → Prop
  | .call _ (.newCall pid cid _ _) => journalKey pid cid = k
  | _ => False

instance (k : JournalKey) : ∀ ev : AppEvent, Decidable (ev.Announces k)
  | .call _ (.newCall pid cid _ _) => inferInstanceAs (Decidable (journalKey pid cid = k))
  | .call _ (.callStatus _ _ _) | .call _ (.callInfo _ _ _) | .work _ | .deliver _ =>
      .isFalse not_false

/-- The saves of the event commit, and purge nothing. -/
def AppEvent.Calm (ev : AppEvent) : Prop := ∀ m ∈ ev.moment?, m.Calm

instance (ev : AppEvent) : Decidable ev.Calm :=
  inferInstanceAs (Decidable (∀ m ∈ ev.moment?, m.Calm))

/-! ### The events of a call -/

theorem journalKey_inj {pid cid pid' cid' : Nat} :
    journalKey pid cid = journalKey pid' cid' ↔ pid = pid' ∧ cid = cid' :=
  Prod.mk_inj

namespace App
variable {w : World} {key : Int}

theorem ownEvents_append {k : JournalKey} (s : App) (evs evs' : List AppEvent) :
    ownEvents w k key s (evs ++ evs') =
      ownEvents w k key s evs ++ ownEvents w k key (run (App.step w) s evs) evs' := by
  induction evs generalizing s with
  | nil => rfl
  | cons ev evs ih => simp [ownEvents, ih]

theorem ownEvent_eq_status {pid cid : Nat} {s : App} {ev : AppEvent} {m : Moment}
    {status : CallStatus} :
    s.ownEvent (journalKey pid cid) key ev = some (.status m status) ↔
      ev = .call m (.callStatus pid cid status) := by
  match ev with
  | .call _ (.callStatus pid' cid' status') =>
      by_cases h : journalKey pid' cid' = journalKey pid cid
      · obtain ⟨rfl, rfl⟩ := journalKey_inj.mp h
        simp [ownEvent]
      · rw [ownEvent, if_neg h]
        refine iff_of_false nofun ?_
        rintro ⟨⟩
        exact h rfl
  | .call _ (.callInfo pid' cid' _) =>
      refine iff_of_false (fun h => ?_) nofun
      rw [ownEvent] at h
      split at h <;> cases h
  | .call _ (.newCall _ _ _ _) | .work _ => exact iff_of_false nofun nofun
  | .deliver _ =>
      refine iff_of_false (fun h => ?_) nofun
      rw [ownEvent] at h
      split at h
      · cases h
      · split at h <;> cases h

/-- The statuses among the events of a call are those under its key. -/
theorem status_mem_ownEvents {pid cid : Nat} {s : App} {evs : List AppEvent} {m : Moment}
    {status : CallStatus} :
    .status m status ∈ ownEvents w (journalKey pid cid) key s evs ↔
      .call m (.callStatus pid cid status) ∈ evs := by
  induction evs generalizing s with
  | nil => exact iff_of_false List.not_mem_nil List.not_mem_nil
  | cons ev evs ih =>
      rw [ownEvents, List.mem_append, List.mem_cons, ih, Option.mem_toList, ownEvent_eq_status,
        eq_comm]

end App

/-! ### Without key and address -/

namespace JournalEntry
variable (e : JournalEntry)

@[simp] theorem bare_dirty : e.bare.dirty = e.dirty := rfl

theorem bare_enterState (now : Int) (s : EntryState) :
    (e.enterState now s).bare = e.bare.enterState now s := by
  simp only [enterState, show e.bare.type = e.type from rfl]
  cases e.type <;> cases s <;> first | rfl | exact apply_ite bare _ _ _

theorem bare_setState (now : Int) (s : EntryState) :
    (e.setState now s).bare = e.bare.setState now s :=
  congrArg (fun e : JournalEntry => { e with state := s }) (bare_enterState _ now s)

theorem bare_create (self pid cid : Nat) (type : EntryType) (now : Int) :
    (create self pid cid type now).bare = create 0 pid cid type now :=
  apply_ite bare _ _ _

/-- A row that is read back without its id gives the entry without its key. -/
theorem bare_loadRow (p : Platform) (self : Nat) (now : Int) (r : CallRow) :
    (JournalDb.loadRow p (create self 0 0 .unknown now) r).bare =
      JournalDb.loadRow p (create 0 0 0 .unknown now) r.bare := rfl

end JournalEntry

namespace App
open JournalEntry

variable (w : World) (m : Moment)

theorem bare_setName (data : ResolveFor) (sn : String) (e : JournalEntry) :
    (setName data sn e).bare = setName data sn e.bare := by
  cases data <;> rfl

/-- What is done with a number depends on the values of the entry alone. -/
theorem FillsIn.bare {w : World} {m : Moment} {info : CallInfo} {side : ResolveFor}
    {q q' r r' : Filling} (h : FillsIn w m info side q q') (h' : FillsIn w m info side r r')
    (hq : q.1.bare = r.1) : q'.1.bare = r'.1 := by
  have hdue : Due info r.1 side ↔ Due info q.1 side := by
    rw [← hq]
    cases side <;> rfl
  have hname : r.1.name side = q.1.name side := by
    rw [← hq]
    cases side <;> rfl
  cases h with
  | nothing h =>
      cases h' with
      | nothing => exact hq
      | kept h' | asked h' => exact absurd (hdue.mp h') h
  | kept h hn =>
      cases h' with
      | nothing h' => exact absurd (hdue.mpr h) h'
      | kept =>
          rw [← hq]
          cases side <;> rfl
      | asked _ hn' => exact absurd (hname ▸ hn') hn
  | asked h hn =>
      cases h' with
      | nothing h' => exact absurd (hdue.mpr h) h'
      | kept _ hn' => exact absurd (hname ▸ hn) hn'
      | asked =>
          rw [← hq]
          cases side <;> rfl

theorem bare_fillNames (info : CallInfo) (e : JournalEntry) :
    (fillNames info e).bare = fillNames info e.bare := by
  by_cases h₁ : e.calledName = "" <;> by_cases h₂ : e.callerName = "" <;>
    simp [fillNames, bare, setCalledName, setCallerName, mark, h₁, h₂]

/-- What an info makes of an entry depends on its values alone. -/
theorem bare_fillIn (info : CallInfo) (e : JournalEntry) (rs rs' : List Request) :
    (fillIn w m info e rs).1.bare = (fillIn w m info e.bare rs').1 := by
  obtain ⟨q, hcalled, hcaller⟩ := fillIn_sides w m info e rs
  obtain ⟨r, hcalled', hcaller'⟩ := fillIn_sides w m info e.bare rs'
  exact hcaller.bare hcaller' (hcalled.bare hcalled' (bare_fillNames info e))

end App

/-! ### The state of the application -/

/-- In the state `s` the call under `k` whose row is `key` looks like `c`. -/
structure App.Shows (k : JournalKey) (key : Int) (s : App) (c : OneCall) : Prop where
  wf : JournalDb.WF s.db
  lt : key < s.db.nextcallid
  row : ∃ r ∈ s.db.calls, r.id = key ∧ r.bare = c.row
  entry : (s.activeCalls.find? k).map (·.bare) = c.entry
  own : ∀ e, s.activeCalls.find? k = some e → e.dbKey = key
  others : ∀ j e, s.activeCalls.find? j = some e → j ≠ k → e.dbKey ≠ key

namespace App
variable {w : World} {m : Moment} {s s' : App} {k : JournalKey} {key : Int} {c : OneCall}
  {e e' : JournalEntry}

theorem purgeEntries_calm (hm : m.Calm) (p : Platform) (db : JournalDb) :
    JournalDb.purgeEntries p m db = db := by
  rw [JournalDb.purgeEntries, hm.byAge, hm.byCount]
  rfl

/-- An undisturbed save of an entry with a key. -/
theorem saved_calm (hok : w.dbIsOk = true) (hm : m.Calm) (h0 : e.dbKey ≠ 0) :
    saved w m s e = if e.dirty then ⟨JournalDb.updated w.platform s.db e, e.setDirty false, true⟩
      else ⟨s.db, e, false⟩ := by
  rw [saved, hok]
  split
  · rename_i hd
    rw [JournalDb.insertUpdateEntry_free hd hm.saveFault, if_neg h0]
  · rename_i hd
    rw [JournalDb.insertUpdateEntry, if_neg hd]

/-- An undisturbed save leaves the rows of other entries alone. -/
theorem mem_saved_calm (hm : m.Calm) {r : CallRow} (hr : r ∈ s.db.calls) (he : r.id ≠ e.dbKey) :
    r ∈ (saved w m s e).db.calls := by
  have h := saves_saved w m s e
  generalize saved w m s e = o at h
  cases h with
  | inserted =>
      rw [purgeEntries_calm hm]
      exact List.mem_append_left _ hr
  | updated => exact List.mem_map.mpr ⟨r, hr, if_neg he⟩
  | _ => exact hr

namespace Shows

/-- Nothing of the call has changed. -/
theorem congr (h : Shows k key s c) (hdb : s'.db = s.db) (ha : s'.activeCalls = s.activeCalls) :
    Shows k key s' c := by
  refine ⟨?_, ?_, ?_, ?_, ?_, ?_⟩
  · rw [hdb]; exact h.wf
  · rw [hdb]; exact h.lt
  · rw [hdb]; exact h.row
  · rw [ha]; exact h.entry
  · rw [ha]; exact h.own
  · rw [ha]; exact h.others

theorem key_ne_zero (h : Shows k key s c) : key ≠ 0 := by
  obtain ⟨r, hr, rfl, -⟩ := h.row
  exact ne_of_gt (h.wf.ids r hr).1

/-- The call has one row. -/
theorem rows (h : Shows k key s c) :
    (s.db.calls.filter fun r => r.id = key).map (·.bare) = [c.row] := by
  obtain ⟨r, hr, hid, hrow⟩ := h.row
  rw [Table.filter_key_of_nodup h.wf.nodup hr hid, List.map_singleton, hrow]

/-! ### An event of another call -/

/-- The database after another entry is saved. -/
theorem save_other (h : Shows k key s c) (hm : m.Calm) (he : e.dbKey ≠ key) :
    JournalDb.WF (saved w m s e).db ∧ key < (saved w m s e).db.nextcallid ∧
      (∃ r ∈ (saved w m s e).db.calls, r.id = key ∧ r.bare = c.row) ∧
        (saved w m s e).entry.dbKey ≠ key := by
  have hs := saves_saved w m s e
  obtain ⟨r, hr, hid, hrow⟩ := h.row
  refine ⟨hs.wf h.wf, lt_of_lt_of_le h.lt hs.nextcallid_le,
    ⟨r, mem_saved_calm hm hr (hid ▸ he.symm), hid, hrow⟩, ?_⟩
  rcases hs.dbKey with hk | ⟨-, hk⟩
  · rwa [hk]
  · rw [hk]
    exact ne_of_gt h.lt

theorem edit_other (h : Shows k key s c) (hm : m.Calm) {j : JournalKey}
    (he : s.activeCalls.find? j = some e) (hj : j ≠ k) (hd : e'.dbKey = e.dbKey) :
    Shows k key (s.edit w m j e') c := by
  obtain ⟨hwf, hlt, hrow, hkey⟩ := h.save_other (w := w) hm (hd ▸ h.others j e he hj)
  have hk : (s.edit w m j e').activeCalls.find? k = s.activeCalls.find? k :=
    OrderedMap.find?_modify_of_ne _ hj.symm _
  refine ⟨hwf, hlt, hrow, hk ▸ h.entry, hk ▸ h.own, fun i e₁ hi hne => ?_⟩
  rcases find?_edit he hi with ⟨-, rfl⟩ | ⟨-, hi⟩
  · exact hkey
  · exact h.others i e₁ hi hne

theorem copy_other (h : Shows k key s c) (hm : m.Calm) (he : e.dbKey ≠ key) :
    Shows k key (s.editCopy w m e) c := by
  obtain ⟨hwf, hlt, hrow, -⟩ := h.save_other (w := w) hm he
  exact ⟨hwf, hlt, hrow, h.entry, h.own, h.others⟩

theorem created_other (h : Shows k key s c) (hm : m.Calm) {pid cid : Nat} {type : CallType}
    {status : CallStatus} (hne : journalKey pid cid ≠ k) :
    Shows k key (s.onNewCall w m pid cid type status) c := by
  have h0 : (s.newEntry m pid cid type status).dbKey ≠ key := by
    rw [newEntry_dbKey]
    exact h.key_ne_zero.symm
  obtain ⟨hwf, hlt, hrow, hkey⟩ := h.save_other (w := w) hm h0
  have hk : (s.onNewCall w m pid cid type status).activeCalls.find? k = s.activeCalls.find? k :=
    OrderedMap.find?_insert_of_ne _ hne.symm _
  refine ⟨hwf, hlt, hrow, hk ▸ h.entry, hk ▸ h.own, fun i e₁ hi hi' => ?_⟩
  rcases find?_onNewCall hi with ⟨-, rfl⟩ | hi
  · exact hkey
  · exact h.others i e₁ hi hi'

theorem ended_other (h : Shows k key s c) {j : JournalKey} (hj : j ≠ k) :
    Shows k key { s with activeCalls := s.activeCalls.erase j } c := by
  have hk : (s.activeCalls.erase j).find? k = s.activeCalls.find? k :=
    OrderedMap.find?_erase_of_ne _ hj.symm
  exact ⟨h.wf, h.lt, h.row, hk ▸ h.entry, hk ▸ h.own,
    fun i e hi => h.others i e (find?_ended hi)⟩

/-! ### An event of the call -/

/-- The database after the entry of the call is saved. -/
theorem save_own (h : Shows k key s c) (hok : w.dbIsOk = true) (hm : m.Calm) (he : e.dbKey = key) :
    JournalDb.WF (saved w m s e).db ∧ key < (saved w m s e).db.nextcallid ∧
      (∃ r ∈ (saved w m s e).db.calls, r.id = key ∧ r.bare = (c.save w.platform e.bare).row) ∧
        some (saved w m s e).entry.bare = (c.save w.platform e.bare).entry ∧
          (saved w m s e).entry.dbKey = key := by
  have hs := saves_saved w m s e
  refine ⟨hs.wf h.wf, lt_of_lt_of_le h.lt hs.nextcallid_le, ?_⟩
  rw [saved_calm hok hm (he ▸ h.key_ne_zero), OneCall.save, JournalEntry.bare_dirty]
  obtain ⟨r, hr, hid, hrow⟩ := h.row
  by_cases hd : e.dirty = true
  · rw [if_pos hd, if_pos hd]
    refine ⟨⟨JournalDb.rowOf w.platform e.dbKey e, ?_, he, rfl⟩, rfl, he⟩
    exact Table.mem_update_self (k := e.dbKey) hr (hid.trans he.symm)
  · rw [if_neg hd, if_neg hd]
    exact ⟨⟨r, hr, hid, hrow⟩, rfl, he⟩

theorem edit_own (h : Shows k key s c) (hok : w.dbIsOk = true) (hm : m.Calm)
    (he : s.activeCalls.find? k = some e) (hd : e'.dbKey = e.dbKey) :
    Shows k key (s.edit w m k e') (c.save w.platform e'.bare) := by
  obtain ⟨hwf, hlt, hrow, hentry, hkey⟩ := h.save_own hok hm (hd.trans (h.own e he))
  have hk := find?_edit_self (w := w) (m := m) he e'
  refine ⟨hwf, hlt, hrow, ?_, fun e₁ hi => ?_, fun i e₁ hi hne => ?_⟩
  · rw [hk]
    exact hentry
  · rw [hk] at hi
    exact Option.some.inj hi ▸ hkey
  · rcases find?_edit he hi with ⟨rfl, -⟩ | ⟨-, hi⟩
    · exact absurd rfl hne
    · exact h.others i e₁ hi hne

theorem copy_own (h : Shows k key s c) (hok : w.dbIsOk = true) (hm : m.Calm) (he : e.dbKey = key) :
    Shows k key (s.editCopy w m e) { c with row := (c.save w.platform e.bare).row } := by
  obtain ⟨hwf, hlt, hrow, -, -⟩ := h.save_own hok hm he
  exact ⟨hwf, hlt, hrow, h.entry, h.own, h.others⟩

theorem ended_own (h : Shows k key s c) :
    Shows k key { s with activeCalls := s.activeCalls.erase k } { c with entry := none } := by
  have hk := OrderedMap.find?_erase_self s.activeCalls k
  refine ⟨h.wf, h.lt, h.row, ?_, fun e he => ?_, fun i e hi => h.others i e (find?_ended hi)⟩
  · exact congrArg (Option.map (·.bare)) hk
  · exact nomatch hk.symm.trans he

/-! ### The announcement -/

/-- A new call under a key that is not in use. -/
theorem announced (h : KeysPassed s) (hok : w.dbIsOk = true) (hm : m.Calm) {pid cid : Nat}
    (hk : s.activeCalls.find? (journalKey pid cid) = none) (type : CallType)
    (status : CallStatus) :
    Shows (journalKey pid cid) s.db.nextcallid (s.onNewCall w m pid cid type status)
      (.start w.platform m pid cid type status) := by
  have hsaved : saved w m s (s.newEntry m pid cid type status) =
      ⟨JournalDb.added w.platform s.db (s.newEntry m pid cid type status),
        ((s.newEntry m pid cid type status).setDbKey s.db.nextcallid).setDirty false, true⟩ := by
    rw [saved, hok, JournalDb.insertUpdateEntry_free (newEntry_dirty ..) hm.saveFault,
      if_pos (newEntry_dbKey ..), purgeEntries_calm hm]
  have hbare : (s.newEntry m pid cid type status).bare = (JournalEntry.create 0 pid cid
      (callType2JournalType type) m.now).setState m.now (callState2JournalState status) := by
    rw [newEntry, JournalEntry.bare_setState, JournalEntry.bare_create]
  have hdb : (s.onNewCall w m pid cid type status).db =
      JournalDb.added w.platform s.db (s.newEntry m pid cid type status) :=
    congrArg (·.db) hsaved
  have hentry : (s.onNewCall w m pid cid type status).activeCalls.find? (journalKey pid cid) =
      some (((s.newEntry m pid cid type status).setDbKey s.db.nextcallid).setDirty false) := by
    rw [show (s.onNewCall w m pid cid type status).activeCalls.find? (journalKey pid cid) = _ from
      OrderedMap.find?_insert_self _ _ _, hk]
    exact congrArg (fun o : JournalDb.Saved => some o.entry) hsaved
  refine ⟨hdb ▸ h.wf.added _ _, ?_,
    ⟨JournalDb.rowOf w.platform s.db.nextcallid (s.newEntry m pid cid type status), ?_, rfl, ?_⟩,
    ?_, fun e he => ?_, fun j e hj hne => ?_⟩
  · rw [hdb]
    exact Int.lt_succ _
  · rw [hdb]
    exact List.mem_append_right _ (List.mem_singleton_self _)
  · rw [OneCall.start, ← hbare]
    rfl
  · rw [hentry, OneCall.start, ← hbare]
    rfl
  · rw [hentry] at he
    cases he
    rfl
  · rcases find?_onNewCall hj with ⟨rfl, -⟩ | hj
    · exact absurd rfl hne
    · exact ne_of_lt (h.entries j e hj)

/-! ### The steps -/

theorem callStatus (h : Shows k key s c) (hok : w.dbIsOk = true) (hm : m.Calm) (pid cid : Nat)
    (status : CallStatus) : Shows k key (s.onCallStateUpdate w m pid cid status)
      (run (OneCall.step w) c (s.ownEvent k key (.call m (.callStatus pid cid status))).toList) := by
  have hentry := h.entry
  simp only [onCallStateUpdate, ownEvent]
  by_cases hk : journalKey pid cid = k
  · rw [if_pos hk, hk]
    cases he : s.activeCalls.find? k with
    | none =>
        rw [he] at hentry
        simpa [OneCall.step, ← hentry] using h
    | some e =>
        rw [he] at hentry
        simp only [Option.toList_some, run_cons, run_nil, OneCall.step, ← hentry, Option.map_some]
        split
        · exact h.ended_own
        · rw [← JournalEntry.bare_setState]
          exact h.edit_own hok hm he (JournalEntry.setState_dbKey _ _ _)
  · rw [if_neg hk]
    cases he : s.activeCalls.find? (journalKey pid cid) with
    | none => exact h
    | some e =>
        dsimp only
        split
        · exact h.ended_other hk
        · exact h.edit_other hm he hk (JournalEntry.setState_dbKey _ _ _)

theorem callInfo (h : Shows k key s c) (hok : w.dbIsOk = true) (hm : m.Calm) (pid cid : Nat)
    (info : CallInfo) : Shows k key (s.onCallInfoUpdate w m pid cid info)
      (run (OneCall.step w) c (s.ownEvent k key (.call m (.callInfo pid cid info))).toList) := by
  have hentry := h.entry
  simp only [onCallInfoUpdate, ownEvent]
  by_cases hk : journalKey pid cid = k
  · rw [if_pos hk, hk]
    cases he : s.activeCalls.find? k with
    | none =>
        rw [he] at hentry
        simpa [OneCall.step, ← hentry] using h
    | some e =>
        rw [he] at hentry
        simp only [Option.toList_some, run_cons, run_nil, OneCall.step, ← hentry, Option.map_some]
        rw [← bare_fillIn w m info e s.requests []]
        have hr : Shows k key { s with requests := (fillIn w m info e s.requests).2 } c :=
          h.congr rfl rfl
        exact hr.edit_own hok hm he (asks_fillIn w m info e s.requests).entry.dbKey
  · rw [if_neg hk]
    cases he : s.activeCalls.find? (journalKey pid cid) with
    | none => exact h
    | some e =>
        have hr : Shows k key { s with requests := (fillIn w m info e s.requests).2 } c :=
          h.congr rfl rfl
        exact hr.edit_other hm he hk (asks_fillIn w m info e s.requests).entry.dbKey

/-- The active entry with the call's key is the call's. -/
theorem findActiveEntry_own (h : Shows k key s c) :
    s.findActiveEntry key = (s.activeCalls.find? k).map fun e => (k, e) := by
  cases hf : s.findActiveEntry key with
  | none =>
      cases he : s.activeCalls.find? k with
      | none => rfl
      | some e =>
          have := List.find?_eq_none.mp hf (k, e) (OrderedMap.mem_entries.mpr he)
          exact absurd (decide_eq_true (h.own e he)) this
  | some q =>
      obtain ⟨j, e⟩ := q
      have he := findActiveEntry_find? hf
      by_cases hj : j = k
      · subst hj
        rw [he]
        rfl
      · exact absurd (findActiveEntry_dbKey hf) (h.others j e he hj)

/-- What `getEntry` reads of the call. -/
theorem getEntry_own (h : Shows k key s c) (hok : w.dbIsOk = true) (e₀ : JournalEntry) :
    m.readFault = true ∧ s.db.getEntry w.platform w.dbIsOk m key e₀ = none ∨
      m.readFault = false ∧ ∃ r, r.id = key ∧ r.bare = c.row ∧
        s.db.getEntry w.platform w.dbIsOk m key e₀ = some (JournalDb.loadRow w.platform e₀ r) := by
  obtain ⟨r, hr, hid, hrow⟩ := h.row
  rw [JournalDb.getEntry, hok]
  cases hf : m.readFault with
  | true => exact .inl ⟨rfl, rfl⟩
  | false =>
      refine .inr ⟨rfl, ?_⟩
      cases he : s.db.calls.find? (·.id = key) with
      | none => exact absurd (decide_eq_true hid) (List.find?_eq_none.mp he r hr)
      | some r' =>
          have hid' : r'.id = key := of_decide_eq_true (List.find?_some he :)
          -- the ids are unique
          have hsame := List.inj_on_of_nodup_map h.wf.nodup (List.mem_of_find?_eq_some he) hr
            (hid'.trans hid.symm)
          exact ⟨r', hid', hsame ▸ hrow, rfl⟩

theorem answered (h : Shows k key s c) (hok : w.dbIsOk = true) (hm : m.Calm) (r : Response) :
    Shows k key (s.onResolverResponse w m r)
      (if r.callId = key then c.step w (.found m r.userData r.sn) else c) := by
  have hentry := h.entry
  rw [onResolverResponse]
  by_cases hk : r.callId = key
  · rw [if_pos hk, hk, h.findActiveEntry_own]
    cases he : s.activeCalls.find? k with
    | some e =>
        rw [he] at hentry
        simp only [OneCall.step, ← hentry, Option.map_some]
        rw [← bare_setName]
        exact h.edit_own hok hm he (relabelled_setName _ _ _).dbKey
    | none =>
        rw [he] at hentry
        simp only [OneCall.step, ← hentry, Option.map_none]
        rcases h.getEntry_own hok (.create s.allocated 0 0 .unknown m.now) with
          ⟨hf, hget⟩ | ⟨hf, row, hid, hrow, hget⟩
        · rw [hget, if_pos hf]
          exact h
        · rw [hget, if_neg (by simp [hf]), ← hrow,
            ← JournalEntry.bare_loadRow w.platform s.allocated m.now row, ← bare_setName]
          have hcopy := h.copy_own hok hm
            (e := setName r.userData r.sn (JournalDb.loadRow w.platform
              (.create s.allocated 0 0 .unknown m.now) row))
            ((relabelled_setName _ _ _).dbKey.trans hid)
          rwa [← hentry] at hcopy
  · rw [if_neg hk]
    split
    · rename_i j e he
      have hj : j ≠ k := fun e' => by
        subst e'
        exact hk ((findActiveEntry_dbKey he).symm.trans (h.own e (findActiveEntry_find? he)))
      exact h.edit_other hm (findActiveEntry_find? he) hj (relabelled_setName _ _ _).dbKey
    · split
      · rename_i e he
        refine h.copy_other hm ?_
        rw [(relabelled_setName _ _ _).dbKey, JournalDb.getEntry_dbKey he]
        exact hk
      · exact h

/-- **What an event does to a call.** -/
theorem step (h : Shows k key s c) (hok : w.dbIsOk = true) {ev : AppEvent} (hc : ev.Calm)
    (hn : ¬ ev.Announces k) : Shows k key (s.step w ev)
      (run (OneCall.step w) c (s.ownEvent k key ev).toList) := by
  match ev, hc, hn with
  | .call m (.newCall pid cid type status), hc, hn => exact h.created_other (hc m rfl) hn
  | .call m (.callStatus pid cid status), hc, _ => exact h.callStatus hok (hc m rfl) pid cid status
  | .call m (.callInfo pid cid info), hc, _ => exact h.callInfo hok (hc m rfl) pid cid info
  | .work resolvers, _, _ =>
      have ha := step_acts w s (.work resolvers)
      generalize s.step w (.work resolvers) = s' at ha
      cases ha with
      | worked => exact h.congr rfl rfl
  | .deliver m, hc, _ =>
      simp only [App.step, ownEvent]
      cases hr : s.responses with
      | nil => exact h
      | cons r rp =>
          have hrp : Shows k key { s with responses := rp } c := h.congr rfl rfl
          have ha := hrp.answered hok (hc m rfl) r
          by_cases hk : r.callId = key
          · simpa [hk] using ha
          · simpa [hk] using ha

/-- **What a run does to a call is what its own events do to it.** -/
theorem steps (h : Shows k key s c) (hok : w.dbIsOk = true) {evs : List AppEvent}
    (hc : ∀ ev ∈ evs, ev.Calm) (hn : ∀ ev ∈ evs, ¬ ev.Announces k) :
    Shows k key (run (App.step w) s evs)
      (run (OneCall.step w) c (ownEvents w k key s evs)) := by
  induction evs generalizing s c with
  | nil => exact h
  | cons ev evs ih =>
      rw [ownEvents, run_append]
      exact ih (h.step hok (hc ev (.head _)) (hn ev (.head _))) (fun ev he => hc ev (.tail _ he))
        fun ev he => hn ev (.tail _ he)

end Shows
end App
end Cmon
