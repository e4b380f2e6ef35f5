import Cmon.App.Isolation

/-!
# App — calls in absence

The filter "Calls in absence" of the journal and what it selects.  An incoming entry starts as
not reached, and its result changes once, when CONNECTED is delivered: `Absent` is the invariant
of `OneCall.step` this comes to, with the answer to whether that has happened.

* `absence_iff`: when an incoming call has ended, the filter selects its row exactly if CONNECTED
  was never delivered for it.
-/

namespace Cmon
open Library

/-- `(int) type`. -/
def EntryType.code : EntryType → Int
  | .unknown => 0
  | .incoming => 1
  | .outgoing => 2

/-- `(int) result`. -/
def EntryResult.code : EntryResult → Int
  | .unknown => 0
  | .ok => 1
  | .busy => 2
  | .notreached => 3
  | .failed => 4

/-- The condition of the filter: `(type == 1 and res == 3)`. -/
def CallRow.inAbsence (r : CallRow) : Bool := r.type.code == 1 && r.res.code == 3

theorem CallRow.inAbsence_iff {r : CallRow} :
    r.inAbsence = true ↔ r.type = .incoming ∧ r.res = .notreached := by
  cases ht : r.type <;> cases hr : r.res <;>
    simp [inAbsence, ht, hr, EntryType.code, EntryResult.code]

/-- `select … from calls where (type == 1 and res == 3)`. -/
def JournalDb.callsInAbsence (db : JournalDb) : List CallRow := db.calls.filter (·.inAbsence)

/-- CONNECTED is delivered. -/
def OwnEvent.Answers : OwnEvent → Prop
  | .status _ s => callState2JournalState s = .connected
  | _ => False

/-- The end of the call is delivered. -/
def OwnEvent.Ends : OwnEvent → Prop
  | .status _ s => s = .idle
  | _ => False

/-! ### States and results -/

theorem JournalEntry.setState_result {e : JournalEntry} (h : e.type = .incoming) (now : Int)
    (s : EntryState) : (e.setState now s).result =
      if s = .connected ∧ e.state ≠ .connected then .ok else e.result := by
  cases s <;> simp [setState, enterState, setDirty, h]
  · by_cases hs : e.state = .connected <;> simp [hs, setResult, setBeginNow]
  · split <;> rfl

namespace App

theorem FillsIn.state {w : World} {m : Moment} {info : CallInfo} {side : ResolveFor}
    {q q' : Filling} (h : FillsIn w m info side q q') : q'.1.state = q.1.state := by
  cases h with
  | nothing => rfl
  | kept | asked => cases side <;> rfl

theorem fillNames_state (info : CallInfo) (e : JournalEntry) :
    (fillNames info e).state = e.state := by
  rw [fillNames]
  split <;> split <;> rfl

theorem fillIn_state (w : World) (m : Moment) (info : CallInfo) (e : JournalEntry)
    (rs : List Request) : (fillIn w m info e rs).1.state = e.state := by
  obtain ⟨q, hcalled, hcaller⟩ := fillIn_sides w m info e rs
  rw [hcaller.state, hcalled.state, fillNames_state]

theorem setName_state (data : ResolveFor) (sn : String) (e : JournalEntry) :
    (setName data sn e).state = e.state := by
  cases data <;> rfl

end App

namespace OneCall
variable {w : World} {c : OneCall} {answered : Prop}

/-! ### While the call is active -/

/-- The call is incoming, and its row says that it was not reached exactly if it was not
`answered`; so does its entry, which has not been in the state CONNECTED before. -/
structure Absent (answered : Prop) (c : OneCall) : Prop where
  type : c.row.type = .incoming
  row : c.row.res = .notreached ↔ ¬ answered
  entry : ∀ e, c.entry = some e → e.type = .incoming ∧ e.result = c.row.res ∧
    (e.state = .connected → answered)

/-- A save of the changed entry. -/
theorem Absent.save (h : Absent answered c) {e e' : JournalEntry} (he : c.entry = some e)
    (hed : JournalEntry.Edited e e') (ht : e'.type = .incoming) {now : Prop}
    (hr : e'.result = .notreached ↔ ¬ now) (hs : e'.state = .connected → now) (p : Platform) :
    Absent now (c.save p e') := by
  rw [OneCall.save]
  split
  · refine ⟨ht, hr, ?_⟩
    rintro _ ⟨⟩
    exact ⟨ht, rfl, hs⟩
  · rename_i hd
    -- a clean entry has the result it had before, which is the row's
    have hres : e'.result = c.row.res :=
      (congrArg (·.2.1) (hed (by simpa using hd)).2).trans (h.entry e he).2.1
    refine ⟨h.type, hres ▸ hr, ?_⟩
    rintro _ ⟨⟩
    exact ⟨ht, hres, hs⟩

theorem Absent.congr (h : Absent answered c) {now : Prop} (hn : answered ↔ now) : Absent now c :=
  ⟨h.type, h.row.trans (not_congr hn), fun e he =>
    ⟨(h.entry e he).1, (h.entry e he).2.1, fun hs => hn.mp ((h.entry e he).2.2 hs)⟩⟩

/-- An event that does not end the call. -/
theorem Absent.step (h : Absent answered c) {e : JournalEntry} (he : c.entry = some e)
    {o : OwnEvent} (ho : ¬ o.Ends) :
    Absent (answered ∨ o.Answers) (c.step w o) ∧ ∃ e', (c.step w o).entry = some e' := by
  obtain ⟨ht, hr, hs⟩ := h.entry e he
  have hsave : ∀ e', ∃ e'', (c.save w.platform e').entry = some e'' := fun e' => by
    rw [OneCall.save]
    split <;> exact ⟨_, rfl⟩
  -- names and addresses leave the result and the state as they are
  have hrel : ∀ {e' : JournalEntry}, e.Relabelled e' → e'.state = e.state →
      Absent (answered ∨ False) (c.save w.platform e') := fun hrel hst => by
    refine (h.save he hrel.edited (hrel.type.trans ht) ?_ (hst ▸ hs) w.platform).congr
      (iff_of_eq (or_false _).symm)
    rw [hrel.result, hr]
    exact h.row
  cases o with
  | status m s =>
      simp only [OneCall.step, he, if_neg (show ¬ s = .idle from ho)]
      refine ⟨h.save he (.setState _ _) ?_ ?_ ?_ w.platform, hsave _⟩
      · exact ((JournalEntry.enterState_frame _ _ _).2.2.1).trans ht
      · rw [JournalEntry.setState_result ht, hr]
        split
        · rename_i hc
          exact iff_of_false EntryResult.noConfusion fun hn => hn (.inr hc.1)
        · -- a second CONNECTED in a row changes nothing
          rename_i hc
          rw [h.row]
          refine not_congr ⟨.inl, fun ha => ha.elim id fun hnew => hs ?_⟩
          exact not_not.mp fun hne => hc ⟨hnew, hne⟩
      · exact fun hc => .inr hc
  | info m info =>
      simp only [OneCall.step, he]
      exact ⟨hrel (App.asks_fillIn w m info e []).entry (App.fillIn_state w m info e []), hsave _⟩
  | found m data sn =>
      simp only [OneCall.step, he]
      exact ⟨hrel (App.relabelled_setName data sn e) (App.setName_state data sn e), hsave _⟩

/-- The events up to the end. -/
theorem Absent.steps (h : Absent answered c) {e : JournalEntry} (he : c.entry = some e)
    {os : List OwnEvent} (hos : ∀ o ∈ os, ¬ o.Ends) :
    Absent (answered ∨ ∃ o ∈ os, o.Answers) (run (OneCall.step w) c os) ∧
      ∃ e', (run (OneCall.step w) c os).entry = some e' := by
  induction os generalizing answered c e with
  | nil => exact ⟨h.congr (by simp), e, he⟩
  | cons o os ih =>
      obtain ⟨h', e', he'⟩ := h.step (w := w) he (hos o (.head _))
      obtain ⟨h'', he''⟩ := ih h' he' fun o ho => hos o (.tail _ ho)
      exact ⟨h''.congr (by rw [or_assoc, List.exists_mem_cons_iff]), he''⟩

/-- A call is announced. -/
theorem Absent.start (p : Platform) (m : Moment) (pid cid : Nat) (status : CallStatus) :
    Absent (callState2JournalState status = .connected)
      (OneCall.start p m pid cid .incoming status) := by
  have hres := JournalEntry.setState_result (e := .create 0 pid cid .incoming m.now) rfl m.now
    (callState2JournalState status)
  have hrow : (OneCall.start p m pid cid .incoming status).row.res =
      if callState2JournalState status = .connected ∧ EntryState.unknown ≠ .connected then .ok
      else .notreached := hres
  refine ⟨(JournalEntry.enterState_frame _ _ _).2.2.1, ?_, ?_⟩
  · rw [hrow]
    split
    · rename_i hc
      exact iff_of_false nofun fun hn => hn hc.1
    · rename_i hc
      exact iff_of_true rfl fun hn => hc ⟨hn, nofun⟩
  · rintro _ ⟨⟩
    exact ⟨(JournalEntry.enterState_frame _ _ _).2.2.1, rfl, id⟩

/-! ### After the end -/

/-- Without an entry the row keeps its type and its result. -/
theorem step_ended (h : c.entry = none) (o : OwnEvent) : (c.step w o).entry = none ∧
    (c.step w o).row.type = c.row.type ∧ (c.step w o).row.res = c.row.res := by
  match o with
  | .status _ _ | .info _ _ => simp [OneCall.step, h]
  | .found m data sn =>
      simp only [OneCall.step, h]
      split
      · exact ⟨h, rfl, rfl⟩
      · rw [OneCall.save]
        refine ⟨rfl, ?_⟩
        split
        · cases data <;> exact ⟨rfl, rfl⟩
        · exact ⟨rfl, rfl⟩

theorem steps_ended (h : c.entry = none) (os : List OwnEvent) :
    (run (OneCall.step w) c os).row.type = c.row.type ∧
      (run (OneCall.step w) c os).row.res = c.row.res := by
  have hrun := run_inv
    (I := fun c' : OneCall => c'.entry = none ∧ c'.row.type = c.row.type ∧ c'.row.res = c.row.res)
    (fun c' o hc' => by
      obtain ⟨hn, ht, hr⟩ := step_ended (w := w) hc'.1 o
      exact ⟨hn, ht.trans hc'.2.1, hr.trans hc'.2.2⟩) ⟨h, rfl, rfl⟩ os
  exact hrun.2

end OneCall

/-- The status the call is announced with or a later one is CONNECTED. -/
def Answered (pid cid : Nat) (status : CallStatus) (during : List AppEvent) : Prop :=
  callState2JournalState status = .connected ∨
    ∃ m s, .call m (.callStatus pid cid s) ∈ during ∧ callState2JournalState s = .connected

section
variable {w : World} {m mEnd : Moment} {pid cid : Nat} {status : CallStatus}
  {during rest : List AppEvent}

/-- The row of an incoming call that has ended. -/
theorem CallRun.ended_row (c : CallRun w m pid cid .incoming status)
    (hafter : c.after = during ++ .call mEnd (.callStatus pid cid .idle) :: rest)
    (hduring : ∀ m, .call m (.callStatus pid cid .idle) ∉ during) :
    let row := (run (OneCall.step w) (.start w.platform m pid cid .incoming status) c.ownEvents).row
    row.type = .incoming ∧ (row.res = .notreached ↔ ¬ Answered pid cid status during) := by
  have hend : ∀ s : App, s.ownEvent (journalKey pid cid) c.rowId
      (.call mEnd (.callStatus pid cid .idle)) = some (.status mEnd .idle) :=
    fun s => App.ownEvent_eq_status.mpr rfl
  rw [CallRun.ownEvents, hafter, App.ownEvents_append, App.ownEvents, hend, run_append]
  generalize hos : App.ownEvents w (journalKey pid cid) c.rowId c.announced during = os
  -- up to the end
  have hactive : ∀ o ∈ os, ¬ o.Ends := by
    rintro (⟨m', s⟩ | ⟨_, _⟩ | ⟨_, _, _⟩) ho he
    · obtain rfl : s = .idle := he
      exact hduring m' (App.status_mem_ownEvents.mp (hos ▸ ho))
    · exact he
    · exact he
  obtain ⟨h, e, he⟩ := (OneCall.Absent.start w.platform m pid cid status).steps (w := w) rfl hactive
  -- the end, and what comes after it
  simp only [Option.toList_some, List.singleton_append, run_cons, OneCall.step, he, if_true]
  generalize run (OneCall.step w) (.start w.platform m pid cid .incoming status) os = c₁ at h
  obtain ⟨ht, hr⟩ := OneCall.steps_ended (w := w) (c := { c₁ with entry := none }) rfl
    (App.ownEvents w (journalKey pid cid) c.rowId
      ((run (App.step w) c.announced during).step w (.call mEnd (.callStatus pid cid .idle))) rest)
  refine ⟨ht.trans h.type, ?_⟩
  rw [hr, h.row]
  refine not_congr (or_congr_right ?_)
  constructor
  · rintro ⟨⟨m', s⟩ | ⟨_, _⟩ | ⟨_, _, _⟩, ho, ha⟩
    · exact ⟨m', s, App.status_mem_ownEvents.mp (hos ▸ ho), ha⟩
    · exact ha.elim
    · exact ha.elim
  · rintro ⟨m', s, ho, ha⟩
    exact ⟨.status m' s, hos ▸ App.status_mem_ownEvents.mpr ho, ha⟩

/-- **When an incoming call has ended, the filter "Calls in absence" selects its row exactly if
CONNECTED was never delivered for it.** -/
theorem absence_iff (hok : w.dbIsOk = true) (c : CallRun w m pid cid .incoming status)
    (hafter : c.after = during ++ .call mEnd (.callStatus pid cid .idle) :: rest)
    (hduring : ∀ m, .call m (.callStatus pid cid .idle) ∉ during) :
    (∃ r ∈ c.final.db.callsInAbsence, r.id = c.rowId) ↔ ¬ Answered pid cid status during := by
  have hshows := c.shows hok
  obtain ⟨ht, hr⟩ := c.ended_row hafter hduring
  obtain ⟨r, hmem, hid, hrow⟩ := hshows.row
  have hselected : r.inAbsence = true ↔ ¬ Answered pid cid status during := by
    rw [CallRow.inAbsence_iff, ← hr, ← hrow]
    exact and_iff_right ((congrArg CallRow.type hrow).trans ht)
  rw [← hselected]
  constructor
  · rintro ⟨r', hr', hid'⟩
    obtain ⟨hmem', ha⟩ := List.mem_filter.mp hr'
    obtain rfl := List.inj_on_of_nodup_map hshows.wf.nodup hmem hmem' (hid.trans hid'.symm)
    exact ha
  · exact fun ha => ⟨r, List.mem_filter.mpr ⟨hmem, ha⟩, hid⟩

end

/-- The other call is the only one that is announced before. -/
theorem missedRun_free :
    (run (App.step .utc) (.start .initial)
        [.call (.quiet (-3)) (.newCall 0x10000020 0 .outgoing .dialing)]).activeCalls.find?
      (journalKey 0x10000020 1) = none := by
  decide

/-- A call that only rings, while another one is answered. -/
def missedRun : CallRun .utc (.quiet 0) 0x10000020 1 .incoming .offering where
  db := .initial
  before := [.call (.quiet (-3)) (.newCall 0x10000020 0 .outgoing .dialing)]
  after :=
    [.call (.quiet 1) (.callInfo 0x10000020 1 ⟨"", "12", "", ""⟩), .work [knows "12" "Bob"],
      .call (.quiet 2) (.callStatus 0x10000020 0 .connected), .deliver (.quiet 6)] ++
      .call (.quiet 7) (.callStatus 0x10000020 1 .idle) :: []
  wf := .initial
  calm := by decide
  free := missedRun_free
  once := by decide

theorem absence_iff_missed :
    ∃ r ∈ missedRun.final.db.callsInAbsence, r.id = missedRun.rowId := by
  refine (absence_iff rfl missedRun rfl (by simp)).mpr ?_
  rintro (h | ⟨m, s, h, hs⟩)
  · cases h
  · simp at h

end Cmon
