import Mathlib.Data.List.Sort
import Cmon.App.MainApp

/-!
# App — the list copy

`CJournalListCtrl` and its copy `m_liEntries` of the journal.  A save notifies the list, which
reads the journal again when its timer runs out; until then, and for the entries of active calls
always, what is held in memory may be older than the row, and a save writes the whole row.

The rows are compared with those that the operations meant: `intended` sets in a row the columns
that an operation changes in its copy of it, and no others.

* `stale_copies_undo`: a name found by a look-up in the list is undone by the next status of the
  call, and a status by a look-up in a list that was read before it.
* `updates_kept`: along every run in which no copy that is saved is stale (`Settled`), the rows
  are the intended ones.
-/

namespace Cmon
open Library

/-- What the list shows of the journal, and in which order. -/
structure View where
  keep : CallRow → Bool
  le : CallRow → CallRow → Bool

/-- The application and the list control, whose timer runs when `app.notified` holds. -/
structure Page where
  app : App
  view : View
  liEntries : List JournalEntry

/-- What can happen: an event of the application, another filter or order, the timer of the list,
a look-up from its context menu. -/
inductive PageEvent where
  | app (ev : AppEvent)
  | select (v : View)
  | timer (now : Int) (fault : Option Nat)
  | lookUp (m : Moment) (idx : Nat) (resolvers : List ResolverApi)

/-- The moment of a step that may save. -/
def PageEvent.moment? : PageEvent → Option Moment
  | .app ev => ev.moment?
  | .lookUp m _ _ => some m
  | .select _ | .timer _ _ => none

namespace JournalDb

/-- `getEntries`.  A `select` that fails leaves the list as it was, a row that cannot be fetched
ends it; `fault` counts both. -/
def getEntries (p : Platform) (isOk : Bool) (now : Int) (fault : Option Nat) (v : View)
    (db : JournalDb) (list : List JournalEntry) : List JournalEntry :=
  let rows := (db.calls.filter v.keep).insertionSort fun a b => v.le a b
  let load := loadRow p (JournalEntry.create 0 0 0 .unknown now)
  if isOk then
    match fault with
    | none => rows.map load
    | some 0 => list
    | some (k + 1) => (rows.take k).map load
  else list

end JournalDb

/-- `CResolverModel::resolve`, of a manual look-up: the first enabled resolver that finds a name. -/
def reverseLookup (resolvers : List ResolverApi) (strNumber : String) : Option String :=
  resolvers.findSome? fun r => if r.enabled then r.resolve strNumber else none

namespace Page

/-- After start-up the list is empty and its timer runs. -/
def start (db : JournalDb) (v : View) : Page where
  app := { App.start db with notified := true }
  view := v
  liEntries := []

/-- The digits of the number a look-up is for. -/
def toResolve (w : World) (e : JournalEntry) : String :=
  let nr := if e.type = .incoming then e.callerAddress else e.calledAddress
  String.ofList (nr.toList.filter w.platform.isDigit)

/-- The name that was found is put into the entry. -/
def nameFound (sn : String) (e : JournalEntry) : JournalEntry :=
  if e.type = .incoming then e.setCallerName sn else e.setCalledName sn

def onCtxReverseLookup (w : World) (m : Moment) (s : Page) (idx : Nat)
    (resolvers : List ResolverApi) : Page :=
  match s.liEntries[idx]? with
  | none => s
  | some e =>
      match reverseLookup resolvers (toResolve w e) with
      | none => s
      | some sn =>
          let o := s.app.db.insertUpdateEntry w.platform w.dbIsOk m (nameFound sn e)
          { s with
            app := { s.app with db := o.db, notified := s.app.notified || o.notified }
            liEntries := s.liEntries.set idx o.entry }

def step (w : World) (s : Page) : PageEvent → Page
  | .app ev => { s with app := s.app.step w ev }
  | .select v => { s with app := { s.app with notified := true }, view := v }
  | .timer now fault =>
      if s.app.notified then
        { s with
          app := { s.app with notified := false }
          liEntries := s.app.db.getEntries w.platform w.dbIsOk now fault s.view s.liEntries }
      else s
  | .lookUp m idx resolvers => s.onCtxReverseLookup w m idx resolvers

/-! ### What the operations mean -/

/-- The entry that an operation changes, before and after the change. -/
def edited (w : World) (s : Page) : PageEvent → Option (JournalEntry × JournalEntry)
  | .app (.call m (.callStatus pid cid status)) =>
      if status = .idle then none
      else (s.app.activeCalls.find? (journalKey pid cid)).map fun e =>
        (e, e.setState m.now (callState2JournalState status))
  | .app (.call m (.callInfo pid cid info)) =>
      (s.app.activeCalls.find? (journalKey pid cid)).map fun e =>
        (e, (App.fillIn w m info e s.app.requests).1)
  | .app (.deliver m) =>
      s.app.responses.head?.bind fun r =>
        ((s.app.findActiveEntry r.callId).map (·.2)).or (s.app.db.getEntry w.platform w.dbIsOk m
          r.callId (JournalEntry.create s.app.allocated 0 0 .unknown m.now)) |>.map fun e =>
            (e, App.setName r.userData r.sn e)
  | .lookUp _ idx resolvers =>
      s.liEntries[idx]?.bind fun e =>
        (reverseLookup resolvers (toResolve w e)).map fun sn => (e, nameFound sn e)
  | .app (.call _ (.newCall _ _ _ _)) | .app (.work _) | .select _ | .timer _ _ => none

/-- The value of a column after it has been changed from `old` to `new` in a copy. -/
def setColumn {α : Type} [DecidableEq α] (old new value : α) : α := if old = new then value else new

/-- The columns that differ in `old` and `new` are set in `r`. -/
def setColumns (old new r : CallRow) : CallRow where
  id := r.id
  type := setColumn old.type new.type r.type
  res := setColumn old.res new.res r.res
  tm1 := setColumn old.tm1 new.tm1 r.tm1
  tm2 := setColumn old.tm2 new.tm2 r.tm2
  dur := setColumn old.dur new.dur r.dur
  clnr := setColumn old.clnr new.clnr r.clnr
  cln := setColumn old.cln new.cln r.cln
  cdnr := setColumn old.cdnr new.cdnr r.cdnr
  cdn := setColumn old.cdn new.cdn r.cdn

/-- The change of an entry from `e` to `e'`, in its row. -/
def setInRow (p : Platform) (e e' : JournalEntry) (rows : List CallRow) : List CallRow :=
  rows.map fun r =>
    if r.id = e.dbKey then
      setColumns (JournalDb.rowOf p e.dbKey e) (JournalDb.rowOf p e.dbKey e') r
    else r

/-- The rows after an operation that means to insert a row or to set columns of one. -/
def intended (w : World) (s : Page) (rows : List CallRow) : PageEvent → List CallRow
  | .app (.call m (.newCall pid cid type status)) =>
      (JournalDb.purgeEntries w.platform m (JournalDb.added w.platform ⟨s.app.db.nextcallid, rows⟩
        (s.app.newEntry m pid cid type status))).calls
  | ev =>
      match s.edited w ev with
      | none => rows
      | some (e, e') => setInRow w.platform e e' rows

/-- The page, and the rows that the operations so far have meant. -/
structure Meant where
  page : Page
  rows : List CallRow

def Meant.start (db : JournalDb) (v : View) : Meant := ⟨Page.start db v, db.calls⟩

def Meant.step (w : World) (t : Meant) (ev : PageEvent) : Meant :=
  ⟨t.page.step w ev, t.page.intended w t.rows ev⟩

/-- The entry is as its row. -/
def InRow (p : Platform) (db : JournalDb) (e : JournalEntry) : Prop :=
  ∀ r ∈ db.calls, r.id = e.dbKey → r = JournalDb.rowOf p e.dbKey e

instance (p : Platform) (db : JournalDb) (e : JournalEntry) : Decidable (InRow p db e) :=
  inferInstanceAs (Decidable (∀ r ∈ db.calls, r.id = e.dbKey → _))

/-- The save does not fail, and what is changed and saved is not stale. -/
def Settled (t : Meant) (w : World) (ev : PageEvent) : Prop :=
  (∀ m ∈ ev.moment?, m.saveFault = none) ∧
    ∀ q ∈ t.page.edited w ev, InRow w.platform t.page.app.db q.1

instance (t : Meant) (w : World) (ev : PageEvent) : Decidable (Settled t w ev) :=
  inferInstanceAs (Decidable ((∀ m ∈ ev.moment?, _) ∧ ∀ q ∈ t.page.edited w ev, _))

/-! ### A change and its save -/

section
variable {p : Platform} {m : Moment} {db : JournalDb} {e e' : JournalEntry} {rows : List CallRow}

theorem setColumn_same {α : Type} [DecidableEq α] (a value : α) : setColumn a a value = value :=
  if_pos rfl

theorem setColumn_old {α : Type} [DecidableEq α] (old new : α) : setColumn old new old = new := by
  rw [setColumn]
  split_ifs with h
  · exact h
  · rfl

/-- Nothing has been changed. -/
theorem setColumns_same (old r : CallRow) : setColumns old old r = r := by
  simp only [setColumns, setColumn_same]

/-- A copy that is as the row is changed as the row is. -/
theorem setColumns_old {old new : CallRow} (h : new.id = old.id) : setColumns old new old = new := by
  obtain ⟨id, _⟩ := new
  obtain rfl : id = old.id := h
  simp only [setColumns, setColumn_old]

theorem rowOf_stored (h : e'.stored = e.stored) (id : Int) :
    JournalDb.rowOf p id e' = JournalDb.rowOf p id e := by
  simp only [JournalEntry.stored, Prod.mk.injEq] at h
  obtain ⟨h₁, h₂, h₃, h₄, h₅, h₆, h₇, h₈, h₉⟩ := h
  simp only [JournalDb.rowOf, h₁, h₂, h₃, h₄, h₅, h₆, h₇, h₈, h₉]

/-- A change of nothing that is stored. -/
theorem setInRow_stored (h : e'.stored = e.stored) : setInRow p e e' rows = rows := by
  rw [setInRow]
  rw [rowOf_stored h]
  refine (List.map_congr_left fun r _ => ?_).trans (List.map_id rows)
  split_ifs
  · exact setColumns_same _ _
  · rfl

/-- To write the whole row of a copy that was as the row is to set the columns that were
changed. -/
theorem updated_calls (hd : e'.dbKey = e.dbKey) (hrow : InRow p db e) :
    (JournalDb.updated p db e').calls = setInRow p e e' db.calls := by
  refine List.map_congr_left ?_
  intro r hr
  rw [hd]
  split_ifs with hid
  · conv_rhs => rw [hrow r hr hid]
    have hid' : (JournalDb.rowOf p e.dbKey e').id = (JournalDb.rowOf p e.dbKey e).id := rfl
    exact (setColumns_old hid').symm
  · rfl

/-- **A save that does not fail of a copy that was as the row sets what was changed.** -/
theorem save_calls (he : e.Edited e') (hd : e'.dbKey = e.dbKey) (hkey : e.dbKey ≠ 0)
    (hm : m.saveFault = none) (hrow : InRow p db e) :
    (JournalDb.insertUpdateEntry p true m db e').db.calls = setInRow p e e' db.calls := by
  by_cases hdirty : e'.dirty = true
  · rw [JournalDb.insertUpdateEntry_free hdirty hm, if_neg (hd ▸ hkey)]
    exact updated_calls hd hrow
  · have hclean : e'.dirty = false := by simpa using hdirty
    rw [setInRow_stored (he hclean).2, JournalDb.insertUpdateEntry, if_neg hdirty]

end

/-! ### What a step does -/

theorem edited_nameFound (sn : String) (e : JournalEntry) :
    e.Edited (nameFound sn e) ∧ (nameFound sn e).dbKey = e.dbKey := by
  rw [nameFound]
  split_ifs
  · exact ⟨.setCallerName sn, rfl⟩
  · exact ⟨.setCalledName sn, rfl⟩

/-- A step that is no new call saves the entry it has changed, if any. -/
inductive Writes (w : World) (s : Page) (ev : PageEvent) (s' : Page) : Prop where
  | created (m : Moment) (pid cid : Nat) (type : CallType) (status : CallStatus)
      (hev : ev = .app (.call m (.newCall pid cid type status)))
      (hdb : s'.app.db = (App.saved w m s.app (s.app.newEntry m pid cid type status)).db)
  | nothing (hnone : ∀ rows, s.intended w rows ev = rows) (hdb : s'.app.db = s.app.db)
  | changed (m : Moment) (e e' : JournalEntry) (hm : m ∈ ev.moment?)
      (hq : s.edited w ev = some (e, e'))
      (hrows : ∀ rows, s.intended w rows ev = setInRow w.platform e e' rows)
      (he : e.Edited e') (hd : e'.dbKey = e.dbKey)
      (hfrom : (∃ k, s.app.activeCalls.find? k = some e) ∨ e ∈ s.liEntries ∨
        ∃ r ∈ s.app.db.calls, r.id = e.dbKey)
      (hdb : s'.app.db = (App.saved w m s.app e').db)

/-- An entry that is changed and saved. -/
theorem Writes.of_edited {w : World} {s s' : Page} {ev : PageEvent} {m : Moment}
    {e e' : JournalEntry} (hq : s.edited w ev = some (e, e')) (hm : m ∈ ev.moment?)
    (hnew : ∀ m pid cid type status, ev ≠ .app (.call m (.newCall pid cid type status)))
    (he : e.Edited e') (hd : e'.dbKey = e.dbKey)
    (hfrom : (∃ k, s.app.activeCalls.find? k = some e) ∨ e ∈ s.liEntries ∨
      ∃ r ∈ s.app.db.calls, r.id = e.dbKey)
    (hdb : s'.app.db = (App.saved w m s.app e').db) : Writes w s ev s' := by
  refine .changed m e e' hm hq (fun rows => ?_) he hd hfrom hdb
  unfold intended
  split
  · exact absurd rfl (hnew _ _ _ _ _)
  · rw [hq]

/-- Nothing is changed. -/
theorem Writes.of_none {w : World} {s s' : Page} {ev : PageEvent} (hq : s.edited w ev = none)
    (hnew : ∀ m pid cid type status, ev ≠ .app (.call m (.newCall pid cid type status)))
    (hdb : s'.app.db = s.app.db) : Writes w s ev s' := by
  refine .nothing (fun rows => ?_) hdb
  unfold intended
  split
  · exact absurd rfl (hnew _ _ _ _ _)
  · rw [hq]

theorem callStatus_writes (w : World) (s : Page) (m : Moment) (pid cid : Nat)
    (status : CallStatus) :
    Writes w s (.app (.call m (.callStatus pid cid status)))
      (s.step w (.app (.call m (.callStatus pid cid status)))) := by
  have hstep : (s.step w (.app (.call m (.callStatus pid cid status)))).app =
      s.app.onCallStateUpdate w m pid cid status := rfl
  cases hf : s.app.activeCalls.find? (journalKey pid cid) with
  | none =>
      refine .of_none (by simp [edited, hf]) (by simp) ?_
      rw [hstep, App.onCallStateUpdate, hf]
  | some e =>
      by_cases hs : status = .idle
      · subst hs
        refine .of_none (by simp [edited]) (by simp) ?_
        simp only [hstep, App.onCallStateUpdate, hf, if_true]
      · refine .of_edited (by simp only [edited, hf, if_neg hs]; rfl) rfl (by simp)
          (.setState m.now _) (e.setState_dbKey _ _) (.inl ⟨_, hf⟩) ?_
        simp only [hstep, App.onCallStateUpdate, hf, if_neg hs]
        rfl

theorem callInfo_writes (w : World) (s : Page) (m : Moment) (pid cid : Nat) (info : CallInfo) :
    Writes w s (.app (.call m (.callInfo pid cid info)))
      (s.step w (.app (.call m (.callInfo pid cid info)))) := by
  have hstep : (s.step w (.app (.call m (.callInfo pid cid info)))).app =
      s.app.onCallInfoUpdate w m pid cid info := rfl
  cases hf : s.app.activeCalls.find? (journalKey pid cid) with
  | none =>
      refine .of_none (by simp [edited, hf]) (by simp) ?_
      rw [hstep, App.onCallInfoUpdate, hf]
  | some e =>
      have hrel := (App.asks_fillIn w m info e s.app.requests).entry
      refine .of_edited (by simp only [edited, hf]; rfl) rfl (by simp) hrel.edited hrel.dbKey
        (.inl ⟨_, hf⟩) ?_
      simp only [hstep, App.onCallInfoUpdate, hf]
      rfl

theorem deliver_writes (w : World) (s : Page) (m : Moment) :
    Writes w s (.app (.deliver m)) (s.step w (.app (.deliver m))) := by
  cases hr : s.app.responses with
  | nil =>
      refine .of_none (by simp [edited, hr]) (by simp) ?_
      simp only [step, App.step, hr]
  | cons r rp =>
      have hrel := fun e => App.relabelled_setName r.userData r.sn e
      have hstep : (s.step w (.app (.deliver m))).app =
          { s.app with responses := rp }.onResolverResponse w m r := by
        simp only [step, App.step, hr]
      cases hf : s.app.findActiveEntry r.callId with
      | some q =>
          obtain ⟨k, e⟩ := q
          have hq : s.edited w (.app (.deliver m)) = some (e, App.setName r.userData r.sn e) := by
            simp [edited, hr, hf]
          refine .of_edited hq rfl (by simp) (hrel e).edited (hrel e).dbKey
            (.inl ⟨k, App.findActiveEntry_find? hf⟩) ?_
          rw [hstep, App.onResolverResponse,
            show App.findActiveEntry { s.app with responses := rp } r.callId = _ from hf]
          rfl
      | none =>
          cases hg : s.app.db.getEntry w.platform w.dbIsOk m r.callId
              (JournalEntry.create s.app.allocated 0 0 .unknown m.now) with
          | none =>
              refine .of_none (by simp [edited, hr, hf, hg]) (by simp) ?_
              rw [hstep, App.onResolverResponse,
                show App.findActiveEntry { s.app with responses := rp } r.callId = _ from hf]
              simp only [hg]
          | some e =>
              -- the call has ended, and its row is read back
              obtain ⟨row, hrow, hid, -⟩ := JournalDb.getEntry_row hg
              have hkey := hid.trans (JournalDb.getEntry_dbKey hg).symm
              have hq : s.edited w (.app (.deliver m)) =
                  some (e, App.setName r.userData r.sn e) := by
                simp [edited, hr, hf, hg]
              refine .of_edited hq rfl (by simp) (hrel e).edited (hrel e).dbKey
                (.inr (.inr ⟨row, hrow, hkey⟩)) ?_
              rw [hstep, App.onResolverResponse,
                show App.findActiveEntry { s.app with responses := rp } r.callId = _ from hf]
              simp only [hg]
              rfl

theorem lookUp_writes (w : World) (s : Page) (m : Moment) (idx : Nat)
    (resolvers : List ResolverApi) :
    Writes w s (.lookUp m idx resolvers) (s.step w (.lookUp m idx resolvers)) := by
  have hstep : s.step w (.lookUp m idx resolvers) = s.onCtxReverseLookup w m idx resolvers := rfl
  cases he : s.liEntries[idx]? with
  | none =>
      refine .of_none (by simp [edited, he]) (by simp) ?_
      rw [hstep, onCtxReverseLookup, he]
  | some e =>
      cases hn : reverseLookup resolvers (toResolve w e) with
      | none =>
          refine .of_none (by simp [edited, he, hn]) (by simp) ?_
          simp only [hstep, onCtxReverseLookup, he, hn]
      | some sn =>
          obtain ⟨hedited, hd⟩ := edited_nameFound sn e
          have hq : s.edited w (.lookUp m idx resolvers) = some (e, nameFound sn e) := by
            simp [edited, he, hn]
          refine .of_edited hq rfl (by simp) hedited hd (.inr (.inl (List.mem_of_getElem? he))) ?_
          simp only [hstep, onCtxReverseLookup, he, hn]

/-- **What a step can do to the rows.** -/
theorem step_writes (w : World) (s : Page) (ev : PageEvent) : Writes w s ev (s.step w ev) := by
  rcases ev with (⟨m, ⟨pid, cid, type, status⟩ | ⟨pid, cid, status⟩ | ⟨pid, cid, info⟩⟩ |
    resolvers | m) | v | ⟨now, fault⟩ | ⟨m, idx, resolvers⟩
  · exact .created m pid cid type status rfl rfl
  · exact callStatus_writes w s m pid cid status
  · exact callInfo_writes w s m pid cid info
  · refine .of_none rfl (by simp) ?_
    have ha := App.processRequest_acts w s.app resolvers
    show (s.app.processRequest resolvers).db = s.app.db
    generalize s.app.processRequest resolvers = s' at ha
    cases ha
    rfl
  · exact deliver_writes w s m
  · exact .of_none rfl (by simp) rfl
  · refine .of_none rfl (by simp) ?_
    rw [step]
    split_ifs <;> rfl
  · exact lookUp_writes w s m idx resolvers

/-! ### The invariant -/

/-- Whatever is held in memory has a row to be saved in. -/
structure HasKeys (s : Page) : Prop where
  wf : JournalDb.WF s.app.db
  active : ∀ k e, s.app.activeCalls.find? k = some e → e.dbKey ≠ 0
  listed : ∀ e ∈ s.liEntries, e.dbKey ≠ 0

theorem HasKeys.start {db : JournalDb} (h : db.WF) (v : View) : HasKeys (start db v) :=
  ⟨h, fun _ _ he => (nomatch he), fun _ he => absurd he List.not_mem_nil⟩

section
variable {w : World} {s : Page} {ev : PageEvent}

/-- A saved entry keeps its key, and a new one gets one. -/
theorem saved_dbKey_ne_zero {m : Moment} {a : App} {e : JournalEntry} (h : e.dbKey ≠ 0) :
    (App.saved w m a e).entry.dbKey ≠ 0 := by
  rcases (App.saves_saved w m a e).dbKey with hd | ⟨h0, -⟩
  · rwa [hd]
  · exact absurd h0 h

theorem HasKeys.edited (h : HasKeys s) {e : JournalEntry}
    (hfrom : (∃ k, s.app.activeCalls.find? k = some e) ∨ e ∈ s.liEntries ∨
      ∃ r ∈ s.app.db.calls, r.id = e.dbKey) : e.dbKey ≠ 0 := by
  rcases hfrom with ⟨k, hk⟩ | hl | ⟨r, hr, hid⟩
  · exact h.active k e hk
  · exact h.listed e hl
  · exact hid ▸ (h.wf.ids r hr).1.ne'

/-- The active entries after a step of the application. -/
theorem HasKeys.active_step (hok : w.dbIsOk = true) (h : HasKeys s) {aev : AppEvent}
    (hm : ∀ m ∈ aev.moment?, m.saveFault = none) (j : JournalKey) (e₁ : JournalEntry)
    (hj : (s.app.step w aev).activeCalls.find? j = some e₁) : e₁.dbKey ≠ 0 := by
  have ha := App.step_acts w s.app aev
  generalize s.app.step w aev = s' at ha hj
  cases ha with
  | noStatus | noInfo | worked | unanswered | copied => exact h.active j e₁ hj
  | ended => exact h.active j e₁ (App.find?_ended hj)
  | created m pid cid type status =>
      rcases App.find?_onNewCall hj with ⟨-, rfl⟩ | hj
      · rw [App.saved, hok, JournalDb.insertUpdateEntry_free (by simp) (hm m rfl), if_pos (by simp)]
        exact h.wf.pos.ne'
      · exact h.active j e₁ hj
  | @moved m _ _ _ e he =>
      rcases App.find?_edit he hj with ⟨-, rfl⟩ | ⟨-, hj⟩
      · exact saved_dbKey_ne_zero ((e.setState_dbKey _ _).symm ▸ h.active _ e he)
      · exact h.active j e₁ hj
  | @informed m _ _ _ e e' rq he hask =>
      rcases App.find?_edit (s := { s.app with requests := rq }) he hj with ⟨-, rfl⟩ | ⟨-, hj⟩
      · exact saved_dbKey_ne_zero (hask.entry.dbKey.symm ▸ h.active _ e he)
      · exact h.active j e₁ hj
  | @named m _ e e' r rp _ he hr =>
      have hf := App.findActiveEntry_find? he
      rcases App.find?_edit (s := { s.app with responses := rp }) hf hj with ⟨-, rfl⟩ | ⟨-, hj⟩
      · subst hr
        exact saved_dbKey_ne_zero ((App.relabelled_setName _ _ e).dbKey.symm ▸ h.active _ e hf)
      · exact h.active j e₁ hj

/-- The entries that the list reads. -/
theorem getEntries_dbKey {p : Platform} {isOk : Bool} {now : Int} {fault : Option Nat} {v : View}
    {db : JournalDb} {list : List JournalEntry} (hdb : db.WF) (hl : ∀ e ∈ list, e.dbKey ≠ 0) :
    ∀ e ∈ db.getEntries p isOk now fault v list, e.dbKey ≠ 0 := by
  have hload : ∀ rows : List CallRow, (∀ r ∈ rows, r ∈ db.calls) →
      ∀ e ∈ rows.map (JournalDb.loadRow p (JournalEntry.create 0 0 0 .unknown now)),
        e.dbKey ≠ 0 := by
    intro rows hrows e he
    obtain ⟨r, hr, rfl⟩ := List.mem_map.mp he
    exact (hdb.ids r (hrows r hr)).1.ne'
  have hsorted : ∀ r ∈ (db.calls.filter v.keep).insertionSort fun a b => v.le a b, r ∈ db.calls :=
    fun r hr => (List.mem_filter.mp ((List.mem_insertionSort _).mp hr)).1
  unfold JournalDb.getEntries
  dsimp only
  split_ifs
  · split
    · exact hload _ hsorted
    · exact hl
    · exact hload _ fun r hr => hsorted r (List.mem_of_mem_take hr)
  · exact hl

theorem HasKeys.listed_step (h : HasKeys s) : ∀ e ∈ (s.step w ev).liEntries, e.dbKey ≠ 0 := by
  cases ev with
  | app | select => exact h.listed
  | timer now fault =>
      rw [step]
      split_ifs
      · exact getEntries_dbKey h.wf h.listed
      · exact h.listed
  | lookUp m idx resolvers =>
      simp only [step, onCtxReverseLookup]
      split
      · exact h.listed
      · rename_i e he
        split
        · exact h.listed
        · rename_i sn hn
          intro e₁ he₁
          rcases List.mem_or_eq_of_mem_set he₁ with hmem | rfl
          · exact h.listed e₁ hmem
          · refine saved_dbKey_ne_zero (a := s.app) ?_
            rw [(edited_nameFound sn e).2]
            exact h.listed e (List.mem_of_getElem? he)

theorem HasKeys.step (hok : w.dbIsOk = true) (h : HasKeys s)
    (hm : ∀ m ∈ ev.moment?, m.saveFault = none) : HasKeys (s.step w ev) := by
  refine ⟨?_, ?_, h.listed_step⟩
  · have hw := step_writes w s ev
    generalize s.step w ev = s' at hw
    cases hw with
    | created m _ _ _ _ _ hdb => exact hdb ▸ (App.saves_saved w m s.app _).wf h.wf
    | nothing _ hdb => exact hdb ▸ h.wf
    | changed m _ _ _ _ _ _ _ _ hdb => exact hdb ▸ (App.saves_saved w m s.app _).wf h.wf
  · cases ev with
    | app aev => exact h.active_step hok hm
    | select => exact h.active
    | timer =>
        rw [Page.step]
        split_ifs <;> exact h.active
    | lookUp m idx resolvers =>
        simp only [Page.step, onCtxReverseLookup]
        split
        · exact h.active
        · split <;> exact h.active

end

/-- The rows are those that the operations have meant. -/
structure Kept (t : Meant) : Prop where
  rows : t.page.app.db.calls = t.rows
  keys : HasKeys t.page

theorem Kept.step {w : World} (hok : w.dbIsOk = true) {t : Meant} {ev : PageEvent} (h : Kept t)
    (hset : Settled t w ev) : Kept (t.step w ev) := by
  refine ⟨?_, h.keys.step hok hset.1⟩
  show (t.page.step w ev).app.db.calls = t.page.intended w t.rows ev
  rw [← h.rows]
  have hw := step_writes w t.page ev
  generalize t.page.step w ev = s' at hw
  cases hw with
  | created m pid cid type status hev hdb =>
      subst hev
      rw [hdb, App.saved, hok, JournalDb.insertUpdateEntry_free (by simp) (hset.1 m rfl),
        if_pos (by simp)]
      rfl
  | nothing hnone hdb => rw [hdb, hnone]
  | changed m e e' hm hq hrows he hd hfrom hdb =>
      rw [hdb, hrows, App.saved, hok]
      exact save_calls he hd (h.keys.edited hfrom) (hset.1 m hm) (hset.2 _ hq)

/-- **Along a run in which no save fails and nothing is saved that is older than its row, the rows
of the journal are those the operations have meant.** -/
theorem updates_kept (w : World) (hok : w.dbIsOk = true) {db : JournalDb} (hdb : db.WF) (v : View)
    (evs : List PageEvent)
    (h : Along (Meant.step w) (fun t ev => Settled t w ev) (.start db v) evs) :
    (run (Meant.step w) (.start db v) evs).page.app.db.calls =
      (run (Meant.step w) (.start db v) evs).rows :=
  (h.inv (I := Kept) (fun _ _ ht hs => ht.step hok hs) ⟨rfl, .start hdb v⟩).rows

/-- A view without a filter. -/
def allCalls : View := ⟨fun _ => true, fun _ _ => true⟩

/-- A call of which the list knows. -/
def listedCall : List PageEvent :=
  [.app (.call (.quiet 0) (.newCall 0x10000020 0 .incoming .offering)),
    .app (.call (.quiet 0) (.callInfo 0x10000020 0 ⟨"", "12", "", ""⟩)),
    .timer 1 none]

def connected : PageEvent := .app (.call (.quiet 3) (.callStatus 0x10000020 0 .connected))

def ended : PageEvent := .app (.call (.quiet 9) (.callStatus 0x10000020 0 .idle))

def askBook : PageEvent := .lookUp (.quiet 5) 0 [knows "12" "Bob"]

/-- The journal and what was meant, after these steps. -/
def afterSteps (evs : List PageEvent) : Meant :=
  run (Meant.step .utc) (.start .initial allCalls) (listedCall ++ evs)

theorem updates_kept_ended :
    (afterSteps [connected, ended, .timer 10 none, askBook]).page.app.db.calls =
      (afterSteps [connected, ended, .timer 10 none, askBook]).rows :=
  updates_kept .utc rfl .initial allCalls _ (by decide)

/-- A look-up while the call rings: its name is gone when the call is answered.  The other way
round, with a list that was read before: the answer is gone. -/
theorem stale_copies_undo :
    ((afterSteps [askBook, connected]).page.app.db.calls.map (·.cln) = [""] ∧
      (afterSteps [askBook, connected]).rows.map (·.cln) = ["Bob"]) ∧
    (afterSteps [connected, askBook]).page.app.db.calls.map (·.res) = [.notreached] ∧
      (afterSteps [connected, askBook]).rows.map (·.res) = [.ok] := by
  decide

end Page
end Cmon
