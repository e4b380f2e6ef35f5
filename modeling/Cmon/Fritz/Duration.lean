import Cmon.App.Keys
import Cmon.Fritz.Message

/-!
# Fritz — the duration of a call in the journal

A session of the box beside everything else the application handles: `SessionStep` is a line of
the box, or a step that is no event of this plug-in.  The events of a line are handled in the
second the line arrives in.

An entry's duration is written when the plug-in tells that the conversation has ended; the box
tells only that the call is idle, and the entry is deleted.  `Untimed` is the invariant this
comes to: the row of an announced call and the active entry it belongs to have the duration `0`
from the announcement on, whatever else happens.

* `duration_iff`: the row of a call holds the connected time exactly when that is zero.
-/

namespace Cmon
open Library

/-- A step of a session. -/
inductive SessionStep where
  | line (m : Moment) (msg : String)
  | other (ev : AppEvent)

/-- The events of a plug-in are handled one after the other. -/
def App.handleAll (w : World) (m : Moment) (s : App) (evs : List CallEvent) : App :=
  run (fun s ev => s.step w (.call m ev)) s evs

def App.session (w : World) (s : App) : SessionStep → App
  | .line m msg => s.handleAll w m (handleFritzMessage w.platform msg)
  | .other ev => s.step w ev

/-- The plug-in an event comes from. -/
def AppEvent.pid? : AppEvent → Option Nat
  | .call _ (.newCall pid _ _ _) | .call _ (.callStatus pid _ _) | .call _ (.callInfo pid _ _) =>
      some pid
  | .work _ | .deliver _ => none

/-- A step at which no save fails; what is no line of the box comes from another plug-in or from
the resolvers. -/
def SessionStep.Commits : SessionStep → Prop
  | .line m _ => m.saveFault = none
  | .other ev => (∀ m ∈ ev.moment?, m.saveFault = none) ∧ ev.pid? ≠ some fritzPluginId

instance : ∀ st : SessionStep, Decidable st.Commits
  | .line m _ => inferInstanceAs (Decidable (m.saveFault = none))
  | .other ev => inferInstanceAs (Decidable
      ((∀ m ∈ ev.moment?, m.saveFault = none) ∧ ev.pid? ≠ some fritzPluginId))

namespace App

/-! ### The row of an announced call -/

/-- The row with the id `id` and the entry that has it as its key, which is one of the box, have
no duration. -/
structure Untimed (id : Int) (s : App) : Prop where
  pos : 0 < id
  lt : id < s.db.nextcallid
  rows : ∀ r ∈ s.db.calls, r.id = id → r.dur = 0
  entries : ∀ k e, s.activeCalls.find? k = some e → e.dbKey = id →
    e.durationInSec = 0 ∧ ∃ cid, k = journalKey fritzPluginId cid

/-- An event that does not tell the end of a conversation of the box. -/
def NoEnd : AppEvent → Prop
  | .call _ (.callStatus pid _ status) => pid = fritzPluginId → status ≠ .disconnected
  | _ => True

section
variable {w : World} {m : Moment} {s : App} {id : Int}

/-- A save leaves the row without a duration, if the saved entry has none or another key. -/
theorem Untimed.save (h : Untimed id s) {e : JournalEntry}
    (he : e.dbKey = id → e.durationInSec = 0) :
    id < (saved w m s e).db.nextcallid ∧ (∀ r ∈ (saved w m s e).db.calls, r.id = id → r.dur = 0) ∧
      ((saved w m s e).entry.dbKey = id →
        e.dbKey = id ∧ (saved w m s e).entry.durationInSec = 0) := by
  have hs := saves_saved w m s e
  refine ⟨lt_of_lt_of_le h.lt hs.nextcallid_le, fun r hr hid => ?_, fun hkey => ?_⟩
  · rcases hs.mem_calls hr with hr | ⟨hrow, ⟨-, hn⟩ | ⟨-, hk⟩⟩
    · exact h.rows r hr hid
    · have := h.lt; omega
    · rw [hrow, JournalDb.rowOf_dur, he (hk.symm.trans hid)]
      rfl
  · have hdur : (saved w m s e).entry.durationInSec = e.durationInSec :=
      congrArg (·.2.2.2.2.1) hs.entry.2
    rcases hs.dbKey with hk | ⟨-, hk⟩
    · exact ⟨hk ▸ hkey, hdur.trans (he (hk ▸ hkey))⟩
    · have := h.lt; omega

theorem Untimed.edit (h : Untimed id s) {k : JournalKey} {e e' : JournalEntry}
    (he : s.activeCalls.find? k = some e) (hd : e'.dbKey = e.dbKey)
    (hdur : e.dbKey = id → e'.durationInSec = e.durationInSec) : Untimed id (s.edit w m k e') := by
  have he' : e'.dbKey = id → e'.durationInSec = 0 := fun hid => by
    rw [hdur (hd ▸ hid)]
    exact (h.entries k e he (hd ▸ hid)).1
  obtain ⟨hlt, hrows, hentry⟩ := h.save (w := w) (m := m) he'
  refine ⟨h.pos, hlt, hrows, fun j e₁ hj hkey => ?_⟩
  rcases find?_edit he hj with ⟨rfl, rfl⟩ | ⟨-, hj⟩
  · obtain ⟨hid, h0⟩ := hentry hkey
    exact ⟨h0, (h.entries j e he (hd ▸ hid)).2⟩
  · exact h.entries j e₁ hj hkey

/-- **Nothing but the end of a conversation gives a row its duration.** -/
theorem Untimed.step (h : Untimed id s) {ev : AppEvent} (hev : NoEnd ev) :
    Untimed id (s.step w ev) := by
  have ha := step_acts w s ev
  generalize s.step w ev = s' at ha
  cases ha with
  | noStatus | noInfo => exact h
  | worked | unanswered => exact ⟨h.pos, h.lt, h.rows, h.entries⟩
  | created m pid cid type status =>
      have hkey : (s.newEntry m pid cid type status).dbKey ≠ id := by
        rw [newEntry_dbKey]; exact ne_of_lt h.pos
      obtain ⟨hlt, hrows, hentry⟩ := h.save (w := w) (m := m) fun hk => absurd hk hkey
      refine ⟨h.pos, hlt, hrows, fun j e₁ hj hid => ?_⟩
      rcases find?_onNewCall hj with ⟨-, rfl⟩ | hj
      · exact absurd (hentry hid).1 hkey
      · exact h.entries j e₁ hj hid
  | ended => exact ⟨h.pos, h.lt, h.rows, fun j e hj => h.entries j e (find?_ended hj)⟩
  | @moved m pid cid status e he hs =>
      refine h.edit he (JournalEntry.setState_dbKey _ _ _) ?_
      -- the entry is one of the box, and the box does not tell `disconnected`
      intro hid
      obtain ⟨-, cid', hk⟩ := h.entries _ e he hid
      have hpid : pid = fritzPluginId := congrArg Prod.fst hk
      refine JournalEntry.setState_durationInSec _ _ _ fun hd => hev hpid ?_
      cases status <;> first | rfl | cases hd
  | @informed _ _ _ _ _ _ rq he hask =>
      exact Untimed.edit (s := { s with requests := rq }) ⟨h.pos, h.lt, h.rows, h.entries⟩ he
        hask.entry.dbKey fun _ => hask.entry.durationInSec
  | @named m k e e' r rp hrp he hr =>
      have hrel := relabelled_setName r.userData r.sn e
      exact Untimed.edit (s := { s with responses := rp }) ⟨h.pos, h.lt, h.rows, h.entries⟩
        (findActiveEntry_find? he) (hr ▸ hrel.dbKey) fun _ => hr ▸ hrel.durationInSec
  | @copied m e e' r rp hrp hn he hr =>
      -- a copy has the duration of its row
      obtain ⟨row, hrow, hid, rfl⟩ := JournalDb.getEntry_row he
      have hrel := relabelled_setName r.userData r.sn
        (JournalDb.loadRow w.platform (.create s.allocated 0 0 .unknown m.now) row)
      obtain ⟨hlt, hrows, -⟩ := h.save (w := w) (m := m) (e := e') fun hk => by
        rw [hr, hrel.durationInSec]
        rw [hr, hrel.dbKey] at hk
        exact h.rows row hrow hk
      exact ⟨h.pos, hlt, hrows, h.entries⟩

/-- A call of the box is announced, and its row is inserted. -/
theorem Untimed.announced (h : KeysPassed s) (hok : w.dbIsOk = true) (hm : m.saveFault = none)
    (cid : Nat) (type : CallType) {status : CallStatus} (hs : status ≠ .disconnected) :
    Untimed s.db.nextcallid (s.step w (.call m (.newCall fritzPluginId cid type status))) := by
  have hdur : (s.newEntry m fritzPluginId cid type status).durationInSec = 0 := by
    refine (JournalEntry.setState_durationInSec _ _ _ fun hd => hs ?_).trans
      (JournalEntry.create_durationInSec ..)
    cases status <;> first | rfl | cases hd
  have hsaved : saved w m s (s.newEntry m fritzPluginId cid type status) =
      ⟨JournalDb.purgeEntries w.platform m
          (JournalDb.added w.platform s.db (s.newEntry m fritzPluginId cid type status)),
        ((s.newEntry m fritzPluginId cid type status).setDbKey s.db.nextcallid).setDirty false,
        true⟩ := by
    rw [saved, hok, JournalDb.insertUpdateEntry_free (newEntry_dirty ..) hm,
      if_pos (newEntry_dbKey ..)]
  have hdb : (s.step w (.call m (.newCall fritzPluginId cid type status))).db =
      (saved w m s (s.newEntry m fritzPluginId cid type status)).db := rfl
  rw [hsaved] at hdb
  obtain ⟨hsub, hn⟩ := JournalDb.purgeEntries_sublist w.platform m
    (JournalDb.added w.platform s.db (s.newEntry m fritzPluginId cid type status))
  refine ⟨h.wf.pos, ?_, fun r hr hid => ?_, fun j e hj hkey => ?_⟩
  · rw [hdb, hn]
    exact Int.lt_succ _
  · rw [hdb] at hr
    rcases List.mem_append.mp (hsub.subset hr) with hr | hr
    · exact absurd hid (ne_of_lt (h.wf.ids r hr).2)
    · rw [List.mem_singleton.mp hr, JournalDb.rowOf_dur, hdur]
      rfl
  · rcases find?_onNewCall hj with ⟨rfl, rfl⟩ | hj
    · rw [hsaved]
      exact ⟨hdur, cid, rfl⟩
    · exact absurd hkey (ne_of_lt (h.entries j e hj))

/-! ### Sessions -/

theorem noEnd_of_mem {msg : String} {ev : CallEvent}
    (h : ev ∈ handleFritzMessage w.platform msg) : NoEnd (.call m ev) := by
  obtain ⟨cid, ⟨_, _, rfl, -⟩ | ⟨_, rfl, hs⟩ | ⟨_, rfl⟩⟩ := handleFritzMessage_not_disconnected h
  · exact trivial
  · exact fun _ => hs
  · exact trivial

theorem Untimed.handleAll (h : Untimed id s) {evs : List CallEvent}
    (hev : ∀ ev ∈ evs, NoEnd (.call m ev)) : Untimed id (s.handleAll w m evs) :=
  Along.inv (P := fun _ ev => NoEnd (.call m ev)) (fun _ _ h hev => h.step hev) h
    (along_of_forall hev)

theorem noEnd_of_foreign {ev : AppEvent} (h : ev.pid? ≠ some fritzPluginId) : NoEnd ev := by
  match ev, h with
  | .call _ (.callStatus _ _ _), h => exact fun hp => absurd (congrArg some hp) h
  | .call _ (.newCall _ _ _ _), _ | .call _ (.callInfo _ _ _), _ | .work _, _ | .deliver _, _ =>
      exact trivial

theorem Untimed.session (h : Untimed id s) {st : SessionStep} (hst : st.Commits) :
    Untimed id (s.session w st) := by
  cases st with
  | line m msg => exact h.handleAll fun _ hev => noEnd_of_mem hev
  | other ev => exact h.step (noEnd_of_foreign hst.2)

theorem KeysPassed.session (h : KeysPassed s) {st : SessionStep} (hst : st.Commits) :
    KeysPassed (s.session w st) := by
  cases st with
  | line m msg =>
      refine run_inv (fun s ev (h : KeysPassed s) => ?_) h _
      exact h.step fun m' e => by cases e; exact hst
  | other ev => exact h.step hst.1

/-- The line that announces a call inserts its row under the next id. -/
theorem Untimed.announcement (h : KeysPassed s) (hok : w.dbIsOk = true) (hm : m.saveFault = none)
    {cid : Nat} {msg : String} (ha : Announces w.platform cid msg) :
    Untimed s.db.nextcallid (s.session w (.line m msg)) := by
  obtain ⟨type, status, info, hmsg, hs⟩ := handleFritzMessage_announces ha
  show Untimed _ (s.handleAll w m (handleFritzMessage w.platform msg))
  rw [hmsg]
  have hstatus : status ≠ .disconnected := by rcases hs with rfl | rfl <;> decide
  exact (Untimed.announced h hok hm cid type hstatus).handleAll fun ev hev => by
    rw [List.mem_singleton.mp hev]; exact trivial

theorem Untimed.sessions (h : Untimed id s) {sts : List SessionStep} (hc : ∀ st ∈ sts, st.Commits) :
    Untimed id (run (App.session w) s sts) :=
  Along.inv (fun _ _ h hst => h.session hst) h (along_of_forall hc)

theorem KeysPassed.sessions (h : KeysPassed s) {sts : List SessionStep}
    (hc : ∀ st ∈ sts, st.Commits) : KeysPassed (run (App.session w) s sts) :=
  Along.inv (fun _ _ h hst => h.session hst) h (along_of_forall hc)

end

end App

/-- A session in which a call is announced, then accepted, then ended; anything may happen before,
between and after. -/
structure Conversation (p : Platform) where
  cid : Nat
  announce : String
  connect : String
  disconnect : String
  announces : Announces p cid announce
  connects : IsLine p "CONNECT" 1 cid connect
  disconnects : IsLine p "DISCONNECT" 2 cid disconnect
  atAnnounce : Moment
  atConnect : Moment
  atDisconnect : Moment
  before : List SessionStep
  ringing : List SessionStep
  connected : List SessionStep
  after : List SessionStep

def Conversation.steps {p : Platform} (c : Conversation p) : List SessionStep :=
  c.before ++ .line c.atAnnounce c.announce :: (c.ringing ++ .line c.atConnect c.connect ::
    (c.connected ++ .line c.atDisconnect c.disconnect :: c.after))

/-- The id that is next when the call is announced. -/
def Conversation.rowId (w : World) (db : JournalDb) (c : Conversation w.platform) : Int :=
  (run (App.session w) (App.start db) c.before).db.nextcallid

/-- **The row of a call of the box holds the connected time exactly when that is zero.** -/
theorem duration_iff (w : World) (hok : w.dbIsOk = true) {db : JournalDb} (hdb : JournalDb.WF db)
    (c : Conversation w.platform) (hc : ∀ st ∈ c.steps, st.Commits) {r : CallRow}
    (hr : r ∈ (run (App.session w) (App.start db) c.steps).db.calls) (hid : r.id = c.rowId w db) :
    r.dur = c.atDisconnect.now - c.atConnect.now ↔ c.atConnect.now = c.atDisconnect.now := by
  have hbefore : (run (App.session w) (App.start db) c.before).KeysPassed :=
    (App.KeysPassed.start hdb).sessions fun st hst => hc st (List.mem_append_left _ hst)
  have hm := hc (.line c.atAnnounce c.announce) (by simp [Conversation.steps])
  have hann := App.Untimed.announcement hbefore hok hm c.announces
  rw [Conversation.steps, run_append, run_cons] at hr
  have h0 := (hann.sessions fun st hst => hc st (List.mem_append_right _ (.tail _ hst))).rows r hr hid
  omega

/-- An incoming call on the box, accepted at `t₁` and ended at `t₂`. -/
def incomingCall (t₁ t₂ : Int) : Conversation utcPlatform where
  cid := 0
  announce := "18.11.12 22:38:42;RING;0;11;12;SIP0;"
  connect := "18.11.12 22:38:50;CONNECT;0;4;11;"
  disconnect := "18.11.12 22:40:20;DISCONNECT;0;90;"
  announces := .inr ⟨_, _, _, rfl, by decide, by decide⟩
  connects := ⟨_, _, _, rfl, by decide, by decide⟩
  disconnects := ⟨_, _, _, rfl, by decide, by decide⟩
  atAnnounce := .quiet 1353274722
  atConnect := .quiet t₁
  atDisconnect := .quiet t₂
  before := []
  ringing := []
  connected := []
  after := []

/-- A call that is accepted and ended within a second. -/
theorem duration_iff_zero :
    (⟨1, .incoming, .ok, "2012-11-18T21:38:42", "2012-11-18T21:38:50", 0, "11", "", "12", ""⟩ :
      CallRow).dur = (1353274730 : Int) - 1353274730 ↔ (1353274730 : Int) = 1353274730 :=
  duration_iff .utc rfl JournalDb.WF.initial (incomingCall 1353274730 1353274730) (by decide)
    (by decide) rfl

/-- A call of ninety seconds: its row says none. -/
theorem ninety_seconds_not_stored :
    let c := incomingCall 1353274730 1353274820
    ∃ r ∈ (run (App.session .utc) (App.start .initial) c.steps).db.calls,
      r.id = c.rowId .utc .initial ∧ r.dur ≠ c.atDisconnect.now - c.atConnect.now := by
  decide

end Cmon
