import Cmon.App.Ownership

/-!
# App — names found by the resolvers

A request for a look-up and its response name the call by a database key, and the key finds the
entry again: the first active entry that has it, or else the row.  Whose row an id is, is noted
beside the application when the row is inserted (`Owners`).

* `Attributed`: at a step, a look-up is asked for the call that the plug-in's event is about, and
  a response changes the entry and the row of the call whose number was looked up, and no others.
* `RowsTell.step`: the keys of the active entries stay those of their own rows, as long as no key
  of a plug-in is announced twice and no first save fails after the entry was given its key
  (`Apart`).
* `attributed_of_identified`: this holds along every run in which no key in use is announced
  again, no first save fails after the entry was given its key, and no number is told of a call
  that has no row (`Identified`).
-/

namespace Cmon
open Library

/-- Whose row an id is: the address of the entry it was inserted for. -/
abbrev Owners := Int → Option Nat

namespace App

/-- The entry the handler of an event saves. -/
def savedCall (s : App) : AppEvent → Option Nat
  | .call _ (.newCall _ _ _ _) => some s.allocated
  | .call _ (.callStatus pid cid _) | .call _ (.callInfo pid cid _) =>
      (s.activeCalls.find? (journalKey pid cid)).map (·.self)
  | .work _ => none
  | .deliver _ =>
      s.responses.head?.bind fun r => (s.findActiveEntry r.callId).map (·.2.self)

/-- The owners after a save made for `call`: the counter tells whether a row was inserted. -/
def note (o : Owners) (db db' : JournalDb) (call : Option Nat) : Owners :=
  if db'.nextcallid = db.nextcallid then o else Function.update o db.nextcallid call

/-- The application, what was announced, and whose rows the ids are. -/
structure Noted where
  app : App
  history : History
  owners : Owners

def Noted.start (db : JournalDb) : Noted := ⟨App.start db, .start, fun _ => none⟩

def Noted.step (w : World) (t : Noted) (ev : AppEvent) : Noted :=
  ⟨t.app.step w ev, t.history.observe ev,
    note t.owners t.app.db (t.app.step w ev).db (t.app.savedCall ev)⟩

/-- Look-ups and their answers stay with the call, at the step `ev`. -/
structure Attributed (w : World) (t : Noted) (ev : AppEvent) : Prop where
  asked : ∀ m pid cid info, ev = .call m (.callInfo pid cid info) →
    ∀ q ∈ (t.step w ev).app.requests, q ∈ t.app.requests ∨
      t.history.newest (journalKey pid cid) = some q.call
  entries : ∀ m r rp, ev = .deliver m → t.app.responses = r :: rp → ∀ k e,
    t.app.activeCalls.find? k = some e → e.self ≠ r.call →
      (t.step w ev).app.activeCalls.find? k = some e
  rows : ∀ m r rp, ev = .deliver m → t.app.responses = r :: rp →
    ∀ row ∈ (t.step w ev).app.db.calls, row ∈ t.app.db.calls ∨
      (t.step w ev).owners row.id = some r.call

/-- No first save of an entry fails after it has set the key. -/
def Kept (t : Noted) : AppEvent → Prop
  | .call m (.newCall _ _ _ _) => m.KeepsKey
  | .call m (.callStatus pid cid _) =>
      ∀ e ∈ t.app.activeCalls.find? (journalKey pid cid), e.dbKey = 0 → m.KeepsKey
  | _ => True

/-- Numbers are told of a call with a key. -/
def Keyed (t : Noted) : AppEvent → Prop
  | .call _ (.callInfo pid cid _) =>
      ∀ e ∈ t.app.activeCalls.find? (journalKey pid cid), e.dbKey ≠ 0
  | _ => True

/-- No first save fails after it has set the key, in whatever handler. -/
def KeptEach (t : Noted) : AppEvent → Prop
  | .call m (.newCall _ _ _ _) => m.KeepsKey
  | .call m (.callStatus pid cid _) | .call m (.callInfo pid cid _) =>
      ∀ e ∈ t.app.activeCalls.find? (journalKey pid cid), e.dbKey = 0 → m.KeepsKey
  | .work _ => True
  | .deliver m => ∀ r ∈ t.app.responses.head?, r.callId = 0 → m.KeepsKey

/-- The event leaves the active calls apart. -/
def Apart (t : Noted) (ev : AppEvent) : Prop := Unused (t.app, t.history) ev ∧ KeptEach t ev

/-- The event is about a call that can be told from the others by its key. -/
def Identified (t : Noted) (ev : AppEvent) : Prop :=
  Unused (t.app, t.history) ev ∧ Kept t ev ∧ Keyed t ev

instance (t : Noted) : ∀ ev, Decidable (Keyed t ev)
  | .call _ (.callInfo pid cid _) => inferInstanceAs (Decidable
      (∀ e ∈ t.app.activeCalls.find? (journalKey pid cid), e.dbKey ≠ 0))
  | .call _ (.callStatus _ _ _) | .call _ (.newCall _ _ _ _) | .work _ | .deliver _ =>
      .isTrue trivial

instance (t : Noted) : ∀ ev, Decidable (Kept t ev)
  | .call m (.newCall _ _ _ _) => inferInstanceAs (Decidable m.KeepsKey)
  | .call m (.callStatus pid cid _) => inferInstanceAs (Decidable
      (∀ e ∈ t.app.activeCalls.find? (journalKey pid cid), e.dbKey = 0 → m.KeepsKey))
  | .call _ (.callInfo _ _ _) | .work _ | .deliver _ => .isTrue trivial

instance (t : Noted) : ∀ ev, Decidable (KeptEach t ev)
  | .call m (.newCall _ _ _ _) => inferInstanceAs (Decidable m.KeepsKey)
  | .call m (.callStatus pid cid _) | .call m (.callInfo pid cid _) => inferInstanceAs (Decidable
      (∀ e ∈ t.app.activeCalls.find? (journalKey pid cid), e.dbKey = 0 → m.KeepsKey))
  | .work _ => .isTrue trivial
  | .deliver m => inferInstanceAs (Decidable
      (∀ r ∈ t.app.responses.head?, r.callId = 0 → m.KeepsKey))

instance (t : Noted) (ev : AppEvent) : Decidable (Apart t ev) :=
  inferInstanceAs (Decidable (Unused _ ev ∧ KeptEach t ev))

instance (t : Noted) (ev : AppEvent) : Decidable (Identified t ev) :=
  inferInstanceAs (Decidable (Unused _ ev ∧ Kept t ev ∧ Keyed t ev))

/-! ### One save -/

/-- The key of an entry, when it has one, is that of its row. -/
def HasOwnRow (o : Owners) (e : JournalEntry) : Prop := e.dbKey ≠ 0 → o e.dbKey = some e.self

/-- An owner is known of ids the counter has passed. -/
def Passed (o : Owners) (db : JournalDb) : Prop :=
  0 < db.nextcallid ∧ ∀ id a, o id = some a → id < db.nextcallid

section
variable {w : World} {m : Moment} {db : JournalDb} {o : Owners} {e : JournalEntry} {call : Option Nat}

/-- Without a save no row is inserted. -/
@[simp] theorem note_self : note o db db call = o := if_pos rfl

theorem note_of_lt {db' : JournalDb} {id : Int} (h : id < db.nextcallid) :
    note o db db' call id = o id := by
  rw [note]
  split
  · rfl
  · exact Function.update_of_ne (ne_of_lt h) _ _

/-- Whose row an id was it stays. -/
theorem note_of_some (hp : Passed o db) {db' : JournalDb} {id : Int} {a : Nat} (h : o id = some a) :
    note o db db' call id = some a := by
  rw [note_of_lt (hp.2 id a h), h]

theorem HasOwnRow.note (hp : Passed o db) (h : HasOwnRow o e) (db' : JournalDb) :
    HasOwnRow (note o db db' call) e :=
  fun hk => note_of_some hp (h hk)

theorem passed_save (hm : e.dbKey = 0 → m.KeepsKey) (hp : Passed o db) :
    Passed (note o db (db.insertUpdateEntry w.platform w.dbIsOk m e).db call)
      (db.insertUpdateEntry w.platform w.dbIsOk m e).db := by
  rcases (JournalDb.insertUpdateEntry_saves w.platform w.dbIsOk m db e).counter hm with
    ⟨hn, -⟩ | ⟨hn, -⟩
  · rw [Passed, App.note, if_pos hn, hn]
    exact hp
  · refine ⟨by have := hp.1; omega, fun id a ha => ?_⟩
    rw [App.note, if_neg (by omega)] at ha
    by_cases h : id = db.nextcallid
    · omega
    · rw [Function.update_of_ne h] at ha
      have := hp.2 id a ha
      omega

/-- The saved entry has a row of its own, if it has a key. -/
theorem hasOwnRow_save (hm : e.dbKey = 0 → m.KeepsKey) (hp : Passed o db)
    (h : HasOwnRow o e) (hc : call = some e.self) :
    HasOwnRow (note o db (db.insertUpdateEntry w.platform w.dbIsOk m e).db call)
      (db.insertUpdateEntry w.platform w.dbIsOk m e).entry := by
  have hs := (JournalDb.insertUpdateEntry_saves w.platform w.dbIsOk m db e).entry.1
  intro hk
  rcases (JournalDb.insertUpdateEntry_saves w.platform w.dbIsOk m db e).counter hm with
    ⟨-, he⟩ | ⟨hn, -, he⟩
  · rw [he] at hk ⊢
    rw [note_of_some hp (h hk), hs]
  · rw [he, App.note, if_neg (by omega), Function.update_self, hc, hs]

/-- An edit of the active entry at `k` leaves every active entry with its own row. -/
theorem hasOwnRow_edit (hm : e.dbKey = 0 → m.KeepsKey) {s : App}
    (hp : Passed o s.db) (h : ∀ k e, s.activeCalls.find? k = some e → HasOwnRow o e)
    {k : JournalKey} {e' : JournalEntry} (he : s.activeCalls.find? k = some e)
    (hs : e'.self = e.self) (hk : e'.dbKey = e.dbKey) (hc : call = some e.self)
    {j : JournalKey} {e₁ : JournalEntry} (hj : (s.edit w m k e').activeCalls.find? j = some e₁) :
    HasOwnRow (note o s.db (s.edit w m k e').db call) e₁ := by
  have hown : HasOwnRow o e' := fun hne => by
    rw [hk, hs]
    exact h k e he (hk ▸ hne)
  rcases find?_edit he hj with ⟨-, rfl⟩ | ⟨-, hj⟩
  · exact hasOwnRow_save (fun h0 => hm (hk ▸ h0)) hp hown (by rw [hc, hs])
  · exact (h j e₁ hj).note hp _

end

/-! ### The run -/

/-- Every key of an active entry is that of the call's row. -/
structure RowsTell (t : Noted) : Prop where
  inStep : InStep (t.app, t.history)
  passed : Passed t.owners t.app.db
  entries : ∀ k e, t.app.activeCalls.find? k = some e → HasOwnRow t.owners e

theorem RowsTell.start {db : JournalDb} (h : 0 < db.nextcallid) : RowsTell (.start db) where
  inStep := .start db
  passed := ⟨h, fun _ _ h => nomatch h⟩
  entries _ _ h := nomatch h

theorem savedCall_deliver {s : App} {m : Moment} {r : Response} {rp : List Response}
    {k : JournalKey} {e : JournalEntry} (hr : s.responses = r :: rp)
    (he : s.findActiveEntry r.callId = some (k, e)) : s.savedCall (.deliver m) = some e.self := by
  simp [savedCall, hr, he]

/-- The entries after a step, in terms of those before. -/
theorem RowsTell.step {w : World} {t : Noted} (h : RowsTell t) {ev : AppEvent}
    (hi : Apart t ev) : RowsTell (t.step w ev) := by
  have hin : InStep ((t.step w ev).app, (t.step w ev).history) := h.inStep.watch hi.1
  have ha := step_acts w t.app ev
  rw [Noted.step] at hin ⊢
  generalize t.app.step w ev = s' at ha hin
  cases ha with
  | noStatus | noInfo | worked | unanswered =>
      rw [note_self]
      exact ⟨hin, h.passed, h.entries⟩
  | created m pid cid type status =>
      have hm := fun _ : (t.app.newEntry m pid cid type status).dbKey = 0 => hi.2
      refine ⟨hin, passed_save hm h.passed, fun j e hj => ?_⟩
      rcases find?_onNewCall hj with ⟨-, rfl⟩ | hj
      · -- the id it gets is one the counter has not passed, so nobody owns it yet
        exact hasOwnRow_save hm h.passed (fun hne => absurd (newEntry_dbKey ..) hne)
          (by rw [newEntry_self]; rfl)
      · exact (h.entries j e hj).note h.passed _
  | ended m pid cid =>
      rw [note_self]
      exact ⟨hin, h.passed, fun j e hj => h.entries j e (find?_ended hj)⟩
  | @moved m pid cid status e he hs =>
      have hm := hi.2 e he
      refine ⟨hin, passed_save (fun h0 => hm (by simpa using h0)) h.passed, fun j e₁ hj => ?_⟩
      exact hasOwnRow_edit hm h.passed h.entries he (JournalEntry.setState_self _ _ _)
        (JournalEntry.setState_dbKey _ _ _) (by simp [savedCall, he]) hj
  | @informed m pid cid info e e' rq he hask =>
      have hm := hi.2 e he
      refine ⟨hin, passed_save (fun h0 => hm (hask.entry.dbKey ▸ h0)) h.passed, fun j e₁ hj => ?_⟩
      exact hasOwnRow_edit (s := { t.app with requests := rq }) hm h.passed h.entries he
        hask.entry.self hask.entry.dbKey (by simp [savedCall, he]) hj
  | @named m k e e' r rp hrp he hr =>
      have hrel := relabelled_setName r.userData r.sn e
      have hm := fun h0 : e.dbKey = 0 =>
        hi.2 r (by simp [hrp]) ((findActiveEntry_dbKey he).symm.trans h0)
      refine ⟨hin, passed_save (fun h0 => hm (hrel.dbKey ▸ hr ▸ h0)) h.passed, fun j e₁ hj => ?_⟩
      exact hasOwnRow_edit (s := { t.app with responses := rp }) hm h.passed h.entries
        (findActiveEntry_find? he) (hr ▸ hrel.self) (hr ▸ hrel.dbKey) (savedCall_deliver hrp he) hj
  | @copied m e e' r rp hrp hn he hr =>
      have hrel := relabelled_setName r.userData r.sn e
      have hm := fun h0 : e'.dbKey = 0 =>
        hi.2 r (by simp [hrp]) ((JournalDb.getEntry_dbKey he).symm.trans (hrel.dbKey ▸ hr ▸ h0))
      exact ⟨hin, passed_save hm h.passed, fun j e₁ hj => (h.entries j e₁ hj).note h.passed _⟩

/-- So is every key in a queue of the resolver. -/
structure KeysTell (t : Noted) : Prop extends RowsTell t where
  requests : ∀ q ∈ t.app.requests, q.callId ≠ 0 ∧ t.owners q.callId = some q.call
  responses : ∀ r ∈ t.app.responses, r.callId ≠ 0 ∧ t.owners r.callId = some r.call

theorem KeysTell.start {db : JournalDb} (h : 0 < db.nextcallid) : KeysTell (.start db) where
  toRowsTell := .start h
  requests _ h := nomatch h
  responses _ h := nomatch h

/-- No call without a key has a number that is looked up. -/
theorem Identified.apart {t : Noted} (h : KeysTell t) {ev : AppEvent} (hi : Identified t ev) :
    Apart t ev := by
  refine ⟨hi.1, ?_⟩
  match ev with
  | .call m (.newCall pid cid type status) => exact hi.2.1
  | .call m (.callStatus pid cid status) => exact hi.2.1
  | .call m (.callInfo pid cid info) => exact fun e he h0 => absurd h0 (hi.2.2 e he)
  | .work _ => trivial
  | .deliver m => exact fun r hr h0 => absurd h0 (h.responses r (List.mem_of_mem_head? hr)).1

/-- The queues after a step, in terms of those before. -/
theorem KeysTell.step {w : World} {t : Noted} (h : KeysTell t) {ev : AppEvent}
    (hi : Identified t ev) : KeysTell (t.step w ev) := by
  have hrows := h.toRowsTell.step (w := w) (hi.apart h)
  have hq : ∀ {db' call} {id : Int} {a : Nat}, id ≠ 0 ∧ t.owners id = some a →
      id ≠ 0 ∧ note t.owners t.app.db db' call id = some a :=
    fun ⟨hne, ho⟩ => ⟨hne, note_of_some h.passed ho⟩
  have ha := step_acts w t.app ev
  rw [Noted.step] at hrows ⊢
  generalize t.app.step w ev = s' at ha hrows
  refine ⟨hrows, ?_, ?_⟩ <;> clear hrows
  · cases ha with
    | noStatus | noInfo | unanswered | ended => rw [note_self]; exact h.requests
    | worked hrq => rw [note_self]; exact fun q hm => h.requests q (hrq q hm)
    | created | moved | named | copied => exact fun q hm => hq (h.requests q hm)
    | @informed m pid cid info e e' rq he hask =>
        intro q hmem
        have hkey := hi.2.2 e he
        obtain ⟨new, hnew, hof⟩ := hask.requests
        rw [show rq = t.app.requests ++ new from hnew] at hmem
        rcases List.mem_append.mp hmem with hmem | hmem
        · exact hq (h.requests q hmem)
        · -- the entry has its row when the request is made
          obtain ⟨hid, hcall⟩ := hof q hmem
          rw [hid, hcall]
          exact hq ⟨hkey, h.entries _ _ he hkey⟩
  · cases ha with
    | noStatus | noInfo | ended => rw [note_self]; exact h.responses
    | worked _ hrp =>
        rw [note_self]
        intro r hm
        rcases hrp r hm with hm | ⟨q, hm, hid, hcall⟩
        · exact h.responses r hm
        · -- a new response names what its request names
          rw [hid, hcall]
          exact h.requests q hm
    | unanswered hrp => rw [note_self]; exact fun r hm => h.responses r (hrp r hm)
    | created | moved | informed => exact fun r hm => hq (h.responses r hm)
    | named hrp | copied hrp => exact fun r hm => hq (h.responses r (hrp ▸ .tail _ hm))

/-- The entry a response is matched to is that of the call. -/
theorem KeysTell.matched {t : Noted} (h : KeysTell t) {r : Response} {rp : List Response}
    {k : JournalKey} {e : JournalEntry} (hr : t.app.responses = r :: rp)
    (he : t.app.findActiveEntry r.callId = some (k, e)) : e.self = r.call := by
  obtain ⟨hne, ho⟩ := h.responses r (hr ▸ .head _)
  have hkey := findActiveEntry_dbKey he
  have hown := h.entries k e (findActiveEntry_find? he) (by rwa [hkey])
  rw [hkey, ho] at hown
  exact (Option.some.inj hown).symm

/-- A save of an entry that has the key of a response writes the row of the call. -/
theorem KeysTell.row {w : World} {t : Noted} (h : KeysTell t) {m : Moment} {r : Response}
    {rp : List Response} (hr : t.app.responses = r :: rp) {e : JournalEntry}
    (hkey : e.dbKey = r.callId) {row : CallRow}
    (hrow : row ∈ (t.app.db.insertUpdateEntry w.platform w.dbIsOk m e).db.calls)
    {db' : JournalDb} {call : Option Nat} :
    row ∈ t.app.db.calls ∨ note t.owners t.app.db db' call row.id = some r.call := by
  obtain ⟨hne, ho⟩ := h.responses r (hr ▸ .head _)
  rcases (JournalDb.insertUpdateEntry_saves w.platform w.dbIsOk m t.app.db e).mem_calls hrow with
    hmem | ⟨-, ⟨h0, -⟩ | ⟨-, hid⟩⟩
  · exact .inl hmem
  · exact absurd (hkey.symm.trans h0) hne
  · rw [hid, hkey]
    exact .inr (note_of_some h.passed ho)

/-- A new request is made of the entry under the key, which is that of the newest call. -/
theorem KeysTell.asked {w : World} {t : Noted} (h : KeysTell t) {m : Moment} {pid cid : Nat}
    {info : CallInfo} {q : Request}
    (hq : q ∈ (t.app.step w (.call m (.callInfo pid cid info))).requests) :
    q ∈ t.app.requests ∨ t.history.newest (journalKey pid cid) = some q.call := by
  have ha := step_acts w t.app (.call m (.callInfo pid cid info))
  generalize t.app.step w _ = s' at ha hq
  cases ha with
  | noInfo => exact .inl hq
  | informed he hask =>
      obtain ⟨new, hnew, hof⟩ := hask.requests
      rcases List.mem_append.mp (hnew ▸ hq : q ∈ t.app.requests ++ new) with hq | hq
      · exact .inl hq
      · have hn := h.inStep.newest (journalKey pid cid)
        rw [he] at hn
        exact .inr (by rw [(hof q hq).2]; exact hn.symm)

/-- The entry a response edits is the call's, so another entry is left as it is. -/
theorem KeysTell.others {w : World} {t : Noted} (h : KeysTell t) {m : Moment} {r : Response}
    {rp : List Response} (hr : t.app.responses = r :: rp) {k : JournalKey} {e : JournalEntry}
    (he : t.app.activeCalls.find? k = some e) (hne : e.self ≠ r.call) :
    (t.app.step w (.deliver m)).activeCalls.find? k = some e := by
  have ha := step_acts w t.app (.deliver m)
  generalize t.app.step w (.deliver m) = s' at ha
  cases ha with
  | unanswered => exact he
  | @named _ k' _ _ _ _ hrp hfind =>
      rw [hr] at hrp
      cases hrp
      have hself := h.matched hr hfind
      by_cases hk : k = k'
      · rw [hk, findActiveEntry_find? hfind] at he
        exact absurd ((Option.some.inj he) ▸ hself) hne
      · exact (OrderedMap.find?_modify_of_ne _ hk _).trans he
  | copied => exact he

/-- The entry a response saves has the response's key, whether it is active or read back. -/
theorem KeysTell.answered {w : World} {t : Noted} (h : KeysTell t) {m : Moment} {r : Response}
    {rp : List Response} (hr : t.app.responses = r :: rp) {row : CallRow}
    (hrow : row ∈ (t.app.step w (.deliver m)).db.calls) {db' : JournalDb} {call : Option Nat} :
    row ∈ t.app.db.calls ∨ note t.owners t.app.db db' call row.id = some r.call := by
  have ha := step_acts w t.app (.deliver m)
  generalize t.app.step w (.deliver m) = s' at ha hrow
  cases ha with
  | unanswered => exact .inl hrow
  | named hrp hfind heq =>
      rw [hr] at hrp
      cases hrp
      refine h.row hr ?_ hrow
      rw [heq, (relabelled_setName _ _ _).dbKey]
      exact findActiveEntry_dbKey hfind
  | copied hrp _ hget heq =>
      rw [hr] at hrp
      cases hrp
      refine h.row hr ?_ hrow
      rw [heq, (relabelled_setName _ _ _).dbKey]
      exact JournalDb.getEntry_dbKey hget

theorem KeysTell.attributed {w : World} {t : Noted} (h : KeysTell t) (ev : AppEvent) :
    Attributed w t ev := by
  refine ⟨?_, ?_, ?_⟩
  · rintro m pid cid info rfl q hq
    exact h.asked hq
  · rintro m r rp rfl hr k e he hne
    exact h.others hr he hne
  · rintro m r rp rfl hr row hrow
    exact h.answered hr hrow

/-- **Along a run whose calls can be told apart by their keys, a name that was looked up for one
call's number reaches the entry and the row of that call only.** -/
theorem attributed_of_identified (w : World) {db : JournalDb} (hdb : 0 < db.nextcallid)
    (evs : List AppEvent) (h : Along (Noted.step w) Identified (.start db) evs) :
    Along (Noted.step w) (Attributed w) (.start db) evs :=
  h.mono (I := KeysTell) (fun _ _ ht hi => ht.step hi) (fun _ ev ht _ => ht.attributed ev)
    (.start hdb)

/-- Two calls; the number of the first is looked up while both are active. -/
def twoCalls : List AppEvent :=
  [.call (.quiet 0) (.newCall 0x10000020 1 .incoming .offering),
    .call (.quiet 0) (.callInfo 0x10000020 1 ⟨"", "12", "", ""⟩),
    .call (.quiet 5) (.newCall 0x10000020 0 .incoming .offering),
    .work [knows "12" "Bob"],
    .deliver (.quiet 6)]

theorem attributed_twoCalls : Along (Noted.step .utc) (Attributed .utc) (.start .initial) twoCalls :=
  attributed_of_identified .utc (by decide) twoCalls (by decide)

/-- The same without a usable journal. -/
def noJournal : World := { World.utc with dbIsOk := false }

/-- Without a usable journal both calls have the key `0`, and the name found for the first is
given to the second. -/
theorem no_journal_misattributes :
    ¬ Along (Noted.step noJournal) (Attributed noJournal) (.start .initial) twoCalls := by
  intro h
  have hd := along_iff.mp h (twoCalls.take 4) (.deliver (.quiet 6)) [] rfl
  have hbefore : ((run (Noted.step noJournal) (.start .initial) (twoCalls.take 4)).app.activeCalls
      |>.find? (journalKey 0x10000020 0)).map (fun e => (e.self, e.callerName)) = some (1, "") := by
    decide
  obtain ⟨e, he, heq⟩ := Option.map_eq_some_iff.mp hbefore
  obtain ⟨hself, hname⟩ := Prod.mk.inj heq
  have hkept := hd.entries (.quiet 6) ⟨0, .caller, "Bob", 0⟩ [] rfl (by decide) _ e he
    (by rw [hself]; decide)
  have hafter : ((run (Noted.step noJournal) (.start .initial) twoCalls).app.activeCalls
      |>.find? (journalKey 0x10000020 0)).map (·.callerName) = some "Bob" := by decide
  have hsame := hafter.symm.trans (congrArg (Option.map (·.callerName)) hkept)
  rw [Option.map_some, hname] at hsame
  revert hsame
  decide

end App
end Cmon
