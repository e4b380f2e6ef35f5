import Cmon.App.MainApp

/-!
# App — keys

`KeysPassed`: the journal is well formed, and the key of an active entry is one that the counter
has passed.  It holds of every state a run without failing saves reaches, so the id that a new
row is given is the key of no entry.
-/

namespace Cmon
open Library

namespace App

/-- The journal is well formed, and every key is one the counter has passed. -/
structure KeysPassed (s : App) : Prop where
  wf : JournalDb.WF s.db
  entries : ∀ k e, s.activeCalls.find? k = some e → e.dbKey < s.db.nextcallid

section
variable {w : World} {m : Moment} {s : App}

theorem KeysPassed.start {db : JournalDb} (h : JournalDb.WF db) : KeysPassed (App.start db) :=
  ⟨h, fun _ _ h => nomatch h⟩

/-- A save with no failure. -/
theorem saved_lt (hm : m.saveFault = none) (h : KeysPassed s) {e : JournalEntry}
    (he : e.dbKey < s.db.nextcallid) :
    (saved w m s e).entry.dbKey < (saved w m s e).db.nextcallid := by
  have hk : m.KeepsKey := by simp [Moment.KeepsKey, hm]
  have hpos := h.wf.pos
  rcases (saves_saved w m s e).counter fun _ => hk with ⟨hn, hd⟩ | ⟨hn, -, hd⟩ <;> omega

theorem KeysPassed.edit (hm : m.saveFault = none) (h : KeysPassed s) {k : JournalKey}
    {e e' : JournalEntry} (he : s.activeCalls.find? k = some e) (hd : e'.dbKey = e.dbKey) :
    KeysPassed (s.edit w m k e') := by
  refine ⟨(saves_saved w m s e').wf h.wf, fun j e₁ hj => ?_⟩
  rcases find?_edit he hj with ⟨-, rfl⟩ | ⟨-, hj⟩
  · exact saved_lt hm h (hd ▸ h.entries k e he)
  · exact lt_of_lt_of_le (h.entries j e₁ hj) (saves_saved w m s e').nextcallid_le

theorem KeysPassed.step (h : KeysPassed s) {ev : AppEvent}
    (hm : ∀ m ∈ ev.moment?, m.saveFault = none) : KeysPassed (s.step w ev) := by
  have ha := step_acts w s ev
  generalize s.step w ev = s' at ha
  cases ha with
  | noStatus | noInfo => exact h
  | worked | unanswered => exact ⟨h.wf, h.entries⟩
  | created m pid cid type status =>
      refine ⟨(saves_saved w m s _).wf h.wf, fun j e₁ hj => ?_⟩
      rcases find?_onNewCall hj with ⟨-, rfl⟩ | hj
      · exact saved_lt (hm m rfl) h (by rw [newEntry_dbKey]; exact h.wf.pos)
      · exact lt_of_lt_of_le (h.entries j e₁ hj) (saves_saved w m s _).nextcallid_le
  | ended => exact ⟨h.wf, fun j e hj => h.entries j e (find?_ended hj)⟩
  | @moved m _ _ _ _ he => exact h.edit (hm m rfl) he (JournalEntry.setState_dbKey _ _ _)
  | @informed m _ _ _ _ _ rq he hask =>
      exact KeysPassed.edit (s := { s with requests := rq }) (hm m rfl) ⟨h.wf, h.entries⟩ he
        hask.entry.dbKey
  | @named m _ _ _ _ rp _ he hr =>
      exact KeysPassed.edit (s := { s with responses := rp }) (hm m rfl) ⟨h.wf, h.entries⟩
        (findActiveEntry_find? he) (hr ▸ (relabelled_setName _ _ _).dbKey)
  | @copied m _ e' _ _ _ _ he hr =>
      refine ⟨(saves_saved w m s e').wf h.wf, fun j e₁ hj => ?_⟩
      exact lt_of_lt_of_le (h.entries j e₁ hj) (saves_saved w m s e').nextcallid_le

end

/-- Along a run whose saves commit. -/
theorem KeysPassed.steps {w : World} {s : App} (h : KeysPassed s) {evs : List AppEvent}
    (hm : ∀ ev ∈ evs, ∀ m ∈ ev.moment?, m.saveFault = none) :
    KeysPassed (run (App.step w) s evs) :=
  Along.inv (fun _ _ h hm => h.step hm) h (along_of_forall hm)

end App
end Cmon
