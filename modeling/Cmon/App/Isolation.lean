import Cmon.App.OneCall

/-!
# App — calls do not disturb each other

`CallRun` is a run in which a call is announced under a key that is not in use, no save fails and
nothing is purged.  `CallRun.ownEvents` are the events of the run that belong to the call: the
statuses and infos under its key, and the responses that carry the id of its row.

* `isolation`: two runs that announce a call alike and have the same events of it end with the
  same row of it, apart from the id.
-/

namespace Cmon
open Library

/-- A run with a call: what happened before, the announcement, and what happens after it. -/
structure CallRun (w : World) (m : Moment) (pid cid : Nat) (type : CallType)
    (status : CallStatus) where
  db : JournalDb
  before : List AppEvent
  after : List AppEvent
  wf : JournalDb.WF db
  calm : ∀ ev ∈ before ++ .call m (.newCall pid cid type status) :: after, ev.Calm
  free : (run (App.step w) (.start db) before).activeCalls.find? (journalKey pid cid) = none
  once : ∀ ev ∈ after, ¬ ev.Announces (journalKey pid cid)

namespace CallRun
variable {w : World} {m : Moment} {pid cid : Nat} {type : CallType} {status : CallStatus}

/-- The state in which the call is announced. -/
def announcedIn (c : CallRun w m pid cid type status) : App :=
  run (App.step w) (.start c.db) c.before

/-- The id of the call's row. -/
def rowId (c : CallRun w m pid cid type status) : Int := c.announcedIn.db.nextcallid

/-- The state after the announcement. -/
def announced (c : CallRun w m pid cid type status) : App :=
  c.announcedIn.step w (.call m (.newCall pid cid type status))

/-- The state at the end. -/
def final (c : CallRun w m pid cid type status) : App :=
  run (App.step w) (.start c.db) (c.before ++ .call m (.newCall pid cid type status) :: c.after)

/-- The rows of the call at the end. -/
def rows (c : CallRun w m pid cid type status) : List CallRow :=
  c.final.db.calls.filter fun r => r.id = c.rowId

/-- The events of the call. -/
def ownEvents (c : CallRun w m pid cid type status) : List OwnEvent :=
  App.ownEvents w (journalKey pid cid) c.rowId c.announced c.after

/-- **The end of a run shows a call as its own events make it.** -/
theorem shows (hok : w.dbIsOk = true) (c : CallRun w m pid cid type status) :
    App.Shows (journalKey pid cid) c.rowId c.final
      (run (OneCall.step w) (.start w.platform m pid cid type status) c.ownEvents) := by
  have hkeys : App.KeysPassed c.announcedIn := by
    refine (App.KeysPassed.start c.wf).steps fun ev hev m hm => ?_
    exact (c.calm ev (List.mem_append_left _ hev) m hm).saveFault
  have hm : m.Calm := c.calm _ (List.mem_append_right _ (.head _)) m rfl
  rw [final, run_append]
  exact (App.Shows.announced hkeys hok hm c.free type status).steps hok
    (fun ev hev => c.calm ev (List.mem_append_right _ (.tail _ hev))) c.once

end CallRun

/-- **The row of a call, apart from its id, is made by the events of the call alone**, whatever
else happens, before the announcement and after it. -/
theorem isolation {w : World} (hok : w.dbIsOk = true) {m : Moment} {pid cid : Nat} {type : CallType}
    {status : CallStatus} (c₁ c₂ : CallRun w m pid cid type status)
    (h : c₁.ownEvents = c₂.ownEvents) :
    ∃ row, c₁.rows.map (·.bare) = [row] ∧ c₂.rows.map (·.bare) = [row] := by
  refine ⟨_, (c₁.shows hok).rows, ?_⟩
  rw [h]
  exact (c₂.shows hok).rows

/-- An incoming call, the look-up of its number, and its end. -/
def aloneRun : CallRun .utc (.quiet 0) 0x10000020 1 .incoming .offering where
  db := .initial
  before := []
  after :=
    [.call (.quiet 1) (.callInfo 0x10000020 1 ⟨"", "12", "", ""⟩), .work [knows "12" "Bob"],
      .call (.quiet 5) (.callStatus 0x10000020 1 .connected), .deliver (.quiet 6),
      .call (.quiet 7) (.callStatus 0x10000020 1 .idle)]
  wf := .initial
  calm := by decide
  free := rfl
  once := by decide

/-- The same beside an outgoing call. -/
def crowdedRun : CallRun .utc (.quiet 0) 0x10000020 1 .incoming .offering where
  db := .initial
  before := [.call (.quiet (-3)) (.newCall 0x10000020 0 .outgoing .dialing)]
  after :=
    [.call (.quiet 0) (.callStatus 0x10000020 0 .connected),
      .call (.quiet 1) (.callInfo 0x10000020 1 ⟨"", "12", "", ""⟩), .work [knows "12" "Bob"],
      .call (.quiet 5) (.callStatus 0x10000020 1 .connected),
      .call (.quiet 5) (.callStatus 0x10000020 0 .idle), .deliver (.quiet 6),
      .call (.quiet 7) (.callStatus 0x10000020 1 .idle)]
  wf := .initial
  calm := by decide
  free := by decide
  once := by decide

theorem isolation_crowded :
    ∃ row, aloneRun.rows.map (·.bare) = [row] ∧ crowdedRun.rows.map (·.bare) = [row] :=
  isolation rfl aloneRun crowdedRun rfl

end Cmon
