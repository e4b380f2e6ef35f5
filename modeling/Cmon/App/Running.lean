import Cmon.App.MainApp
import Cmon.Journal.Purge

/-!
# App — running calls and the purge

The insert of one call's row is followed by a purge, which looks at no entry: it deletes the row
of a call that is still running as it deletes any other, and the later updates of that call hit
no row, which is no error.

`saving` is the entry that the handler of an event saves, `UpdateHits` says that its update finds
the row.  `Spares` is the condition on an event: the row it inserts, if it inserts one, does not
push out the row of a running call.

* `updates_hit`: along a run whose events meet the condition every update finds its row.
-/

namespace Cmon
open Library

namespace App

/-- The entry that the handler of an event saves, and the moment. -/
def saving (w : World) (s : App) : AppEvent → Option (Moment × JournalEntry)
  | .call m (.newCall pid cid type status) => some (m, s.newEntry m pid cid type status)
  | .call m (.callStatus pid cid status) =>
      (s.activeCalls.find? (journalKey pid cid)).bind fun e =>
        if status = .idle then none
        else some (m, e.setState m.now (callState2JournalState status))
  | .call m (.callInfo pid cid info) =>
      (s.activeCalls.find? (journalKey pid cid)).map fun e => (m, (fillIn w m info e s.requests).1)
  | .work _ => none
  | .deliver m =>
      s.responses.head?.bind fun r =>
        ((s.findActiveEntry r.callId).map (·.2) <|> s.db.getEntry w.platform w.dbIsOk m r.callId
          (JournalEntry.create s.allocated 0 0 .unknown m.now)).map fun e =>
            (m, setName r.userData r.sn e)

/-- An update that the event makes finds its row. -/
def UpdateHits (w : World) (s : App) (ev : AppEvent) : Prop :=
  ∀ m e, s.saving w ev = some (m, e) → e.dbKey ≠ 0 → ∃ r ∈ s.db.calls, r.id = e.dbKey

/-- Every active entry with a key has its row. -/
def RowsThere (s : App) : Prop :=
  ∀ k e, s.activeCalls.find? k = some e → e.dbKey ≠ 0 → ∃ r ∈ s.db.calls, r.id = e.dbKey

/-- The row is that of an active entry. -/
def Running (s : App) (r : CallRow) : Prop := ∃ k e, s.activeCalls.find? k = some e ∧ e.dbKey = r.id

/-- If the save of `e` inserts a row, it does not fail after the entry was given its key, and the
purge that follows deletes neither the new row nor the row of a running call: it is not too old
by the age limit, and not outnumbered by the count limit. -/
def SparesSave (w : World) (m : Moment) (s : App) (e : JournalEntry) : Prop :=
  e.dbKey = 0 → w.dbIsOk = true → m.KeepsKey ∧
    (¬ JournalDb.Fails m e → JournalDb.PurgeCommits m →
      ∀ r ∈ (JournalDb.added w.platform s.db e).calls, r.id = s.db.nextcallid ∨ s.Running r →
        ¬ JournalDb.TooOld w.platform m r ∧
          ¬ JournalDb.Outnumbered w.platform m (JournalDb.added w.platform s.db e).calls r.id)

/-- The event inserts no row, or one that pushes out no running call's. -/
def Spares (w : World) (s : App) (ev : AppEvent) : Prop :=
  ∀ m e, s.saving w ev = some (m, e) → SparesSave w m s e

section
variable (w : World) (m : Moment) (s : App)

theorem running_iff {r : CallRow} :
    s.Running r ↔ ∃ q ∈ s.activeCalls.entries, q.2.dbKey = r.id := by
  constructor
  · rintro ⟨k, e, he, hid⟩
    exact ⟨(k, e), OrderedMap.mem_entries.mpr he, hid⟩
  · rintro ⟨⟨k, e⟩, hq, hid⟩
    exact ⟨k, e, OrderedMap.mem_entries.mp hq, hid⟩

theorem rowsThere_iff : RowsThere s ↔
    ∀ q ∈ s.activeCalls.entries, q.2.dbKey ≠ 0 → ∃ r ∈ s.db.calls, r.id = q.2.dbKey :=
  ⟨fun h q hq => h q.1 q.2 (OrderedMap.mem_entries.mp hq),
    fun h k e he => h (k, e) (OrderedMap.mem_entries.mpr he)⟩

instance (r : CallRow) : Decidable (s.Running r) := decidable_of_iff' _ s.running_iff

instance : Decidable (RowsThere s) := decidable_of_iff' _ s.rowsThere_iff

instance (e : JournalEntry) : Decidable (SparesSave w m s e) :=
  inferInstanceAs (Decidable (_ → _ → _ ∧ (_ → _ → ∀ r ∈ (JournalDb.added w.platform s.db e).calls,
    r.id = s.db.nextcallid ∨ s.Running r → _)))

instance (ev : AppEvent) : Decidable (Spares w s ev) :=
  decidable_of_iff (∀ q ∈ s.saving w ev, SparesSave w q.1 s q.2)
    ⟨fun h m e he => h (m, e) he, fun h q hq => h q.1 q.2 hq⟩

instance (ev : AppEvent) : Decidable (UpdateHits w s ev) :=
  decidable_of_iff (∀ q ∈ s.saving w ev, q.2.dbKey ≠ 0 → ∃ r ∈ s.db.calls, r.id = q.2.dbKey)
    ⟨fun h m e he => h (m, e) he, fun h q hq => h q.1 q.2 hq⟩

end

/-! ### One save -/

section
variable {w : World} {m : Moment} {s : App} {e e' : JournalEntry}

/-- What a save leaves: the rows of the running calls, and the row of the saved entry. -/
theorem rows_saved (hwf : JournalDb.WF s.db) (h : RowsThere s) (hsp : SparesSave w m s e) :
    (∀ k e₁, s.activeCalls.find? k = some e₁ → e₁.dbKey ≠ 0 →
      ∃ r ∈ (saved w m s e).db.calls, r.id = e₁.dbKey) ∧
    ((e.dbKey ≠ 0 → ∃ r ∈ s.db.calls, r.id = e.dbKey) →
      (saved w m s e).entry.dbKey ≠ 0 →
        ∃ r ∈ (saved w m s e).db.calls, r.id = (saved w m s e).entry.dbKey) := by
  have hs := saves_saved w m s e
  generalize saved w m s e = o at hs
  cases hs with
  | clean | unusable | failed => exact ⟨h, id⟩
  | keyed _ hok hf hkey =>
      have hk := (hsp hkey hok).1
      exact absurd hf (by simp [hk.1, hk.2])
  | inserted _ hok hf hkey =>
      have hsurvives : ∀ r ∈ (JournalDb.added w.platform s.db e).calls,
          r.id = s.db.nextcallid ∨ s.Running r →
            r ∈ (JournalDb.purgeEntries w.platform m (JournalDb.added w.platform s.db e)).calls :=
        fun r hr hrun => (JournalDb.mem_purgeEntries (hwf.added _ _).nodup).mpr
          ⟨hr, fun hc => (hsp hkey hok).2 hf hc r hr hrun⟩
      constructor
      · intro k e₁ he hne
        obtain ⟨r, hr, hid⟩ := h k e₁ he hne
        exact ⟨r, hsurvives r (List.mem_append_left _ hr) (.inr ⟨k, e₁, he, hid.symm⟩), hid⟩
      · intro _ _
        exact ⟨_, hsurvives _ (List.mem_append_right _ (List.mem_singleton_self _)) (.inl rfl), rfl⟩
  | updated _ _ _ hkey =>
      have hids : ∀ {key : Int}, (∃ r ∈ s.db.calls, r.id = key) →
          ∃ r ∈ (JournalDb.updated w.platform s.db e).calls, r.id = key := by
        rintro key ⟨r, hr, hid⟩
        have hmem : key ∈ (JournalDb.updated w.platform s.db e).calls.map (·.id) := by
          rw [JournalDb.updated_ids]
          exact List.mem_map.mpr ⟨r, hr, hid⟩
        obtain ⟨r', hr', hid'⟩ := List.mem_map.mp hmem
        exact ⟨r', hr', hid'⟩
      exact ⟨fun k e₁ he hne => hids (h k e₁ he hne), fun hrow hne => hids (hrow hne)⟩

/-- An edit of an active entry. -/
theorem RowsThere.edit (h : RowsThere s) (hwf : JournalDb.WF s.db) {k : JournalKey}
    (he : s.activeCalls.find? k = some e) (hd : e'.dbKey = e.dbKey) (hsp : SparesSave w m s e') :
    RowsThere (s.edit w m k e') := by
  obtain ⟨hothers, hsaved⟩ := rows_saved hwf h hsp
  intro j e₁ hj hne
  rcases find?_edit he hj with ⟨-, rfl⟩ | ⟨-, hj⟩
  · exact hsaved (fun h0 => hd ▸ h k e he (hd ▸ h0)) hne
  · exact hothers j e₁ hj hne

/-- The save of a copy. -/
theorem RowsThere.editCopy (h : RowsThere s) (hwf : JournalDb.WF s.db) (hsp : SparesSave w m s e) :
    RowsThere (s.editCopy w m e) :=
  (rows_saved hwf h hsp).1

theorem RowsThere.onNewCall (h : RowsThere s) (hwf : JournalDb.WF s.db) {pid cid : Nat}
    {type : CallType} {status : CallStatus}
    (hsp : SparesSave w m s (s.newEntry m pid cid type status)) :
    RowsThere (s.onNewCall w m pid cid type status) := by
  obtain ⟨hothers, hsaved⟩ := rows_saved hwf h hsp
  intro j e₁ hj hne
  rcases find?_onNewCall hj with ⟨-, rfl⟩ | hj
  · exact hsaved (fun h0 => absurd (newEntry_dbKey ..) h0) hne
  · exact hothers j e₁ hj hne

/-- No more entries, the same rows. -/
theorem RowsThere.mono (h : RowsThere s) {s' : App} (hdb : s'.db = s.db)
    (ha : ∀ k e, s'.activeCalls.find? k = some e → s.activeCalls.find? k = some e) :
    RowsThere s' := by
  intro k e he hne
  rw [hdb]
  exact h k e (ha k e he) hne

/-! ### The steps -/

variable (w) in
theorem RowsThere.callStatus (h : RowsThere s) (hwf : JournalDb.WF s.db) {pid cid : Nat}
    {status : CallStatus} (hsp : Spares w s (.call m (.callStatus pid cid status))) :
    RowsThere (s.onCallStateUpdate w m pid cid status) := by
  rw [onCallStateUpdate]
  cases he : s.activeCalls.find? (journalKey pid cid) with
  | none => exact h
  | some e =>
      dsimp only
      split
      · exact h.mono rfl fun _ _ hj => find?_ended hj
      · rename_i hs
        refine h.edit hwf he (JournalEntry.setState_dbKey _ _ _) (hsp m _ ?_)
        simp [saving, he, hs]

variable (w) in
theorem RowsThere.callInfo (h : RowsThere s) (hwf : JournalDb.WF s.db) {pid cid : Nat}
    {info : CallInfo} (hsp : Spares w s (.call m (.callInfo pid cid info))) :
    RowsThere (s.onCallInfoUpdate w m pid cid info) := by
  rw [onCallInfoUpdate]
  cases he : s.activeCalls.find? (journalKey pid cid) with
  | none => exact h
  | some e =>
      have hr : RowsThere { s with requests := (fillIn w m info e s.requests).2 } := h
      refine hr.edit hwf he (asks_fillIn w m info e s.requests).entry.dbKey (hsp m _ ?_)
      simp [saving, he]

variable (w) in
theorem RowsThere.deliver (h : RowsThere s) (hwf : JournalDb.WF s.db)
    (hsp : Spares w s (.deliver m)) : RowsThere (s.step w (.deliver m)) := by
  rw [App.step]
  cases hr : s.responses with
  | nil => exact h
  | cons r rp =>
      have hrp : RowsThere { s with responses := rp } := h
      have hfind : ({ s with responses := rp } : App).findActiveEntry r.callId =
        s.findActiveEntry r.callId := rfl
      dsimp only
      rw [onResolverResponse, hfind]
      cases he : s.findActiveEntry r.callId with
      | some q =>
          refine hrp.edit hwf (findActiveEntry_find? he) (relabelled_setName _ _ _).dbKey
            (hsp m _ ?_)
          simp [saving, hr, he]
      | none =>
          dsimp only
          cases hg : s.db.getEntry w.platform w.dbIsOk m r.callId
            (JournalEntry.create s.allocated 0 0 .unknown m.now) with
          | none => exact hrp
          | some e =>
              refine hrp.editCopy hwf (hsp m _ ?_)
              simp [saving, hr, he, hg]

/-- **An event that spares the running calls leaves each of them its row.** -/
theorem RowsThere.step (h : RowsThere s) (hwf : JournalDb.WF s.db) {ev : AppEvent}
    (hsp : Spares w s ev) : RowsThere (s.step w ev) := by
  match ev, hsp with
  | .call m (.newCall pid cid type status), hsp => exact h.onNewCall hwf (hsp m _ rfl)
  | .call m (.callStatus pid cid status), hsp => exact h.callStatus w hwf hsp
  | .call m (.callInfo pid cid info), hsp => exact h.callInfo w hwf hsp
  | .work resolvers, _ =>
      have ha := step_acts w s (.work resolvers)
      generalize s.step w (.work resolvers) = s' at ha
      cases ha with
      | worked => exact h
  | .deliver m, hsp => exact h.deliver w hwf hsp

/-- An entry that is saved under a key is active or was read back. -/
theorem RowsThere.updateHits (h : RowsThere s) (ev : AppEvent) : UpdateHits w s ev := by
  intro m' e hs hne
  match ev, hs with
  | .call m (.newCall pid cid type status), hs =>
      cases hs
      exact absurd (newEntry_dbKey ..) hne
  | .call m (.callStatus pid cid status), hs =>
      obtain ⟨e₀, he, hs⟩ := Option.bind_eq_some_iff.mp hs
      split at hs
      · cases hs
      · cases hs
        rw [JournalEntry.setState_dbKey] at hne ⊢
        exact h _ e₀ he hne
  | .call m (.callInfo pid cid info), hs =>
      obtain ⟨e₀, he, hs⟩ := Option.map_eq_some_iff.mp hs
      cases hs
      rw [(asks_fillIn w m' info e₀ s.requests).entry.dbKey] at hne ⊢
      exact h _ e₀ he hne
  | .deliver m, hs =>
      obtain ⟨r, -, hs⟩ := Option.bind_eq_some_iff.mp hs
      obtain ⟨e₀, he, hs⟩ := Option.map_eq_some_iff.mp hs
      cases hs
      rw [(relabelled_setName r.userData r.sn e₀).dbKey] at hne ⊢
      cases hf : s.findActiveEntry r.callId with
      | some q =>
          rw [hf] at he
          cases he
          exact h _ _ (findActiveEntry_find? hf) hne
      | none =>
          rw [hf] at he
          obtain ⟨row, hrow, hid, rfl⟩ := JournalDb.getEntry_row he
          exact ⟨row, hrow, rfl⟩

end

/-- **Along a run whose inserts push out no running call's row, every update finds its row, and
every running call keeps its row throughout.** -/
theorem updates_hit (w : World) {db : JournalDb} (hdb : JournalDb.WF db) {evs : List AppEvent}
    (h : Along (App.step w) (Spares w) (App.start db) evs) :
    Along (App.step w) (fun s ev => UpdateHits w s ev ∧ RowsThere (s.step w ev)) (App.start db)
      evs :=
  h.mono (I := fun s => JournalDb.WF s.db ∧ RowsThere s)
    (fun _ ev hs hsp => ⟨wf_step hs.1 ev, hs.2.step hs.1 hsp⟩)
    (fun _ ev hs hsp => ⟨hs.2.updateHits ev, hs.2.step hs.1 hsp⟩)
    ⟨hdb, fun _ _ he => nomatch he⟩

/-- The preferences delete rows that are more than a day old. -/
def keepsADay (now : Int) : Moment :=
  { Moment.quiet now with
    prefs := { GeneralPrefs.initial with delJournalByAge := true, maxJournalAge := 1 } }

/-- A call, and another one `t` seconds later, before the first is answered. -/
def overlapping (t : Int) : List AppEvent :=
  [.call (keepsADay 0) (.newCall 0x10000020 0 .incoming .offering),
    .call (keepsADay t) (.newCall 0x10000020 1 .incoming .offering),
    .call (keepsADay t) (.callStatus 0x10000020 0 .connected)]

theorem updates_hit_overlapping :
    Along (App.step .utc) (fun s ev => UpdateHits .utc s ev ∧ RowsThere (s.step .utc ev))
      (App.start .initial) (overlapping 3600) :=
  updates_hit .utc .initial (by decide +kernel)

/-- After two days the row of the first call is purged, and its result is lost. -/
theorem purge_loses_running :
    ¬ Along (App.step .utc) (UpdateHits .utc) (App.start .initial) (overlapping 172800) := by
  decide +kernel

end App
end Cmon
