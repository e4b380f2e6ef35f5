import Cmon.App.MainApp

/-!
# App — the map of active calls and its entries

What the plug-ins have told the application fixes which call a key stands for: the newest call
announced under it, until its end is told.  `History` keeps count of this, beside the
application and without reading its state.

* `Tracks`: at a step, the map stands to the history as it should.  A new call's entry is in
  the map; an event for a key saves the entry of the newest call with that key, and nothing for
  a key with no call; every entry that is allocated is in the map, once.
* `tracks_iff`: this holds along a run exactly when no new call is announced under a key whose
  last call has not been told to have ended.  `std::map::insert` keeps the older entry otherwise.
-/

namespace Cmon
open Library

/-- What the plug-ins have announced: the number of calls, and for each key the newest call
under it, as long as its end has not been told.  Calls are counted as they are announced. -/
structure History where
  created : Nat
  newest : JournalKey → Option Nat

def History.start : History := ⟨0, fun _ => none⟩

def History.observe (h : History) : AppEvent → History
  | .call _ (.newCall pid cid _ _) =>
      ⟨h.created + 1, Function.update h.newest (journalKey pid cid) (some h.created)⟩
  | .call _ (.callStatus pid cid .idle) =>
      { h with newest := Function.update h.newest (journalKey pid cid) none }
  | _ => h

/-- The key of an event that updates a call. -/
def updateKey : AppEvent → Option (Moment × JournalKey)
  | .call m (.callStatus pid cid status) =>
      if status = .idle then none else some (m, journalKey pid cid)
  | .call m (.callInfo pid cid _) => some (m, journalKey pid cid)
  | _ => none

/-- The application beside the history. -/
def watch (w : World) (t : App × History) (ev : AppEvent) : App × History :=
  (t.1.step w ev, t.2.observe ev)

namespace App

/-- The addresses of the entries that are allocated, those the map owns first. -/
def owned (s : App) : List Nat := s.activeCalls.entries.map (·.2.self)

def heap (s : App) : List Nat := s.owned ++ s.lost.map (·.self)

/-- The map stands to the history as it should, at the step `ev`. -/
structure Tracks (w : World) (t : App × History) (ev : AppEvent) : Prop where
  created : ∀ m pid cid type status, ev = .call m (.newCall pid cid type status) →
    ∃ e, (t.1.step w ev).activeCalls.find? (journalKey pid cid) = some e ∧
      e.self = t.2.created
  updates : ∀ m k a, updateKey ev = some (m, k) → t.2.newest k = some a →
    ∃ e e', t.1.activeCalls.find? k = some e ∧ e.self = a ∧ e'.self = a ∧
      e'.dbKey = e.dbKey ∧ (t.1.step w ev).db =
        (t.1.db.insertUpdateEntry w.platform w.dbIsOk m e').db
  idle : ∀ m k, updateKey ev = some (m, k) → t.2.newest k = none → (t.1.step w ev).db = t.1.db
  once : ∀ a ∈ (t.1.step w ev).heap, (t.1.step w ev).owned.count a = 1

/-- A new call comes under a key that no call has. -/
def Unused (t : App × History) : AppEvent → Prop
  | .call _ (.newCall pid cid _ _) => t.2.newest (journalKey pid cid) = none
  | _ => True

instance (t : App × History) : ∀ ev, Decidable (Unused t ev)
  | .call _ (.newCall pid cid _ _) =>
      inferInstanceAs (Decidable (t.2.newest (journalKey pid cid) = none))
  | .call _ (.callStatus _ _ _) | .call _ (.callInfo _ _ _) | .work _ | .deliver _ => .isTrue trivial

/-! ### The invariant -/

/-- The map holds the newest call of every key, and no entry is lost. -/
structure InStep (t : App × History) : Prop where
  created : t.1.allocated = t.2.created
  newest : ∀ k, (t.1.activeCalls.find? k).map (·.self) = t.2.newest k
  lt : ∀ k a, t.2.newest k = some a → a < t.2.created
  inj : ∀ k k' a, t.2.newest k = some a → t.2.newest k' = some a → k = k'
  lost : t.1.lost = []

theorem InStep.start (db : JournalDb) : InStep (App.start db, History.start) where
  created := rfl
  newest _ := rfl
  lt _ _ h := nomatch h
  inj _ _ _ h := nomatch h
  lost := rfl

theorem InStep.find? {t : App × History} (h : InStep t) {k : JournalKey} {a : Nat}
    (hk : t.2.newest k = some a) : ∃ e, t.1.activeCalls.find? k = some e ∧ e.self = a := by
  have hf := h.newest k
  rw [hk] at hf
  exact Option.map_eq_some_iff.mp hf

theorem InStep.find?_none {t : App × History} (h : InStep t) {k : JournalKey}
    (hk : t.2.newest k = none) : t.1.activeCalls.find? k = none := by
  have hf := h.newest k
  rw [hk] at hf
  exact Option.map_eq_none_iff.mp hf

/-- The map owns each of its entries once. -/
theorem InStep.owned_nodup {t : App × History} (h : InStep t) : t.1.owned.Nodup := by
  refine List.Nodup.map_on ?_ t.1.activeCalls.entries_nodup
  rintro ⟨k, e⟩ hm ⟨k', e'⟩ hm' he
  have hk := OrderedMap.mem_entries.mp hm
  have hk' := OrderedMap.mem_entries.mp hm'
  have hn := h.newest k
  have hn' := h.newest k'
  rw [hk] at hn
  rw [hk'] at hn'
  obtain rfl := h.inj k k' e.self hn.symm (hn'.symm.trans (congrArg some he.symm))
  rw [hk] at hk'
  rw [Option.some.inj hk']

theorem InStep.once {t : App × History} (h : InStep t) : ∀ a ∈ t.1.heap, t.1.owned.count a = 1 := by
  intro a ha
  rw [heap, h.lost] at ha
  exact List.count_eq_one_of_mem h.owned_nodup (by simpa using ha)

/-- An edit of an active entry that leaves its address alone keeps the map in step. -/
theorem newest_edit {w : World} {m : Moment} {s : App} {k : JournalKey} {e e' : JournalEntry}
    (he : s.activeCalls.find? k = some e) (hs : e'.self = e.self) (j : JournalKey) :
    ((s.edit w m k e').activeCalls.find? j).map (·.self) =
      (s.activeCalls.find? j).map (·.self) := by
  have ho := saved_self w m s e'
  by_cases h : j = k
  · subst h
    show ((s.activeCalls.modify j _).find? j).map _ = _
    rw [OrderedMap.find?_modify_self, he]
    exact congrArg some (ho.trans hs)
  · show ((s.activeCalls.modify k _).find? j).map _ = _
    rw [OrderedMap.find?_modify_of_ne _ h]

/-- What the history says of the calls is what it said before. -/
theorem InStep.of_newest {t t' : App × History} (h : InStep t) (hh : t'.2 = t.2)
    (hc : t'.1.allocated = t.1.allocated) (hl : t'.1.lost = t.1.lost)
    (hn : ∀ k, (t'.1.activeCalls.find? k).map (·.self) = (t.1.activeCalls.find? k).map (·.self)) :
    InStep t' where
  created := by rw [hc, hh]; exact h.created
  newest k := by rw [hn, hh]; exact h.newest k
  lt := by rw [hh]; exact h.lt
  inj := by rw [hh]; exact h.inj
  lost := by rw [hl]; exact h.lost

theorem update_eq_some {f : JournalKey → Option Nat} {k j : JournalKey} {b a : Nat}
    (h : Function.update f k (some b) j = some a) : j = k ∧ a = b ∨ f j = some a := by
  by_cases e : j = k
  · subst e
    rw [Function.update_self] at h
    exact .inl ⟨rfl, (Option.some.inj h).symm⟩
  · rw [Function.update_of_ne e] at h
    exact .inr h

theorem InStep.newCall {w : World} {t : App × History} (h : InStep t) (m : Moment) {pid cid : Nat}
    {type : CallType} {status : CallStatus} (hu : t.2.newest (journalKey pid cid) = none) :
    InStep (t.1.onNewCall w m pid cid type status,
      t.2.observe (.call m (.newCall pid cid type status))) := by
  have hnone := h.find?_none hu
  have ho := saved_self w m t.1 (t.1.newEntry m pid cid type status)
  refine ⟨congrArg (· + 1) h.created, fun j => ?_, fun j a hj => ?_, fun j j' a hj hj' => ?_, ?_⟩
  · by_cases e : j = journalKey pid cid
    · subst e
      simp only [onNewCall, OrderedMap.find?_insert_self, hnone, Option.getD_none, Option.map_some,
        ho, newEntry_self, History.observe, Function.update_self, h.created]
    · simp only [onNewCall, OrderedMap.find?_insert_of_ne _ e, History.observe,
        Function.update_of_ne e]
      exact h.newest j
  · show a < t.2.created + 1
    rcases update_eq_some hj with ⟨-, rfl⟩ | hj
    · exact Nat.lt_succ_self _
    · exact Nat.lt_succ_of_lt (h.lt j a hj)
  · -- the new call's number is none of the earlier ones
    rcases update_eq_some hj with ⟨rfl, ha⟩ | hj <;> rcases update_eq_some hj' with ⟨rfl, ha'⟩ | hj'
    · rfl
    · exact absurd (h.lt j' a hj') (by omega)
    · exact absurd (h.lt j a hj) (by omega)
    · exact h.inj j j' a hj hj'
  · simp only [onNewCall, hnone, Option.isSome_none, Bool.false_eq_true, if_false]
    exact h.lost

theorem InStep.ended {t : App × History} (h : InStep t) (k : JournalKey) :
    InStep ({ t.1 with activeCalls := t.1.activeCalls.erase k },
      { t.2 with newest := Function.update t.2.newest k none }) := by
  have hne : ∀ {j a}, Function.update t.2.newest k none j = some a →
      t.2.newest j = some a := fun {j a} hj => by
    by_cases e : j = k
    · rw [e, Function.update_self] at hj; cases hj
    · rwa [Function.update_of_ne e] at hj
  refine ⟨h.created, fun j => ?_, fun j a hj => h.lt j a (hne hj),
    fun j j' a hj hj' => h.inj j j' a (hne hj) (hne hj'), h.lost⟩
  by_cases e : j = k
  · subst e; simp
  · simpa only [OrderedMap.find?_erase_of_ne _ e, Function.update_of_ne e] using h.newest j

/-- An event that ends no call and announces none changes nothing in the history. -/
theorem observe_status {h : History} {m : Moment} {pid cid : Nat} {status : CallStatus}
    (hs : status ≠ .idle) : h.observe (.call m (.callStatus pid cid status)) = h := by
  cases status <;> first | rfl | exact absurd rfl hs

/-- **Under keys no call has, the map and the history stay in step.** -/
theorem InStep.watch {w : World} {t : App × History} (h : InStep t) {ev : AppEvent}
    (hu : Unused t ev) : InStep (watch w t ev) := by
  have ha := step_acts w t.1 ev
  rw [Cmon.watch]
  generalize t.1.step w ev = s' at ha
  cases ha with
  | @noStatus m pid cid status he =>
      by_cases hs : status = .idle
      · -- the end of a call that the map does not hold
        subst hs
        have hk := h.newest (journalKey pid cid)
        rw [he] at hk
        rw [show t.2.observe (.call m (.callStatus pid cid .idle)) = t.2 from ?_]
        · exact h
        · show (⟨_, Function.update t.2.newest (journalKey pid cid) none⟩ : History) = t.2
          rw [show (none : Option Nat) = t.2.newest (journalKey pid cid) from hk,
            Function.update_eq_self]
      · rw [observe_status hs]; exact h
  | noInfo => exact h
  | worked => exact h.of_newest rfl rfl rfl fun _ => rfl
  | unanswered => exact h.of_newest rfl rfl rfl fun _ => rfl
  | created m pid cid type status => exact h.newCall m hu
  | ended m pid cid => exact h.ended (journalKey pid cid)
  | moved he hs =>
      rw [observe_status hs]
      exact h.of_newest rfl rfl rfl (newest_edit he (JournalEntry.setState_self _ _ _))
  | informed he hq => exact h.of_newest rfl rfl rfl (newest_edit he hq.entry.self)
  | named _ he hr =>
      refine h.of_newest rfl rfl rfl (newest_edit (findActiveEntry_find? he) ?_)
      rw [hr]
      exact (relabelled_setName _ _ _).self
  | copied => exact h.of_newest rfl rfl rfl fun _ => rfl

/-! ### The step and the run -/

/-- An event that updates a call saves the entry the map holds for the call, or does nothing. -/
theorem update_saves {w : World} {s : App} {ev : AppEvent} {m : Moment} {k : JournalKey}
    (hk : updateKey ev = some (m, k)) :
    s.activeCalls.find? k = none ∧ (s.step w ev).db = s.db ∨
      ∃ e e', s.activeCalls.find? k = some e ∧ e'.self = e.self ∧ e'.dbKey = e.dbKey ∧
        (s.step w ev).db = (s.db.insertUpdateEntry w.platform w.dbIsOk m e').db := by
  have ha := step_acts w s ev
  generalize s.step w ev = s' at ha
  cases ha with
  | @noStatus m' pid cid status he =>
      simp only [updateKey] at hk
      split at hk
      · cases hk
      · cases hk; exact .inl ⟨he, rfl⟩
  | noInfo he => cases hk; exact .inl ⟨he, rfl⟩
  | moved he hs =>
      simp only [updateKey, if_neg hs, Option.some.injEq, Prod.mk.injEq] at hk
      obtain ⟨rfl, rfl⟩ := hk
      exact .inr ⟨_, _, he, JournalEntry.setState_self _ _ _, JournalEntry.setState_dbKey _ _ _, rfl⟩
  | informed he hq => cases hk; exact .inr ⟨_, _, he, hq.entry.self, hq.entry.dbKey, rfl⟩
  | ended => simp [updateKey] at hk
  | _ => cases hk

/-- In step, a step tracks exactly when it announces no call under a key in use. -/
theorem tracks_iff_unused {w : World} {t : App × History} (h : InStep t) (ev : AppEvent) :
    Tracks w t ev ↔ Unused t ev := by
  constructor
  · intro ht
    match ev with
    | .call _ (.callStatus _ _ _) | .call _ (.callInfo _ _ _) | .work _ | .deliver _ => exact trivial
    | .call m (.newCall pid cid type status) =>
    show t.2.newest (journalKey pid cid) = none
    obtain ⟨e, hf, hself⟩ := ht.created m pid cid type status rfl
    cases hn : t.2.newest (journalKey pid cid) with
    | none => rfl
    | some a =>
        -- the map keeps the older entry
        obtain ⟨e₀, he₀, rfl⟩ := h.find? hn
        have hkept : (t.1.onNewCall w m pid cid type status).activeCalls.find?
            (journalKey pid cid) = some e₀ := by
          simp only [onNewCall, OrderedMap.insert_known he₀]
          exact he₀
        rw [show t.1.step w (.call m (.newCall pid cid type status)) =
          t.1.onNewCall w m pid cid type status from rfl, hkept] at hf
        cases hf
        exact absurd (h.lt _ _ hn) (by omega)
  · intro hu
    have hnext : InStep (watch w t ev) := h.watch hu
    refine ⟨?_, fun m k a hk hn => ?_, fun m k hk hn => ?_, hnext.once⟩
    · rintro m pid cid type status rfl
      exact hnext.find? (Function.update_self _ _ _)
    · obtain ⟨e, he, rfl⟩ := h.find? hn
      rcases update_saves (w := w) hk with ⟨hnone, -⟩ | ⟨e₁, e', he₁, hs, hd, hdb⟩
      · rw [he] at hnone; cases hnone
      · rw [he] at he₁
        cases he₁
        exact ⟨e, e', he, rfl, hs, hd, hdb⟩
    · rcases update_saves (w := w) hk with ⟨-, hdb⟩ | ⟨e₁, -, he₁, -⟩
      · exact hdb
      · rw [h.find?_none hn] at he₁; cases he₁

/-- **Along a run the map holds the newest call of every key, and owns every entry once, exactly
when no call is announced under a key whose last call has not been told to have ended.** -/
theorem tracks_iff (w : World) (db : JournalDb) (evs : List AppEvent) :
    Along (watch w) (Tracks w) (App.start db, .start) evs ↔
      Along (watch w) Unused (App.start db, .start) evs :=
  along_congr (fun _ _ h hu => h.watch hu) (fun _ ev h => tracks_iff_unused h ev) (.start db)

/-- The end of an incoming call is lost, and the next call is announced under its id: the map
keeps the entry of the first. -/
theorem lost_end_keeps_old_entry :
    ¬ Along (watch .utc) (Tracks .utc) (App.start .initial, .start)
        [.call (.quiet 0) (.newCall 0x10000020 0 .incoming .offering),
          .call (.quiet 60) (.newCall 0x10000020 0 .incoming .offering)] := by
  rintro ⟨-, h, -⟩
  obtain ⟨e, he, hself⟩ := h.created (.quiet 60) 0x10000020 0 .incoming .offering rfl
  have hmap := congrArg (Option.map (·.self)) he
  rw [Option.map_some, hself] at hmap
  revert hmap
  decide

end App
end Cmon
