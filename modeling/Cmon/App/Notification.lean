import Cmon.App.Ownership

/-!
# App — notification windows

`CNotificationMgr` and its windows, beside the application: the list of the manager, the windows
that exist, and the pointer `m_pNotification` of each entry.  A window is shown for the entry of
an incoming call, and the destructor of the entry has the manager close it.  A window that the
user closes is put into `wxPendingDelete`, and deleted when the program is idle; neither the
manager nor the entry is told.

* `Shown`: the manager's list are the windows that exist, one for each active entry of an incoming
  call and none else, and no entry refers to another window.
* `shown_iff`: this holds along a run exactly when the program is never idle while a window waits
  to be deleted, and no incoming call is announced under a key that is in use (the entry of such a
  call is lost, and its window is there for ever).
* `used_existing`: along such a run no window is used after it was deleted.
-/

namespace Cmon
open Library

/-! ### Which entries are active -/

namespace App

/-- The address and the type of the entry under a key. -/
def ident (s : App) (k : JournalKey) : Option (Nat × EntryType) :=
  (s.activeCalls.find? k).map fun e => (e.self, e.type)

/-- What an event does to the addresses and types. -/
def identAfter (s : App) (k : JournalKey) : AppEvent → Option (Nat × EntryType)
  | .call _ (.newCall pid cid type _) =>
      if k = journalKey pid cid then (s.ident k).or (some (s.allocated, callType2JournalType type))
      else s.ident k
  | .call _ (.callStatus pid cid status) =>
      if k = journalKey pid cid ∧ status = .idle then none else s.ident k
  | .call _ (.callInfo _ _ _) | .work _ | .deliver _ => s.ident k

/-- An edit that leaves the address and the type alone. -/
theorem ident_edit {w : World} {m : Moment} {s : App} {k : JournalKey} {e e' : JournalEntry}
    (he : s.activeCalls.find? k = some e) (hs : e'.self = e.self) (ht : e'.type = e.type)
    (j : JournalKey) : (s.edit w m k e').ident j = s.ident j := by
  by_cases h : j = k
  · subst h
    show ((s.activeCalls.modify j _).find? j).map _ = _
    rw [OrderedMap.find?_modify_self, ident, he]
    have hself : (saved w m s e').entry.self = e.self := (saved_self w m s e').trans hs
    have htype : (saved w m s e').entry.type = e.type := (saved_type w m s e').trans ht
    exact congrArg some (Prod.ext hself htype)
  · show ((s.activeCalls.modify k _).find? j).map _ = _
    rw [OrderedMap.find?_modify_of_ne _ h, ident]

theorem ident_onNewCall (w : World) (m : Moment) (s : App) (pid cid : Nat) (type : CallType)
    (status : CallStatus) (k : JournalKey) :
    (s.onNewCall w m pid cid type status).ident k =
      if k = journalKey pid cid then (s.ident k).or (some (s.allocated, callType2JournalType type))
      else s.ident k := by
  show ((s.activeCalls.insert _ _).find? k).map _ = _
  split
  · rename_i h
    subst h
    rw [OrderedMap.find?_insert_self, ident]
    cases s.activeCalls.find? (journalKey pid cid) with
    | some e => rfl
    | none =>
        have hself : (saved w m s (s.newEntry m pid cid type status)).entry.self = s.allocated :=
          (saved_self w m s _).trans (newEntry_self s m pid cid type status)
        have htype : (saved w m s (s.newEntry m pid cid type status)).entry.type =
            callType2JournalType type := by
          simp [saved_type, newEntry]
        exact congrArg some (Prod.ext hself htype)
  · rename_i h
    rw [OrderedMap.find?_insert_of_ne _ h, ident]

/-- **The entries after a step.** -/
theorem ident_step (w : World) (s : App) (ev : AppEvent) (k : JournalKey) :
    (s.step w ev).ident k = s.identAfter k ev := by
  have hacts := step_acts w s ev
  generalize s.step w ev = s' at hacts
  cases hacts with
  | @noStatus m pid cid status he =>
      rw [identAfter]
      split
      · rename_i h
        rw [ident, h.1, he]
        rfl
      · rfl
  | noInfo | worked | unanswered | copied => rfl
  | created m pid cid type status => exact ident_onNewCall w m s pid cid type status k
  | ended m pid cid =>
      rw [identAfter]
      by_cases h : k = journalKey pid cid
      · rw [if_pos ⟨h, rfl⟩, ident, h, OrderedMap.find?_erase_self]
        rfl
      · rw [if_neg fun hk => h hk.1]
        show ((s.activeCalls.erase _).find? k).map _ = _
        rw [OrderedMap.find?_erase_of_ne _ h, ident]
  | moved he hs =>
      rw [identAfter, if_neg fun hk => hs hk.2]
      exact ident_edit he (JournalEntry.setState_self ..) (JournalEntry.setState_type ..) k
  | informed he ha => exact ident_edit he ha.entry.self ha.entry.type k
  | @named m k' e _ r rp hrp he hr =>
      subst hr
      have hl := relabelled_setName r.userData r.sn e
      exact ident_edit (s := { s with responses := rp }) (findActiveEntry_find? he) hl.self hl.type
        k

/-- An entry that is lost is the new one. -/
theorem mem_lost_step {w : World} {s : App} {ev : AppEvent} {e : JournalEntry}
    (h : e ∈ (s.step w ev).lost) : e ∈ s.lost ∨ ∃ m pid cid type status,
      ev = .call m (.newCall pid cid type status) ∧ e.self = s.allocated ∧
        (s.ident (journalKey pid cid)).isSome := by
  have hacts := step_acts w s ev
  generalize s.step w ev = s' at hacts h
  cases hacts with
  | created m pid cid type status =>
      have h : e ∈ if (s.activeCalls.find? (journalKey pid cid)).isSome then
          (saved w m s (s.newEntry m pid cid type status)).entry :: s.lost else s.lost := h
      split at h
      · rename_i hkey
        rcases List.mem_cons.mp h with rfl | h
        · refine .inr ⟨m, pid, cid, type, status, rfl, ?_, by rwa [ident, Option.isSome_map]⟩
          exact (saved_self w m s _).trans (newEntry_self s m pid cid type status)
        · exact .inl h
      · exact .inl h
  | noStatus | noInfo | worked | unanswered | ended | moved | informed | named | copied =>
      exact .inl h

/-- The next address. -/
def allocatedAfter (s : App) : AppEvent → Nat
  | .call _ (.newCall _ _ _ _) => s.allocated + 1
  | .call _ (.callStatus _ _ _) | .call _ (.callInfo _ _ _) | .work _ | .deliver _ => s.allocated

theorem allocated_step (w : World) (s : App) (ev : AppEvent) :
    (s.step w ev).allocated = s.allocatedAfter ev := by
  have hacts := step_acts w s ev
  generalize s.step w ev = s' at hacts
  cases hacts <;> rfl

end App

/-! ### The windows -/

/-- `CNotificationWnd`: its address and that of the entry it shows, `m_call`. -/
structure NotificationWnd where
  self : Nat
  call : Nat
  deriving DecidableEq, Repr

/-- The windows, and who refers to them. -/
structure Notifications where
  /-- `m_Windows` of `CNotificationMgr`. -/
  windows : List NotificationWnd
  /-- The windows that have not been deleted. -/
  existing : List NotificationWnd
  /-- `wxPendingDelete`. -/
  pendingDelete : List NotificationWnd
  /-- `m_pNotification` of the entry at an address. -/
  pNotification : Nat → Option NotificationWnd
  created : Nat
  /-- The windows the user has closed. -/
  closed : List NotificationWnd
  /-- A window has been used that was deleted. -/
  misused : Bool

namespace Notifications

def start : Notifications := ⟨[], [], [], fun _ => none, 0, [], false⟩

/-- A function of the window is called. -/
def use (n : Notifications) (wnd : NotificationWnd) : Notifications :=
  { n with misused := n.misused || wnd ∉ n.existing }

/-- `CalculatePositions`, which gives every window its place. -/
def calculatePositions (n : Notifications) : Notifications := n.windows.foldl use n

/-- `notify`, for the entry at `e`. -/
def notify (n : Notifications) (e : Nat) (type : EntryType) : Notifications :=
  if type = .incoming then
    let pWnd : NotificationWnd := ⟨n.created, e⟩
    calculatePositions
      { n with
        created := n.created + 1
        existing := n.existing ++ [pWnd]
        pNotification := Function.update n.pNotification e (some pWnd)
        windows := n.windows ++ [pWnd] }
  else n

/-- `killWnd`: the window is hidden, destroyed and deleted.  Its destructor takes it out of
`wxPendingDelete`. -/
def killWnd (n : Notifications) (pWnd : NotificationWnd) : Notifications :=
  if pWnd ∈ n.windows then
    calculatePositions
      { n.use pWnd with
        existing := n.existing.erase pWnd
        pendingDelete := n.pendingDelete.erase pWnd
        windows := n.windows.erase pWnd }
  else n

/-- `~CJournalEntry`, of the entry at `e`. -/
def destroyEntry (n : Notifications) (e : Nat) : Notifications :=
  match n.pNotification e with
  | some pWnd => n.killWnd pWnd
  | none => n

/-- What the setters of an entry do at their end. -/
def update (n : Notifications) (e : Nat) : Notifications :=
  match n.pNotification e with
  | some pWnd => n.use pWnd
  | none => n

/-- `OnCloseWindow`, of a window that is there to be closed. -/
def onCloseWindow (n : Notifications) (wnd : NotificationWnd) : Notifications :=
  if wnd ∈ n.existing ∧ wnd ∉ n.pendingDelete then
    { n with pendingDelete := n.pendingDelete ++ [wnd], closed := n.closed ++ [wnd] }
  else n

/-- The program is idle: what was destroyed is deleted. -/
def deletePending (n : Notifications) : Notifications :=
  { n with existing := n.existing.filter (· ∉ n.pendingDelete), pendingDelete := [] }

/-- `OnTimer`, which moves the windows. -/
def onTimer (n : Notifications) : Notifications := n.windows.foldl use n

end Notifications

/-- What can happen next: an event of the application, the user closes a window, the program is
idle, the timer of the manager runs down. -/
inductive NotifyEvent where
  | app (ev : AppEvent)
  | closeWindow (wnd : NotificationWnd)
  | idle
  | timer

/-- The application and the windows. -/
abbrev NotifiedApp := App × Notifications

namespace NotifiedApp

/-- `OnCallInfoUpdate` calls a setter whose end is `update`. -/
def Fills (info : CallInfo) (pJ : JournalEntry) : Prop :=
  pJ.calledName = "" ∨ pJ.callerName = "" ∨
    (pJ.calledAddress = "" ∧ info.calledAddress ≠ "" ∧ ¬ pJ.resolvingCalled) ∨
    (pJ.callerAddress = "" ∧ info.callerAddress ≠ "" ∧ ¬ pJ.resolvingCaller)

instance (info : CallInfo) (pJ : JournalEntry) : Decidable (Fills info pJ) :=
  inferInstanceAs (Decidable (_ ∨ _ ∨ _ ∨ _))

/-- What the handler of an event does to the windows. -/
def windowsAfter (s : NotifiedApp) : AppEvent → Notifications
  | .call _ (.newCall _ _ type _) => s.2.notify s.1.allocated (callType2JournalType type)
  | .call _ (.callStatus pid cid status) =>
      match s.1.activeCalls.find? (journalKey pid cid) with
      | none => s.2
      | some e => if status = .idle then s.2.destroyEntry e.self else s.2.update e.self
  | .call _ (.callInfo pid cid info) =>
      match s.1.activeCalls.find? (journalKey pid cid) with
      | none => s.2
      | some e => if Fills info e then s.2.update e.self else s.2
  | .work _ => s.2
  | .deliver _ =>
      match s.1.responses.head?.bind fun r => s.1.findActiveEntry r.callId with
      | none => s.2
      | some (_, e) => s.2.update e.self

def step (w : World) (s : NotifiedApp) : NotifyEvent → NotifiedApp
  | .app ev => (s.1.step w ev, s.windowsAfter ev)
  | .closeWindow wnd => (s.1, s.2.onCloseWindow wnd)
  | .idle => (s.1, s.2.deletePending)
  | .timer => (s.1, s.2.onTimer)

def start (db : JournalDb) : NotifiedApp := (.start db, .start)

/-- The windows are as they should be. -/
structure Shown (s : NotifiedApp) : Prop where
  /-- The list of the manager are the windows that exist, each once. -/
  listed : ∀ x, x ∈ s.2.windows ↔ x ∈ s.2.existing
  nodup : s.2.windows.Nodup
  /-- An incoming call that is active has one, unless the user has closed it. -/
  one : ∀ k e, s.1.activeCalls.find? k = some e → e.type = .incoming →
    (∀ x ∈ s.2.closed, x.call ≠ e.self) → (s.2.existing.filter fun x => x.call = e.self).length = 1
  /-- No other call has one. -/
  active : ∀ x ∈ s.2.existing, ∃ k e, s.1.activeCalls.find? k = some e ∧ x.call = e.self
  /-- An entry refers to no window that does not exist. -/
  refs : ∀ a ∈ s.1.heap, ∀ x, s.2.pNotification a = some x → x ∈ s.2.existing

/-- No window waits to be deleted when the program is idle, and no incoming call comes under a
key in use. -/
def Untroubled (s : NotifiedApp) : NotifyEvent → Prop
  | .app (.call _ (.newCall pid cid type _)) =>
      type = .incoming → s.1.activeCalls.find? (journalKey pid cid) = none
  | .idle => s.2.pendingDelete = []
  | _ => True

/-! ### The invariant -/

/-- The windows, one for each incoming call that is active, and what refers to them. -/
structure Sound (s : NotifiedApp) : Prop where
  same : s.2.existing = s.2.windows
  calls : (s.2.windows.map (·.call)).Nodup
  one : ∀ k a, s.1.ident k = some (a, .incoming) →
    ∃ x ∈ s.2.windows, x.call = a ∧ s.2.pNotification a = some x
  other : ∀ k a t, s.1.ident k = some (a, t) → t ≠ .incoming → s.2.pNotification a = none
  shown : ∀ x ∈ s.2.windows, ∃ k, s.1.ident k = some (x.call, .incoming)
  pending : ∀ x ∈ s.2.pendingDelete, x ∈ s.2.windows
  once : s.2.pendingDelete.Nodup
  lost : ∀ e ∈ s.1.lost, s.2.pNotification e.self = none ∧ e.self < s.1.allocated
  fresh : ∀ a, s.1.allocated ≤ a → s.2.pNotification a = none
  lt : ∀ k a t, s.1.ident k = some (a, t) → a < s.1.allocated
  inj : ∀ k k' a t t', s.1.ident k = some (a, t) → s.1.ident k' = some (a, t') → k = k'
  misused : s.2.misused = false

end NotifiedApp

namespace Notifications
variable {n : Notifications} {x : NotificationWnd}

theorem use_existing (hm : n.misused = false) (hx : x ∈ n.existing) : n.use x = n := by
  cases n
  simp_all [use]

theorem foldl_use {xs : List NotificationWnd} (hm : n.misused = false)
    (h : ∀ x ∈ xs, x ∈ n.existing) : xs.foldl use n = n := by
  induction xs with
  | nil => rfl
  | cons x xs ih =>
      rw [List.foldl_cons, use_existing hm (h x (.head _))]
      exact ih fun y hy => h y (.tail _ hy)

theorem calculatePositions_eq (hm : n.misused = false) (h : n.existing = n.windows) :
    n.calculatePositions = n := foldl_use hm fun _ hx => h ▸ hx

theorem notify_incoming (hm : n.misused = false) (h : n.existing = n.windows) (e : Nat) :
    n.notify e .incoming =
      { n with
        created := n.created + 1
        existing := n.windows ++ [⟨n.created, e⟩]
        pNotification := Function.update n.pNotification e (some ⟨n.created, e⟩)
        windows := n.windows ++ [⟨n.created, e⟩] } := by
  rw [notify, if_pos rfl, h]
  exact calculatePositions_eq hm rfl

theorem killWnd_eq (hm : n.misused = false) (h : n.existing = n.windows) (hx : x ∈ n.windows) :
    n.killWnd x =
      { n with
        existing := n.windows.erase x
        pendingDelete := n.pendingDelete.erase x
        windows := n.windows.erase x } := by
  rw [killWnd, if_pos hx, use_existing hm (h ▸ hx), h]
  exact calculatePositions_eq hm rfl

end Notifications

namespace NotifiedApp
variable {w : World} {s : NotifiedApp} {k : JournalKey} {a : Nat} {t : EntryType}

theorem Sound.start (db : JournalDb) : Sound (start db) where
  same := rfl
  calls := List.nodup_nil
  one _ _ h := nomatch h
  other _ _ _ h := nomatch h
  shown _ h := nomatch h
  pending _ h := nomatch h
  once := List.nodup_nil
  lost _ h := nomatch h
  fresh _ _ := rfl
  lt _ _ _ h := nomatch h
  inj _ _ _ _ _ h := nomatch h
  misused := rfl

/-- The window of an active entry exists, and shows its call. -/
theorem Sound.window (h : Sound s) (hk : s.1.ident k = some (a, t)) {x : NotificationWnd}
    (hx : s.2.pNotification a = some x) : x ∈ s.2.windows ∧ x.call = a := by
  by_cases ht : t = .incoming
  · subst ht
    obtain ⟨y, hy, hcall, hya⟩ := h.one k a hk
    obtain rfl : x = y := Option.some.inj (hx.symm.trans hya)
    exact ⟨hy, hcall⟩
  · rw [h.other k a t hk ht] at hx
    cases hx

theorem Sound.update_eq (h : Sound s) (hk : s.1.ident k = some (a, t)) : s.2.update a = s.2 := by
  rw [Notifications.update]
  split
  · rename_i x hx
    exact Notifications.use_existing h.misused (h.same ▸ (h.window hk hx).1)
  · rfl

/-- The window that shows a call is the one its entry refers to. -/
theorem Sound.pNotification_eq (h : Sound s) {x : NotificationWnd} (hx : x ∈ s.2.windows) :
    s.2.pNotification x.call = some x := by
  obtain ⟨k, hk⟩ := h.shown x hx
  obtain ⟨y, hy, hcall, hp⟩ := h.one k x.call hk
  rw [hp, List.inj_on_of_nodup_map h.calls hy hx hcall]

/-- The application makes a step that leaves the entries and the windows alone. -/
theorem Sound.of_ident (h : Sound s) {s' : App} (hi : ∀ k, s'.ident k = s.1.ident k)
    (hl : ∀ e ∈ s'.lost, e ∈ s.1.lost) (ha : s'.allocated = s.1.allocated) :
    Sound (s', s.2) where
  same := h.same
  calls := h.calls
  one k a hk := h.one k a (hi k ▸ hk)
  other k a t hk := h.other k a t (hi k ▸ hk)
  shown x hx := (h.shown x hx).imp fun k hk => (hi k).trans hk
  pending := h.pending
  once := h.once
  lost e he := ha ▸ h.lost e (hl e he)
  fresh a hle := h.fresh a (ha ▸ hle)
  lt k a t hk := ha ▸ h.lt k a t (hi k ▸ hk)
  inj k k' a t t' hk hk' := h.inj k k' a t t' (hi k ▸ hk) (hi k' ▸ hk')
  misused := h.misused

/-- From `s` to `s'` a call of the type `t` is announced under the key `k`. -/
structure Announced (s s' : App) (k : JournalKey) (t : EntryType) : Prop where
  keep : ∀ j a u, s.ident j = some (a, u) → s'.ident j = some (a, u)
  old : ∀ j a u, s'.ident j = some (a, u) →
    s.ident j = some (a, u) ∨ j = k ∧ a = s.allocated ∧ u = t
  new : s.ident k = none → s'.ident k = some (s.allocated, t)
  lost : ∀ e ∈ s'.lost, e ∈ s.lost ∨ e.self = s.allocated ∧ (s.ident k).isSome
  allocated : s'.allocated = s.allocated + 1

theorem announced_step (w : World) (m : Moment) (s : App) (pid cid : Nat) (type : CallType)
    (status : CallStatus) :
    Announced s (s.step w (.call m (.newCall pid cid type status))) (journalKey pid cid)
      (callType2JournalType type) := by
  have hi := App.ident_step w s (.call m (.newCall pid cid type status))
  refine ⟨fun j a u hj => ?_, fun j a u hj => ?_, fun hk => ?_, fun e he => ?_,
    App.allocated_step w s _⟩
  · rw [hi, App.identAfter, hj]
    split <;> rfl
  · rw [hi, App.identAfter] at hj
    split at hj
    · rename_i hk
      rcases Option.or_eq_some_iff.mp hj with hj | ⟨-, hj⟩
      · exact .inl hj
      · obtain ⟨rfl, rfl⟩ := Prod.mk.inj (Option.some.inj hj)
        exact .inr ⟨hk, rfl, rfl⟩
    · exact .inl hj
  · rw [hi, App.identAfter, if_pos rfl, hk]
    rfl
  · rcases App.mem_lost_step he with he | ⟨_, _, _, _, _, hev, hself, hkey⟩
    · exact .inl he
    · cases hev
      exact .inr ⟨hself, hkey⟩

namespace Announced
variable {s' : App}

theorem lt (hs : Sound s) (h : Announced s.1 s' k t) {j : JournalKey} {u : EntryType}
    (hj : s'.ident j = some (a, u)) : a < s'.allocated := by
  rw [h.allocated]
  rcases h.old j a u hj with hj | ⟨-, rfl, -⟩
  · exact Nat.lt_succ_of_lt (hs.lt j a u hj)
  · exact Nat.lt_succ_self _

theorem inj (hs : Sound s) (h : Announced s.1 s' k t) {j j' : JournalKey} {u u' : EntryType}
    (hj : s'.ident j = some (a, u)) (hj' : s'.ident j' = some (a, u')) : j = j' := by
  rcases h.old j a u hj with hj | ⟨rfl, ha, -⟩
  · rcases h.old j' a u' hj' with hj' | ⟨rfl, ha, -⟩
    · exact hs.inj j j' a u u' hj hj'
    · exact absurd ha (Nat.ne_of_lt (hs.lt j a u hj))
  · rcases h.old j' a u' hj' with hj' | ⟨rfl, -, -⟩
    · exact absurd ha (Nat.ne_of_lt (hs.lt j' a u' hj'))
    · rfl

/-- A call that is not incoming has no window. -/
theorem sound_quiet (hs : Sound s) (h : Announced s.1 s' k t) (ht : t ≠ .incoming) :
    Sound (s', s.2) where
  same := hs.same
  calls := hs.calls
  one j a hj := by
    rcases h.old j a _ hj with hj | ⟨-, -, hu⟩
    · exact hs.one j a hj
    · exact absurd hu.symm ht
  other j a u hj hu := by
    rcases h.old j a u hj with hj | ⟨-, rfl, -⟩
    · exact hs.other j a u hj hu
    · exact hs.fresh _ (Nat.le_refl _)
  shown x hx := (hs.shown x hx).imp fun j hj => h.keep j _ _ hj
  pending := hs.pending
  once := hs.once
  lost e he := by
    rw [h.allocated]
    rcases h.lost e he with he | ⟨hself, -⟩
    · exact ⟨(hs.lost e he).1, Nat.lt_succ_of_lt (hs.lost e he).2⟩
    · exact ⟨hself ▸ hs.fresh _ (Nat.le_refl _), hself ▸ Nat.lt_succ_self _⟩
  fresh a hle := by
    have hle : s'.allocated ≤ a := hle
    rw [h.allocated] at hle
    exact hs.fresh a (Nat.le_of_succ_le hle)
  lt _ _ _ hj := h.lt hs hj
  inj _ _ _ _ _ hj hj' := h.inj hs hj hj'
  misused := hs.misused

/-- An incoming call under a new key has one. -/
theorem sound_notify (hs : Sound s) (h : Announced s.1 s' k .incoming)
    (hk : s.1.ident k = none) : Sound (s', s.2.notify s.1.allocated .incoming) := by
  rw [Notifications.notify_incoming hs.misused hs.same]
  have hne : ∀ {a}, a < s.1.allocated →
      Function.update s.2.pNotification s.1.allocated (some ⟨s.2.created, s.1.allocated⟩) a =
        s.2.pNotification a := fun ha => Function.update_of_ne (Nat.ne_of_lt ha) _ _
  constructor
  case same => rfl
  case calls =>
    rw [List.map_append]
    refine List.nodup_append.mpr ⟨hs.calls, List.nodup_singleton _, ?_⟩
    intro a ha b hb
    obtain ⟨x, hx, rfl⟩ := List.mem_map.mp ha
    obtain rfl := List.mem_singleton.mp hb
    obtain ⟨j, hj⟩ := hs.shown x hx
    exact Nat.ne_of_lt (hs.lt j _ _ hj)
  case one =>
    intro j a hj
    rcases h.old j a _ hj with hj | ⟨-, rfl, -⟩
    · obtain ⟨x, hx, hcall, hp⟩ := hs.one j a hj
      exact ⟨x, List.mem_append_left _ hx, hcall, (hne (hs.lt j a _ hj)).trans hp⟩
    · exact ⟨_, List.mem_append_right _ (List.mem_singleton_self _), rfl, Function.update_self ..⟩
  case other =>
    intro j a u hj hu
    rcases h.old j a u hj with hj | ⟨-, -, rfl⟩
    · exact (hne (hs.lt j a u hj)).trans (hs.other j a u hj hu)
    · exact absurd rfl hu
  case shown =>
    intro x hx
    rcases List.mem_append.mp hx with hx | hx
    · exact (hs.shown x hx).imp fun j hj => h.keep j _ _ hj
    · obtain rfl := List.mem_singleton.mp hx
      exact ⟨k, h.new hk⟩
  case pending => exact fun x hx => List.mem_append_left _ (hs.pending x hx)
  case once => exact hs.once
  case lost =>
    intro e he
    rw [h.allocated]
    rcases h.lost e he with he | ⟨-, hsome⟩
    · have hlost := hs.lost e he
      exact ⟨(hne hlost.2).trans hlost.1, Nat.lt_succ_of_lt hlost.2⟩
    · rw [hk] at hsome
      cases hsome
  case fresh =>
    intro a hle
    have ha : s'.allocated ≤ a := hle
    rw [h.allocated] at ha
    replace ha : s.1.allocated < a := ha
    exact (Function.update_of_ne (Nat.ne_of_gt ha) _ _).trans (hs.fresh a (Nat.le_of_lt ha))
  case lt => exact fun _ _ _ hj => h.lt hs hj
  case inj => exact fun _ _ _ _ _ hj hj' => h.inj hs hj hj'
  case misused => exact hs.misused

end Announced

/-- From `s` to `s'` the call under the key `k` ends. -/
structure Ended (s s' : App) (k : JournalKey) : Prop where
  keep : ∀ j a u, j ≠ k → s.ident j = some (a, u) → s'.ident j = some (a, u)
  old : ∀ j a u, s'.ident j = some (a, u) → j ≠ k ∧ s.ident j = some (a, u)
  lost : ∀ e ∈ s'.lost, e ∈ s.lost
  allocated : s'.allocated = s.allocated

theorem ended_step (w : World) (m : Moment) (s : App) (pid cid : Nat) :
    Ended s (s.step w (.call m (.callStatus pid cid .idle))) (journalKey pid cid) := by
  have hi := App.ident_step w s (.call m (.callStatus pid cid .idle))
  refine ⟨fun j a u hne hj => ?_, fun j a u hj => ?_, fun e he => ?_, App.allocated_step w s _⟩
  · rw [hi, App.identAfter, if_neg fun hk => hne hk.1, hj]
  · rw [hi, App.identAfter] at hj
    split at hj
    · cases hj
    · rename_i hne
      exact ⟨fun hk => hne ⟨hk, rfl⟩, hj⟩
  · rcases App.mem_lost_step he with he | ⟨_, _, _, _, _, hev, -⟩
    · exact he
    · cases hev

namespace Ended
variable {s' : App}

theorem lt (hs : Sound s) (h : Ended s.1 s' k) {j : JournalKey} {b : Nat} {u : EntryType}
    (hj : s'.ident j = some (b, u)) : b < s'.allocated :=
  h.allocated ▸ hs.lt j b u (h.old j b u hj).2

theorem inj (hs : Sound s) (h : Ended s.1 s' k) {j j' : JournalKey} {b : Nat} {u u' : EntryType}
    (hj : s'.ident j = some (b, u)) (hj' : s'.ident j' = some (b, u')) : j = j' :=
  hs.inj j j' b u u' (h.old j b u hj).2 (h.old j' b u' hj').2

/-- The window of another call, which is still active. -/
theorem shown (hs : Sound s) (h : Ended s.1 s' k) (hk : s.1.ident k = some (a, t))
    {x : NotificationWnd} (hx : x ∈ s.2.windows) (hne : x.call ≠ a) :
    ∃ j, s'.ident j = some (x.call, .incoming) := by
  obtain ⟨j, hj⟩ := hs.shown x hx
  refine ⟨j, h.keep j _ _ ?_ hj⟩
  rintro rfl
  exact hne (Prod.mk.inj (Option.some.inj (hj.symm.trans hk))).1

/-- A call that has no window. -/
theorem sound_quiet (hs : Sound s) (h : Ended s.1 s' k) (hk : s.1.ident k = some (a, t))
    (hp : s.2.pNotification a = none) : Sound (s', s.2) where
  same := hs.same
  calls := hs.calls
  one j b hj := hs.one j b (h.old j b _ hj).2
  other j b u hj hu := hs.other j b u (h.old j b u hj).2 hu
  shown x hx := h.shown hs hk hx fun hcall => by
    have hpx := hs.pNotification_eq hx
    rw [hcall, hp] at hpx
    cases hpx
  pending := hs.pending
  once := hs.once
  lost e he := h.allocated ▸ hs.lost e (h.lost e he)
  fresh b hle := hs.fresh b (h.allocated ▸ hle)
  lt _ _ _ hj := h.lt hs hj
  inj _ _ _ _ _ hj hj' := h.inj hs hj hj'
  misused := hs.misused

/-- A call whose window the manager closes. -/
theorem sound_killWnd (hs : Sound s) (h : Ended s.1 s' k) (hk : s.1.ident k = some (a, t))
    {x : NotificationWnd} (hp : s.2.pNotification a = some x) : Sound (s', s.2.killWnd x) := by
  obtain ⟨hx, hcall⟩ := hs.window hk hp
  have hmem : ∀ {y}, y ∈ s.2.windows.erase x ↔ y ≠ x ∧ y ∈ s.2.windows :=
    (hs.calls.of_map _).mem_erase_iff
  rw [Notifications.killWnd_eq hs.misused hs.same hx]
  constructor
  case same => rfl
  case calls => exact hs.calls.sublist (List.erase_sublist.map _)
  case one =>
    intro j b hj
    obtain ⟨hjk, hj'⟩ := h.old j b _ hj
    obtain ⟨y, hy, hcally, hpy⟩ := hs.one j b hj'
    refine ⟨y, hmem.mpr ⟨?_, hy⟩, hcally, hpy⟩
    rintro rfl
    have hba : b = a := hcally.symm.trans hcall
    exact hjk (hs.inj j k b _ _ hj' (hba ▸ hk))
  case other => exact fun j b u hj hu => hs.other j b u (h.old j b u hj).2 hu
  case shown =>
    intro y hy
    obtain ⟨hyx, hy⟩ := hmem.mp hy
    exact h.shown hs hk hy fun hya =>
      hyx (List.inj_on_of_nodup_map hs.calls hy hx (hya.trans hcall.symm))
  case pending =>
    intro y hy
    obtain ⟨hyx, hy⟩ := hs.once.mem_erase_iff.mp hy
    exact hmem.mpr ⟨hyx, hs.pending y hy⟩
  case once => exact hs.once.sublist List.erase_sublist
  case lost => exact fun e he => h.allocated ▸ hs.lost e (h.lost e he)
  case fresh => exact fun b hle => hs.fresh b (h.allocated ▸ hle)
  case lt => exact fun _ _ _ hj => h.lt hs hj
  case inj => exact fun _ _ _ _ _ hj hj' => h.inj hs hj hj'
  case misused => exact hs.misused

theorem sound (hs : Sound s) (h : Ended s.1 s' k) (hk : s.1.ident k = some (a, t)) :
    Sound (s', s.2.destroyEntry a) := by
  rw [Notifications.destroyEntry]
  split
  · rename_i x hp
    exact h.sound_killWnd hs hk hp
  · rename_i hp
    exact h.sound_quiet hs hk hp

end Ended

/-! ### A step -/

/-- An event that is no new call, and ends none. -/
theorem Sound.quiet (h : Sound s) {ev : AppEvent}
    (hid : ∀ k, s.1.identAfter k ev = s.1.ident k) (hal : s.1.allocatedAfter ev = s.1.allocated) :
    Sound (s.1.step w ev, s.2) := by
  refine h.of_ident (fun k => (App.ident_step w s.1 ev k).trans (hid k)) (fun e he => ?_)
    ((App.allocated_step w s.1 ev).trans hal)
  rcases App.mem_lost_step he with he | ⟨m, pid, cid, type, status, rfl, -⟩
  · exact he
  · exact absurd hal (Nat.succ_ne_self _)

theorem ident_of_find? {e : JournalEntry} (he : s.1.activeCalls.find? k = some e) :
    s.1.ident k = some (e.self, e.type) := by
  rw [App.ident, he]
  rfl

theorem Sound.newCall (h : Sound s) {m : Moment} {pid cid : Nat} {type : CallType}
    {status : CallStatus} (hu : Untroubled s (.app (.call m (.newCall pid cid type status)))) :
    Sound (s.step w (.app (.call m (.newCall pid cid type status)))) := by
  have hann := announced_step w m s.1 pid cid type status
  by_cases ht : type = .incoming
  · subst ht
    refine hann.sound_notify h ?_
    rw [App.ident, hu rfl]
    rfl
  · have ht' : callType2JournalType type ≠ .incoming := by
      cases type <;> simp_all [callType2JournalType]
    have hn : s.2.notify s.1.allocated (callType2JournalType type) = s.2 := if_neg ht'
    show Sound (s.1.step w _, s.2.notify _ _)
    rw [hn]
    exact hann.sound_quiet h ht'

theorem Sound.callStatus (h : Sound s) (m : Moment) (pid cid : Nat) (status : CallStatus) :
    Sound (s.step w (.app (.call m (.callStatus pid cid status)))) := by
  rw [step, windowsAfter]
  split
  · rename_i he
    refine h.quiet (fun k => ?_) rfl
    rw [App.identAfter]
    split
    · rename_i hk
      rw [App.ident, hk.1, he]
      rfl
    · rfl
  · rename_i e he
    split
    · rename_i hs
      subst hs
      exact (ended_step w m s.1 pid cid).sound h (ident_of_find? he)
    · rename_i hs
      rw [h.update_eq (ident_of_find? he)]
      exact h.quiet (fun k => if_neg fun hk => hs hk.2) rfl

/-- **A step without trouble.** -/
theorem Sound.step (h : Sound s) {ev : NotifyEvent} (hu : Untroubled s ev) :
    Sound (s.step w ev) := by
  match ev with
  | .app (.call m (.newCall pid cid type status)) => exact h.newCall hu
  | .app (.call m (.callStatus pid cid status)) => exact h.callStatus m pid cid status
  | .app (.call m (.callInfo pid cid info)) =>
      rw [NotifiedApp.step, windowsAfter]
      split
      · exact h.quiet (fun _ => rfl) rfl
      · rename_i e he
        rw [h.update_eq (ident_of_find? he), ite_self]
        exact h.quiet (fun _ => rfl) rfl
  | .app (.work resolvers) => exact h.quiet (fun _ => rfl) rfl
  | .app (.deliver m) =>
      rw [NotifiedApp.step, windowsAfter]
      split
      · exact h.quiet (fun _ => rfl) rfl
      · rename_i k e he
        obtain ⟨r, -, hr⟩ := Option.bind_eq_some_iff.mp he
        rw [h.update_eq (ident_of_find? (App.findActiveEntry_find? hr))]
        exact h.quiet (fun _ => rfl) rfl
  | .closeWindow x =>
      rw [NotifiedApp.step, Notifications.onCloseWindow]
      split
      · rename_i hx
        refine { h with pending := fun y hy => ?_, once := ?_ }
        · rcases List.mem_append.mp hy with hy | hy
          · exact h.pending y hy
          · obtain rfl := List.mem_singleton.mp hy
            exact h.same ▸ hx.1
        · refine List.nodup_append.mpr ⟨h.once, List.nodup_singleton _, fun y hy z hz => ?_⟩
          obtain rfl := List.mem_singleton.mp hz
          rintro rfl
          exact hx.2 hy
      · exact h
  | .idle =>
      have hnone : s.2.pendingDelete = [] := hu
      refine { h with same := ?_, pending := fun _ hx => (nomatch hx), once := List.nodup_nil }
      show s.2.existing.filter (fun x => decide (x ∉ s.2.pendingDelete)) = s.2.windows
      rw [hnone]
      simpa using h.same
  | .timer =>
      have hn : s.2.onTimer = s.2 := Notifications.calculatePositions_eq h.misused h.same
      rw [NotifiedApp.step, hn]
      exact h

theorem find?_of_ident (hk : s.1.ident k = some (a, t)) :
    ∃ e, s.1.activeCalls.find? k = some e ∧ e.self = a ∧ e.type = t := by
  obtain ⟨e, he, heq⟩ := Option.map_eq_some_iff.mp hk
  obtain ⟨rfl, rfl⟩ := Prod.mk.inj heq
  exact ⟨e, he, rfl, rfl⟩

theorem Sound.isShown (h : Sound s) : Shown s where
  listed x := by rw [h.same]
  nodup := h.calls.of_map _
  one k e he ht _ := by
    have hk : s.1.ident k = some (e.self, .incoming) := ht ▸ ident_of_find? he
    obtain ⟨x, hx, hcall, -⟩ := h.one k e.self hk
    rw [h.same, Table.filter_key_of_nodup h.calls hx hcall]
    rfl
  active x hx := by
    obtain ⟨k, hk⟩ := h.shown x (h.same ▸ hx)
    obtain ⟨e, he, hself, -⟩ := find?_of_ident hk
    exact ⟨k, e, he, hself.symm⟩
  refs a ha x hp := by
    rw [h.same]
    rcases List.mem_append.mp ha with ha | ha
    · obtain ⟨⟨k, e⟩, he, rfl⟩ := List.mem_map.mp ha
      exact (h.window (ident_of_find? (OrderedMap.mem_entries.mp he)) hp).1
    · obtain ⟨e, he, rfl⟩ := List.mem_map.mp ha
      rw [(h.lost e he).1] at hp
      cases hp

/-- An incoming call comes under a key in use. -/
theorem not_shown_newCall (h : Sound s) {m : Moment} {pid cid : Nat} {status : CallStatus}
    (hk : s.1.activeCalls.find? (journalKey pid cid) ≠ none) :
    ¬ Shown (s.step w (.app (.call m (.newCall pid cid .incoming status)))) := by
  intro hs
  obtain ⟨e₀, he₀⟩ := Option.ne_none_iff_exists'.mp hk
  -- the new window is that of the entry that is lost
  have hx : (⟨s.2.created, s.1.allocated⟩ : NotificationWnd) ∈
      (s.step w (.app (.call m (.newCall pid cid .incoming status)))).2.existing := by
    show _ ∈ (s.2.notify s.1.allocated .incoming).existing
    rw [Notifications.notify_incoming h.misused h.same]
    exact List.mem_append_right _ (List.mem_singleton_self _)
  obtain ⟨k, e, he, hself⟩ := hs.active _ hx
  have hid := ident_of_find? he
  rw [NotifiedApp.step, App.ident_step, App.identAfter] at hid
  have hold : s.1.ident k = some (e.self, e.type) := by
    split at hid
    · rename_i hkey
      subst hkey
      rwa [ident_of_find? he₀] at hid ⊢
    · exact hid
  exact absurd hself.symm (Nat.ne_of_lt (h.lt k _ _ hold))

/-- A window that was closed is deleted. -/
theorem not_shown_idle (h : Sound s) (hp : s.2.pendingDelete ≠ []) : ¬ Shown (s.step w .idle) := by
  intro hs
  obtain ⟨x, hx⟩ := List.exists_mem_of_ne_nil _ hp
  have hex := (hs.listed x).mp (h.pending x hx)
  exact of_decide_eq_true (List.mem_filter.mp hex).2 hx

theorem not_shown_step (h : Sound s) {ev : NotifyEvent} (hu : ¬ Untroubled s ev) :
    ¬ Shown (s.step w ev) := by
  match ev with
  | .app (.call m (.newCall pid cid type status)) =>
      obtain ⟨rfl, hk⟩ := Classical.not_imp.mp hu
      exact not_shown_newCall h hk
  | .idle => exact not_shown_idle h hu
  | .app (.call m (.callStatus pid cid status)) | .app (.call m (.callInfo pid cid info))
  | .app (.work resolvers) | .app (.deliver m) | .closeWindow x | .timer => exact absurd trivial hu

/-- **The windows are as they should be** all along a run exactly if every step of it is without
trouble. -/
theorem shown_iff (w : World) (db : JournalDb) (evs : List NotifyEvent) :
    (∀ pre post, evs = pre ++ post → Shown (run (step w) (start db) pre)) ↔
      Along (step w) Untroubled (start db) evs := by
  rw [← along_after_iff (Sound.start db).isShown]
  refine along_congr (I := Sound) (fun s ev h hu => h.step hu)
    (fun s ev h => ⟨fun hs => ?_, fun hu => ?_⟩) (Sound.start db)
  · exact by_contra fun hu => not_shown_step h hu hs
  · exact (h.step hu).isShown

/-- Along such a run no window is used that was deleted. -/
theorem used_existing {w : World} {db : JournalDb} {evs : List NotifyEvent}
    (hu : Along (step w) Untroubled (start db) evs) :
    (run (step w) (start db) evs).2.misused = false :=
  (Along.inv (I := Sound) (fun _ _ h hu => h.step hu) (Sound.start db) hu).misused

/-- An incoming call whose window the user closes. -/
def closedByUser : List NotifyEvent :=
  [.app (.call (.quiet 0) (.newCall 0x10000020 1 .incoming .offering)), .closeWindow ⟨0, 0⟩, .idle]

/-- The manager and the entry keep the window, and the next status of the call uses it. -/
theorem closed_window_used :
    ¬ Shown (run (step .utc) (start .initial) closedByUser) ∧
      (run (step .utc) (start .initial) (closedByUser ++
        [.app (.call (.quiet 5) (.callStatus 0x10000020 1 .connected))])).2.misused = true := by
  refine ⟨fun h => ?_, by decide⟩
  have hx := (h.listed ⟨0, 0⟩).mp (by decide)
  revert hx
  decide

end NotifiedApp
end Cmon
