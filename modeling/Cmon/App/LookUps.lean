import Cmon.App.MainApp

/-!
# App — the look-ups of a call

A call info may come at any time, any number of times and with any contents.  What keeps the
worker's queue from filling up with requests for the same call are the two flags of the entry,
which are never lowered, and the test that its address is still empty.

`queued` are the requests that an event puts into the queue, `asked` those of a whole run, beside
the application, from which the worker takes them out again.  `Looked` is what happens to an
entry and to its requests together: on each side, the requests and the flag before do not
outnumber the flag after.

* `asked_once`: on each side a call is looked up once at most, with a number; and an address that
  an entry has is there as long as the entry is.
-/

namespace Cmon
open Library

section
variable (e : JournalEntry) (now : Int) (s : EntryState) (side : ResolveFor)

theorem JournalEntry.setState_resolving :
    (e.setState now s).resolving side = e.resolving side := by
  simp only [setState, enterState]
  split <;> (try split) <;> cases side <;> rfl

theorem JournalEntry.setState_address : (e.setState now s).address side = e.address side := by
  simp only [setState, enterState]
  split <;> (try split) <;> cases side <;> rfl

end

/-- The number of requests for the side. -/
def Request.countFor (rs : List Request) (side : ResolveFor) : Nat :=
  rs.countP fun r => r.userData = side

/-- The request has a national number and, if every number libphonenumber formats has one, a
number in the format E.164. -/
def Request.HasNumber (u : PhoneUtil) (r : Request) : Prop :=
  r.numberNational ≠ "" ∧ ((∀ n, u.formatE164 n ≠ "") → r.numberE164 ≠ "")

namespace App

/-- The requests that an event puts behind the others. -/
def queued (w : World) (s : App) (ev : AppEvent) : List Request :=
  (s.step w ev).requests.drop s.requests.length

/-- The requests of a run. -/
def asked (w : World) : App → List AppEvent → List Request
  | _, [] => []
  | s, ev :: evs => s.queued w ev ++ asked w (s.step w ev) evs

/-- The entry `e` has become `e'`, and `new` has been asked for it. -/
structure Looked (u : PhoneUtil) (e e' : JournalEntry) (new : List Request) : Prop where
  self : e'.self = e.self
  call : ∀ r ∈ new, r.call = e.self
  number : ∀ r ∈ new, r.HasNumber u
  once : ∀ side, Request.countFor new side + (e.resolving side).toNat ≤ (e'.resolving side).toNat
  address : ∀ side, e.address side ≠ "" → e'.address side = e.address side

namespace Looked
variable {u : PhoneUtil} {e e' e'' : JournalEntry} {new new' : List Request}

/-- No flag has changed, and no address that was there. -/
theorem of_empty (hs : e'.self = e.self) (hr : ∀ side, e'.resolving side = e.resolving side)
    (ha : ∀ side, e.address side ≠ "" → e'.address side = e.address side) : Looked u e e' [] where
  self := hs
  call _ h := nomatch h
  number _ h := nomatch h
  once side := by simp [Request.countFor, hr side]
  address := ha

theorem of_eq (hs : e'.self = e.self) (hr : ∀ side, e'.resolving side = e.resolving side)
    (ha : ∀ side, e'.address side = e.address side) : Looked u e e' [] :=
  of_empty hs hr fun side _ => ha side

theorem refl (e : JournalEntry) : Looked u e e [] := of_eq rfl (fun _ => rfl) fun _ => rfl

theorem trans (h : Looked u e e' new) (h' : Looked u e' e'' new') :
    Looked u e e'' (new ++ new') where
  self := h'.self.trans h.self
  call r hr := (List.mem_append.mp hr).elim (h.call r) fun hr => (h'.call r hr).trans h.self
  number r hr := (List.mem_append.mp hr).elim (h.number r) (h'.number r)
  once side := by
    have h₁ := h.once side
    have h₂ := h'.once side
    rw [Request.countFor, List.countP_append]
    simp only [Request.countFor] at h₁ h₂
    omega
  address side ha := by
    have he' := h.address side ha
    rw [h'.address side (he' ▸ ha), he']

theorem setName (data : ResolveFor) (sn : String) (e : JournalEntry) :
    Looked u e (App.setName data sn e) [] := by
  cases data with
  | caller => exact of_eq rfl (fun side => by cases side <;> rfl) fun side => by cases side <;> rfl
  | called => exact of_eq rfl (fun side => by cases side <;> rfl) fun side => by cases side <;> rfl

theorem setAddress {side : ResolveFor} (he : e.address side = "") (nr : String) :
    Looked u e (e.setAddress side nr) [] := by
  refine of_empty (e.relabelled_setAddress side nr).self
    (fun other => e.setAddress_resolving side other nr) fun other ha => ?_
  have hne : other ≠ side := by
    rintro rfl
    exact ha he
  rw [JournalEntry.setAddress_address, if_neg hne]

/-- The one request that raises the flag of its side. -/
theorem ask {r : Request} (hcall : r.call = e.self) (hnr : r.HasNumber u) (hs : e'.self = e.self)
    (hr : ∀ side, e'.resolving side =
      if side = r.userData then !e.resolving side else e.resolving side)
    (hflag : e.resolving r.userData = false) (ha : ∀ side, e'.address side = e.address side) :
    Looked u e e' [r] where
  self := hs
  call q hq := by
    obtain rfl := List.mem_singleton.mp hq
    exact hcall
  number q hq := by
    obtain rfl := List.mem_singleton.mp hq
    exact hnr
  once side := by
    rw [hr side]
    by_cases h : side = r.userData
    · simp [Request.countFor, h, hflag]
    · simp [Request.countFor, h, Ne.symm h]
  address side _ := ha side

end Looked

/-! ### A call info -/

/-- A number to look up is not empty in the format E.164 either. -/
theorem numberE164_ne (u : PhoneUtil) (rp : GeneralPrefs) {val : String} (hval : val ≠ "")
    (hu : ∀ n, u.formatE164 n ≠ "") : (parseAndFormatForResolver u rp val).2.2 ≠ "" := by
  rw [parseAndFormatForResolver]
  split
  · exact hval
  · split
    · exact hval
    · dsimp only
      repeat' split
      all_goals exact hu _

/-- **A side is looked up when its flag rises.** -/
theorem looked_fillsIn {w : World} {m : Moment} {info : CallInfo} {side : ResolveFor}
    {q q' : Filling} (h : FillsIn w m info side q q') :
    ∃ new, q'.2 = q.2 ++ new ∧ Looked w.phone q.1 q'.1 new := by
  cases h with
  | nothing => exact ⟨[], (List.append_nil _).symm, .refl _⟩
  | kept hdue => exact ⟨[], (List.append_nil _).symm, .setAddress hdue.1 _⟩
  | asked hdue hn =>
      obtain ⟨he, hgiven, hflag⟩ := hdue
      have haddress : Looked w.phone q.1 (q.1.setAddress side (formatted w m info side).2.1) [] :=
        .setAddress he _
      have hself := (JournalEntry.relabelled_setResolving
        (q.1.setAddress side (formatted w m info side).2.1) side).self
      refine ⟨_, rfl, haddress.trans (.ask haddress.self.symm
        ⟨hn.2, numberE164_ne w.phone m.prefs hgiven⟩ hself (fun other => ?_)
        ((q.1.setAddress_resolving side side _).trans hflag)
        fun other => JournalEntry.setResolving_address _ side other)⟩
      rw [JournalEntry.setResolving_resolving]
      by_cases h : other = side
      · simp [lookUp, h, JournalEntry.setAddress_resolving, hflag]
      · simp [lookUp, h]

section
variable (w : World) (m : Moment) (info : CallInfo)

theorem looked_fillNames (u : PhoneUtil) (pJ : JournalEntry) :
    Looked u pJ (fillNames info pJ) [] := by
  have h :
      Looked u pJ (if pJ.calledName = "" then pJ.setCalledName info.calledName else pJ) [] := by
    split
    · exact .setName .called _ _
    · exact .refl _
  show Looked u pJ _ ([] ++ [])
  refine h.trans ?_
  unfold fillNames
  generalize (if pJ.calledName = "" then pJ.setCalledName info.calledName else pJ) = pJ'
  dsimp only
  split
  · exact .setName .caller _ _
  · exact .refl _

theorem looked_fillIn (pJ : JournalEntry) (rs : List Request) :
    ∃ new, (fillIn w m info pJ rs).2 = rs ++ new ∧
      Looked w.phone pJ (fillIn w m info pJ rs).1 new := by
  obtain ⟨q, hcalled, hcaller⟩ := fillIn_sides w m info pJ rs
  obtain ⟨new, hnew, hlooked⟩ := looked_fillsIn hcalled
  obtain ⟨new', hnew', hlooked'⟩ := looked_fillsIn hcaller
  refine ⟨new ++ new', ?_, ((looked_fillNames info _ pJ).trans hlooked).trans hlooked'⟩
  rw [hnew', hnew, List.append_assoc]

end

/-! ### An event -/

theorem looked_saved (w : World) (m : Moment) (s : App) (e : JournalEntry) :
    Looked w.phone e (saved w m s e).entry [] := by
  have h := saves_saved w m s e
  generalize saved w m s e = o at h
  cases h with
  | clean | unusable | failed | keyed | inserted | updated =>
      exact .of_eq rfl (fun side => by cases side <;> rfl) fun side => by cases side <;> rfl

/-- What an event does to the entries and asks for: nothing is asked for, and each entry stays or
is a new one; or the look-ups of the entry `e` are asked for and the others are as before. -/
inductive LooksUp (w : World) (s s' : App) : List Request → Prop where
  | quiet (hs : s'.allocated = s.allocated)
      (he : ∀ j e₁, s'.activeCalls.find? j = some e₁ →
        ∃ e, s.activeCalls.find? j = some e ∧ Looked w.phone e e₁ []) : LooksUp w s s' []
  | created {k : JournalKey} (hs : s'.allocated = s.allocated + 1)
      (he : ∀ j e₁, s'.activeCalls.find? j = some e₁ →
        j = k ∧ e₁.self = s.allocated ∨ s.activeCalls.find? j = some e₁) : LooksUp w s s' []
  | informed {k : JournalKey} {e e' : JournalEntry} {new : List Request}
      (hs : s'.allocated = s.allocated) (hk : s.activeCalls.find? k = some e)
      (hl : Looked w.phone e e' new)
      (he : ∀ j e₁, s'.activeCalls.find? j = some e₁ →
        j = k ∧ e₁ = e' ∨ j ≠ k ∧ s.activeCalls.find? j = some e₁) : LooksUp w s s' new

/-- An edit that asks for nothing. -/
theorem LooksUp.edit {w : World} {m : Moment} {s : App} {k : JournalKey} {e e' : JournalEntry}
    (hk : s.activeCalls.find? k = some e) (hl : Looked w.phone e e' []) :
    LooksUp w s (s.edit w m k e') [] :=
  .informed rfl hk (hl.trans (looked_saved w m s e')) fun _ _ => find?_edit hk

theorem queued_eq {w : World} {s : App} {ev : AppEvent} {new : List Request}
    (h : (s.step w ev).requests = s.requests ++ new) : s.queued w ev = new := by
  rw [queued, h, List.drop_left]

theorem looksUp_onCallInfoUpdate (w : World) (m : Moment) (s : App) (pid cid : Nat)
    (info : CallInfo) : LooksUp w s (s.onCallInfoUpdate w m pid cid info)
      (s.queued w (.call m (.callInfo pid cid info))) := by
  cases hk : s.activeCalls.find? (journalKey pid cid) with
  | none =>
      have hstep : s.onCallInfoUpdate w m pid cid info = s := by simp only [onCallInfoUpdate, hk]
      have hreq : (s.step w (.call m (.callInfo pid cid info))).requests = s.requests ++ [] :=
        (congrArg App.requests hstep).trans (List.append_nil _).symm
      rw [queued_eq hreq, hstep]
      exact .quiet rfl fun j e he => ⟨e, he, .refl e⟩
  | some e =>
      obtain ⟨new, hnew, hl⟩ := looked_fillIn w m info e s.requests
      have hstep : s.onCallInfoUpdate w m pid cid info =
          { s with requests := s.requests ++ new }.edit w m (journalKey pid cid)
            (fillIn w m info e s.requests).1 := by
        simp only [onCallInfoUpdate, hk, hnew]
      have hreq : (s.step w (.call m (.callInfo pid cid info))).requests = s.requests ++ new :=
        congrArg App.requests hstep
      rw [queued_eq hreq, hstep]
      have hl' := hl.trans (looked_saved w m { s with requests := s.requests ++ new } _)
      rw [List.append_nil] at hl'
      exact .informed rfl hk hl' fun _ _ =>
        find?_edit (s := { s with requests := s.requests ++ new }) hk

/-- The worker thread only takes requests out. -/
theorem queued_work (w : World) (s : App) (resolvers : List ResolverApi) :
    s.queued w (.work resolvers) = [] := by
  show (s.processRequest resolvers).requests.drop s.requests.length = []
  rw [processRequest]
  split
  · exact List.drop_length
  · rename_i req rs hreq
    have hdrop : rs.drop s.requests.length = [] := by simp [hreq]
    split <;> exact hdrop

/-- **What a step asks for, and of which entry.** -/
theorem looksUp_step (w : World) (s : App) (ev : AppEvent) :
    LooksUp w s (s.step w ev) (s.queued w ev) := by
  have hsame : ∀ {s' : App}, s'.allocated = s.allocated → s'.activeCalls = s.activeCalls →
      LooksUp w s s' [] := fun ha hc => .quiet ha fun j e he => ⟨e, hc ▸ he, .refl e⟩
  have hnone : (s.step w ev).requests = s.requests → s.queued w ev = [] := fun h =>
    queued_eq (h.trans (List.append_nil _).symm)
  have hacts := step_acts w s ev
  generalize hs' : s.step w ev = s' at hacts hnone
  cases hacts with
  | noStatus =>
      rw [hnone rfl]
      exact hsame rfl rfl
  | @noInfo m pid cid info =>
      have h := looksUp_onCallInfoUpdate w m s pid cid info
      rwa [show s.onCallInfoUpdate w m pid cid info = s from hs'] at h
  | @informed m pid cid info =>
      rw [← hs']
      exact looksUp_onCallInfoUpdate w m s pid cid info
  | worked =>
      rw [queued_work]
      exact hsame rfl rfl
  | unanswered =>
      rw [hnone rfl]
      exact hsame rfl rfl
  | created m pid cid type status =>
      rw [hnone rfl]
      have hself : (saved w m s (s.newEntry m pid cid type status)).entry.self = s.allocated :=
        (saved_self w m s _).trans (newEntry_self s m pid cid type status)
      refine .created (k := journalKey pid cid) rfl fun j e₁ hj => (find?_onNewCall hj).imp_left ?_
      rintro ⟨rfl, rfl⟩
      exact ⟨rfl, hself⟩
  | ended m pid cid =>
      rw [hnone rfl]
      exact .quiet rfl fun j e₁ hj => ⟨e₁, find?_ended hj, .refl e₁⟩
  | @moved m _ _ status e he hs =>
      rw [hnone rfl]
      refine .edit he (.of_eq (JournalEntry.setState_self ..) (fun side => ?_) fun side => ?_)
      · exact JournalEntry.setState_resolving e m.now _ side
      · exact JournalEntry.setState_address e m.now _ side
  | @named m k e _ r rp hrp he hr =>
      rw [hnone rfl]
      subst hr
      have hk := findActiveEntry_find? he
      have hsaved := looked_saved w m { s with responses := rp } (setName r.userData r.sn e)
      exact .informed rfl hk ((Looked.setName r.userData r.sn e).trans hsaved) fun _ _ =>
        find?_edit (s := { s with responses := rp }) hk
  | copied =>
      rw [hnone rfl]
      exact hsame rfl rfl

/-! ### A run -/

/-- The requests for one side of a call. -/
abbrev requestsFor (call : Nat) (side : ResolveFor) (rs : List Request) : Nat :=
  rs.countP fun r => r.call = call ∧ r.userData = side

/-- The application, and what has been asked for. -/
abbrev Asking := App × List Request

def Asking.step (w : World) (t : Asking) (ev : AppEvent) : Asking :=
  (t.1.step w ev, t.2 ++ t.1.queued w ev)

theorem run_asking (w : World) (s : App) (log : List Request) (evs : List AppEvent) :
    run (Asking.step w) (s, log) evs = (run (App.step w) s evs, log ++ s.asked w evs) := by
  induction evs generalizing s log with
  | nil => simp [asked]
  | cons ev evs ih => rw [run_cons, Asking.step, ih, asked, List.append_assoc, run_cons]

/-- The flags of the active entries bound the requests for them, and no two entries share an
address. -/
structure Bounded (w : World) (t : Asking) : Prop where
  flag : ∀ k e side, t.1.activeCalls.find? k = some e →
    requestsFor e.self side t.2 ≤ (e.resolving side).toNat
  le_one : ∀ a side, requestsFor a side t.2 ≤ 1
  number : ∀ r ∈ t.2, r.HasNumber w.phone
  old : ∀ r ∈ t.2, r.call < t.1.allocated
  lt : ∀ k e, t.1.activeCalls.find? k = some e → e.self < t.1.allocated
  inj : ∀ k k' e e', t.1.activeCalls.find? k = some e → t.1.activeCalls.find? k' = some e' →
    e.self = e'.self → k = k'

namespace Bounded
variable {w : World} {t : Asking}

theorem start (w : World) (db : JournalDb) : Bounded w (App.start db, []) where
  flag _ _ _ h := nomatch h
  le_one _ _ := Nat.zero_le 1
  number _ h := nomatch h
  old _ h := nomatch h
  lt _ _ h := nomatch h
  inj _ _ _ _ h := nomatch h

/-- Nothing has been asked for a call that is yet to come. -/
theorem requestsFor_new (h : Bounded w t) (side : ResolveFor) :
    requestsFor t.1.allocated side t.2 = 0 :=
  List.countP_eq_zero.mpr fun r hr => by
    have hlt := h.old r hr
    simp [Nat.ne_of_lt hlt]

theorem quiet (h : Bounded w t) {s' : App} (hs : s'.allocated = t.1.allocated)
    (he : ∀ j e₁, s'.activeCalls.find? j = some e₁ →
      ∃ e, t.1.activeCalls.find? j = some e ∧ Looked w.phone e e₁ []) : Bounded w (s', t.2) where
  flag k e₁ side hk := by
    obtain ⟨e, hk, hl⟩ := he k e₁ hk
    have honce := hl.once side
    rw [hl.self]
    exact (h.flag k e side hk).trans ((Nat.le_add_left _ _).trans honce)
  le_one := h.le_one
  number := h.number
  old r hr := hs ▸ h.old r hr
  lt k e₁ hk := by
    obtain ⟨e, hk, hl⟩ := he k e₁ hk
    rw [hl.self, hs]
    exact h.lt k e hk
  inj k k' e₁ e₁' hk hk' heq := by
    obtain ⟨e, hk, hl⟩ := he k e₁ hk
    obtain ⟨e', hk', hl'⟩ := he k' e₁' hk'
    exact h.inj k k' e e' hk hk' (hl.self ▸ hl'.self ▸ heq)

theorem created (h : Bounded w t) {s' : App} {k : JournalKey}
    (hs : s'.allocated = t.1.allocated + 1)
    (he : ∀ j e₁, s'.activeCalls.find? j = some e₁ →
      j = k ∧ e₁.self = t.1.allocated ∨ t.1.activeCalls.find? j = some e₁) :
    Bounded w (s', t.2) where
  flag j e₁ side hj := by
    rcases he j e₁ hj with ⟨-, hself⟩ | hj
    · rw [hself, h.requestsFor_new]
      exact Nat.zero_le _
    · exact h.flag j e₁ side hj
  le_one := h.le_one
  number := h.number
  old r hr := hs ▸ Nat.lt_succ_of_lt (h.old r hr)
  lt j e₁ hj := by
    rw [hs]
    rcases he j e₁ hj with ⟨-, hself⟩ | hj
    · exact hself ▸ Nat.lt_succ_self _
    · exact Nat.lt_succ_of_lt (h.lt j e₁ hj)
  inj j j' e₁ e₁' hj hj' heq := by
    rcases he j e₁ hj with ⟨rfl, hself⟩ | hj
    · rcases he j' e₁' hj' with ⟨rfl, -⟩ | hj'
      · rfl
      · exact absurd (heq.symm.trans hself) (Nat.ne_of_lt (h.lt j' e₁' hj'))
    · rcases he j' e₁' hj' with ⟨rfl, hself'⟩ | hj'
      · exact absurd (heq.trans hself') (Nat.ne_of_lt (h.lt j e₁ hj))
      · exact h.inj j j' e₁ e₁' hj hj' heq

/-- New requests count for the entry they are for, and for no other. -/
theorem requestsFor_append {e e' : JournalEntry} {new : List Request}
    (hl : Looked w.phone e e' new) (rs : List Request) (a : Nat) (side : ResolveFor) :
    requestsFor a side (rs ++ new) =
      requestsFor a side rs + if a = e.self then Request.countFor new side else 0 := by
  rw [requestsFor, List.countP_append]
  congr 1
  split
  · rename_i ha
    refine List.countP_congr fun r hr => ?_
    simp [hl.call r hr, ha]
  · rename_i ha
    refine List.countP_eq_zero.mpr fun r hr => ?_
    simp [hl.call r hr, Ne.symm ha]

theorem informed (h : Bounded w t) {s' : App} {k : JournalKey} {e e' : JournalEntry}
    {new : List Request} (hs : s'.allocated = t.1.allocated) (hk : t.1.activeCalls.find? k = some e)
    (hl : Looked w.phone e e' new)
    (he : ∀ j e₁, s'.activeCalls.find? j = some e₁ →
      j = k ∧ e₁ = e' ∨ j ≠ k ∧ t.1.activeCalls.find? j = some e₁) :
    Bounded w (s', t.2 ++ new) where
  flag j e₁ side hj := by
    have honce := hl.once side
    have hflag := h.flag k e side hk
    refine (requestsFor_append hl t.2 _ side).trans_le ?_
    rcases he j e₁ hj with ⟨rfl, rfl⟩ | ⟨hne, hj⟩
    · rw [hl.self, if_pos rfl]
      omega
    · -- the other entries have other addresses
      rw [if_neg fun hself => hne (h.inj j k e₁ e hj hk hself), Nat.add_zero]
      exact h.flag j e₁ side hj
  le_one a side := by
    have honce := hl.once side
    have hflag := h.flag k e side hk
    refine (requestsFor_append hl t.2 a side).trans_le ?_
    split
    · rename_i ha
      subst ha
      have := Bool.toNat_le (e'.resolving side)
      omega
    · exact h.le_one a side
  number r hr := (List.mem_append.mp hr).elim (h.number r) (hl.number r)
  old r hr := by
    rw [hs]
    rcases List.mem_append.mp hr with hr | hr
    · exact h.old r hr
    · exact hl.call r hr ▸ h.lt k e hk
  lt j e₁ hj := by
    rw [hs]
    rcases he j e₁ hj with ⟨rfl, rfl⟩ | ⟨-, hj⟩
    · exact hl.self ▸ h.lt j e hk
    · exact h.lt j e₁ hj
  inj j j' e₁ e₁' hj hj' heq := by
    rcases he j e₁ hj with ⟨rfl, rfl⟩ | ⟨-, hj⟩
    · rcases he j' e₁' hj' with ⟨rfl, -⟩ | ⟨-, hj'⟩
      · rfl
      · exact h.inj j j' e e₁' hk hj' (hl.self ▸ heq)
    · rcases he j' e₁' hj' with ⟨rfl, rfl⟩ | ⟨-, hj'⟩
      · exact h.inj j j' e₁ e hj hk (heq.trans hl.self)
      · exact h.inj j j' e₁ e₁' hj hj' heq

theorem step (h : Bounded w t) (ev : AppEvent) : Bounded w (t.step w ev) := by
  have hl := looksUp_step w t.1 ev
  rw [Asking.step]
  generalize t.1.queued w ev = new at hl
  cases hl with
  | quiet hs he => exact (List.append_nil t.2).symm ▸ h.quiet hs he
  | created hs he => exact (List.append_nil t.2).symm ▸ h.created hs he
  | informed hs hk hl he => exact h.informed hs hk hl he

end Bounded

/-- The state that a run leaves, with its requests. -/
theorem bounded_run (w : World) (db : JournalDb) (evs : List AppEvent) :
    Bounded w (run (App.step w) (.start db) evs, asked w (.start db) evs) := by
  have h := run_inv (I := Bounded w) (fun _ ev h => h.step ev) (Bounded.start w db) evs
  rwa [run_asking, List.nil_append] at h

/-- Where there is an entry with the address `a`, it has the value `nr` on this side. -/
structure Settled (a : Nat) (side : ResolveFor) (nr : String) (s : App) : Prop where
  old : a < s.allocated
  address : ∀ k e, s.activeCalls.find? k = some e → e.self = a → e.address side = nr

theorem Settled.step {w : World} {a : Nat} {side : ResolveFor} {nr : String} {s : App}
    (h : Settled a side nr s) (hnr : nr ≠ "") (ev : AppEvent) :
    Settled a side nr (s.step w ev) := by
  have hl := looksUp_step w s ev
  generalize s.queued w ev = new at hl
  have hkeep : ∀ {k e e₁ new}, s.activeCalls.find? k = some e → Looked w.phone e e₁ new →
      e₁.self = a → e₁.address side = nr := by
    intro k e e₁ new hk hl ha
    have haddr := h.address k e hk (hl.self ▸ ha)
    rw [hl.address side (haddr ▸ hnr), haddr]
  cases hl with
  | quiet hs he =>
      refine ⟨hs ▸ h.old, fun j e₁ hj ha => ?_⟩
      obtain ⟨e, hk, hl⟩ := he j e₁ hj
      exact hkeep hk hl ha
  | created hs he =>
      refine ⟨hs ▸ Nat.lt_succ_of_lt h.old, fun j e₁ hj ha => ?_⟩
      rcases he j e₁ hj with ⟨-, hself⟩ | hj
      · exact absurd (ha.symm.trans hself) (Nat.ne_of_lt h.old)
      · exact h.address j e₁ hj ha
  | informed hs hk hl he =>
      refine ⟨hs ▸ h.old, fun j e₁ hj ha => ?_⟩
      rcases he j e₁ hj with ⟨rfl, rfl⟩ | ⟨-, hj⟩
      · exact hkeep hk hl ha
      · exact h.address j e₁ hj ha

/-- **The look-ups of a call.**  Whatever happens, on each side a call is looked up once at most,
and with a number; and an entry that has an address keeps it. -/
theorem asked_once (w : World) (db : JournalDb) (evs : List AppEvent) (a : Nat)
    (side : ResolveFor) :
    requestsFor a side (asked w (.start db) evs) ≤ 1 ∧
    (∀ r ∈ asked w (.start db) evs, r.HasNumber w.phone) ∧
    ∀ pre post, evs = pre ++ post → ∀ k e,
      (run (App.step w) (.start db) pre).activeCalls.find? k = some e → e.self = a →
      e.address side ≠ "" → ∀ k' e',
        (run (App.step w) (.start db) evs).activeCalls.find? k' = some e' → e'.self = a →
          e'.address side = e.address side := by
  refine ⟨(bounded_run w db evs).le_one a side, (bounded_run w db evs).number, ?_⟩
  rintro pre post rfl k e hk rfl hne k' e' hk' ha
  have hpre := bounded_run w db pre
  have hstart : Settled e.self side (e.address side) (run (App.step w) (.start db) pre) := by
    refine ⟨hpre.lt k e hk, fun j e₁ hj heq => ?_⟩
    obtain rfl := hpre.inj j k e₁ e hj hk heq
    rw [Option.some.inj (hj.symm.trans hk)]
  rw [run_append] at hk'
  have hend : Settled e.self side (e.address side)
      (run (App.step w) (run (App.step w) (.start db) pre) post) :=
    run_inv (fun _ ev h => h.step hne ev) hstart post
  exact hend.address k' e' hk' ha

end App
end Cmon
