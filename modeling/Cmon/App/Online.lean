import Cmon.App.LookUps
import Cmon.App.Names

/-!
# App — what is asked online

The numbers of a call that are handed to the online resolvers.  `ResolveCaller` and
`ResolveCalled` decide from the type of the call and the kind of the number whether a look-up may
go online, and the worker asks the online resolvers accordingly.

* `mem_handedOnline`: an online resolver is given the number of a look-up that may go online.
* `mem_queued_info`: the look-ups of a call info.
* `private_iff`: only numbers of the remote side are handed out, and only national ones, exactly
  when no look-up is `Leaky`: of a number that cannot be parsed, or in a call of unknown type.
-/

namespace Cmon
open Library

/-- The side is the other party of a call of the type. -/
def ResolveFor.Remote (side : ResolveFor) (type : EntryType) : Prop :=
  side = .caller ∧ type = .incoming ∨ side = .called ∧ type = .outgoing

namespace App

/-! ### The worker -/

/-- The numbers that `processRequest` hands to online resolvers. -/
def handedOnline (req : Request) : List ResolverApi → List String
  | [] => []
  | r :: rs =>
      if !r.enabled then handedOnline req rs
      else
        match r.type with
        | .onlineRegex =>
            if !req.onlineResolvable then handedOnline req rs
            else req.numberNational ::
              (if (r.resolve req.numberNational).isSome then [] else handedOnline req rs)
        | .addressbook =>
            if (r.resolve req.numberE164).isSome then [] else handedOnline req rs

/-- **The online resolvers get the national number of a look-up that may go online.** -/
theorem mem_handedOnline {req : Request} {nr : String} :
    (∃ resolvers, nr ∈ handedOnline req resolvers) ↔
      req.onlineResolvable = true ∧ nr = req.numberNational := by
  constructor
  · rintro ⟨resolvers, hnr⟩
    induction resolvers with
    | nil => cases hnr
    | cons r rs ih =>
        rw [handedOnline] at hnr
        split at hnr
        · exact ih hnr
        · split at hnr
          · split at hnr
            · exact ih hnr
            · next honline =>
              rcases List.mem_cons.mp hnr with rfl | hnr
              · exact ⟨by simpa using honline, rfl⟩
              · split at hnr
                · cases hnr
                · exact ih hnr
          · split at hnr
            · cases hnr
            · exact ih hnr
  · rintro ⟨honline, rfl⟩
    exact ⟨[⟨.onlineRegex, true, fun _ => none⟩], by simp [handedOnline, honline]⟩

/-! ### The look-ups of a call info -/

section
variable (w : World) (m : Moment) (info : CallInfo)

/-- The number of the side is looked up, when the names of the call info are in the entry. -/
abbrev Pending (e : JournalEntry) (side : ResolveFor) : Prop :=
  e.address side = "" ∧ info.address side ≠ "" ∧ e.resolving side = false ∧ e.name side = "" ∧
    (formatted w m info side).2.1 ≠ ""

/-- The number of the side is looked up. -/
structure Wanted (e : JournalEntry) (side : ResolveFor) : Prop where
  address : e.address side = ""
  given : info.address side ≠ ""
  resolving : e.resolving side = false
  unnamed : e.name side = "" ∧ info.name side = ""
  number : (formatted w m info side).2.1 ≠ ""

theorem fillNames_address (e : JournalEntry) (side : ResolveFor) :
    (fillNames info e).address side = e.address side ∧
      (fillNames info e).resolving side = e.resolving side := by
  rw [fillNames]
  split <;> split <;> cases side <;> exact ⟨rfl, rfl⟩

/-- With the names of the call info. -/
theorem fillNames_pending (e : JournalEntry) (side : ResolveFor) :
    (Pending w m info (fillNames info e) side ↔ Wanted w m info e side) ∧
      lookUp w m info (fillNames info e) side = lookUp w m info e side := by
  have haddress := fillNames_address info e side
  have hchange := relabelled_fillNames info e
  have hname : (fillNames info e).name side = "" ↔ e.name side = "" ∧ info.name side = "" := by
    rw [fillNames_name]
    split <;> simp [*]
  refine ⟨?_, by simp only [lookUp, hchange.dbKey, hchange.self, hchange.type]⟩
  rw [Pending, haddress.1, haddress.2, hname]
  constructor
  · rintro ⟨ha, hg, hr, hn, hnr⟩
    exact ⟨ha, hg, hr, hn, hnr⟩
  · exact fun h => ⟨h.address, h.given, h.resolving, h.unnamed, h.number⟩

end

variable {w : World} {m : Moment} {s : App} {pid cid : Nat} {info : CallInfo} {e : JournalEntry}

theorem FillsIn.requests {side : ResolveFor} {q q' : Filling} (h : FillsIn w m info side q q') :
    q'.2 = q.2 ++ if Pending w m info q.1 side then [lookUp w m info q.1 side] else [] := by
  cases h with
  | nothing h => rw [if_neg fun hp => h ⟨hp.1, hp.2.1, hp.2.2.1⟩, List.append_nil]
  | kept _ hn => rw [if_neg fun hp => hn hp.2.2.2, List.append_nil]
  | asked h hn => rw [if_pos ⟨h.1, h.2.1, h.2.2, hn⟩]

/-- One side leaves the look-up of the other as it is. -/
theorem FillsIn.other {side other : ResolveFor} {q q' : Filling} (h : FillsIn w m info side q q')
    (hne : other ≠ side) :
    (Pending w m info q'.1 other ↔ Pending w m info q.1 other) ∧
      lookUp w m info q'.1 other = lookUp w m info q.1 other := by
  have hchange := h.asks.entry
  have hframe := h.frame hne
  constructor
  · rw [Pending, hframe.1, hframe.2, h.name]
  · simp only [lookUp, hchange.dbKey, hchange.self, hchange.type]

/-- **The look-ups of a call info.** -/
theorem mem_queued_info (he : s.activeCalls.find? (journalKey pid cid) = some e) {req : Request} :
    req ∈ s.queued w (.call m (.callInfo pid cid info)) ↔
      ∃ side, Wanted w m info e side ∧ req = lookUp w m info e side := by
  have hnames := fillNames_pending w m info e
  have hreq : (s.step w (.call m (.callInfo pid cid info))).requests = s.requests ++
      ((if Pending w m info (fillNames info e) .called then [lookUp w m info e .called] else []) ++
        if Pending w m info (fillNames info e) .caller then [lookUp w m info e .caller]
        else []) := by
    obtain ⟨q, hcalled, hcaller⟩ := fillIn_sides w m info e s.requests
    have hother := hcalled.other (show ResolveFor.caller ≠ .called from nofun)
    rw [step, handle, onCallInfoUpdate, he]
    show (fillIn w m info e s.requests).2 = _
    rw [hcaller.requests, hcalled.requests, List.append_assoc]
    simp only [hother.1, hother.2, (hnames _).2]
  rw [queued_eq hreq, List.mem_append]
  constructor
  · rintro (h | h)
    · split at h
      · next hp => exact ⟨.called, (hnames _).1.mp hp, List.mem_singleton.mp h⟩
      · cases h
    · split at h
      · next hp => exact ⟨.caller, (hnames _).1.mp hp, List.mem_singleton.mp h⟩
      · cases h
  · rintro ⟨side, hw, rfl⟩
    cases side with
    | called => exact .inl (by rw [if_pos ((hnames _).1.mpr hw)]; exact .head _)
    | caller => exact .inr (by rw [if_pos ((hnames _).1.mpr hw)]; exact .head _)

/-! ### What leaves the machine -/

/-- What is handed to online resolvers for a call event is the number of the remote side, and was
classified as a national one. -/
def Private (w : World) (m : Moment) (s : App) : CallEvent → Prop
  | .callInfo pid cid info => ∀ e, s.activeCalls.find? (journalKey pid cid) = some e →
      ∀ req ∈ s.queued w (.call m (.callInfo pid cid info)), ∀ resolvers,
        ∀ nr ∈ handedOnline req resolvers, nr = (formatted w m info req.userData).2.1 ∧
          req.userData.Remote e.type ∧
          ((formatted w m info req.userData).1 = .national ∨
            (formatted w m info req.userData).1 = .nationalResolvable)
  | ev => s.queued w (.call m ev) = []

/-- A look-up that may go online and should not: of a string that could not be parsed, or in a call
of which the remote side is not known. -/
def Leaky (w : World) (m : Moment) (info : CallInfo) (e : JournalEntry) (side : ResolveFor) :
    Prop :=
  e.type ≠ side.localIn ∧ (formatted w m info side).1 = .invalid ∨
    e.type = .unknown ∧ (formatted w m info side).1 ≠ .internal ∧
      (formatted w m info side).1 ≠ .international

/-- The events with no such look-up. -/
def Guarded (w : World) (m : Moment) (s : App) : CallEvent → Prop
  | .callInfo pid cid info => ∀ e, s.activeCalls.find? (journalKey pid cid) = some e →
      ∀ side, Wanted w m info e side → ¬ Leaky w m info e side
  | _ => True

/-- Only a call info asks for look-ups. -/
theorem queued_other {ev : CallEvent} (h : ∀ pid cid info, ev ≠ .callInfo pid cid info) :
    s.queued w (.call m ev) = [] := by
  refine queued_eq ?_
  rw [List.append_nil]
  cases ev with
  | newCall pid cid type status => rfl
  | callStatus pid cid status =>
      rw [step, handle, onCallStateUpdate]
      split
      · rfl
      · split <;> rfl
  | callInfo pid cid info => exact absurd rfl (h pid cid info)

/-- A side that is not the local one is the remote one, when the type of the call is known. -/
theorem remote_iff (side : ResolveFor) (type : EntryType) :
    side.Remote type ↔ type ≠ side.localIn ∧ type ≠ .unknown := by
  cases side <;> cases type <;> simp [ResolveFor.Remote, ResolveFor.localIn]

/-- What is handed out of a look-up is as it should be when the look-up is not leaky. -/
theorem lookUp_private (e : JournalEntry) (side : ResolveFor) :
    ((lookUp w m info e side).onlineResolvable = true → side.Remote e.type ∧
      ((formatted w m info side).1 = .national ∨
        (formatted w m info side).1 = .nationalResolvable)) ↔ ¬ Leaky w m info e side := by
  rw [remote_iff, lookUp, Leaky]
  generalize (formatted w m info side).1 = kind
  generalize e.type = type
  cases side <;> cases kind <;> cases type <;> simp [ResolveFor.localIn]

/-- **What an event hands out is private exactly when none of its look-ups is leaky.** -/
theorem private_iff (w : World) (m : Moment) (s : App) (ev : CallEvent) :
    Private w m s ev ↔ Guarded w m s ev := by
  cases ev with
  | newCall pid cid type status => exact iff_of_true (queued_other nofun) trivial
  | callStatus pid cid status => exact iff_of_true (queued_other nofun) trivial
  | callInfo pid cid info =>
      refine forall_congr' fun e => forall_congr' fun he => ?_
      constructor
      · intro h side hw
        rw [← lookUp_private]
        intro honline
        obtain ⟨resolvers, hnr⟩ := mem_handedOnline.mpr ⟨honline, rfl⟩
        exact (h _ ((mem_queued_info he).mpr ⟨side, hw, rfl⟩) resolvers _ hnr).2
      · rintro h req hreq resolvers nr hnr
        obtain ⟨side, hw, rfl⟩ := (mem_queued_info he).mp hreq
        obtain ⟨honline, rfl⟩ := mem_handedOnline.mp ⟨resolvers, hnr⟩
        exact ⟨rfl, lookUp_private e side |>.mpr (h side hw) honline⟩

/-- An incoming call, of which the number is not known yet. -/
def offered : App :=
  run (step .utc) (start .initial) [.call (.quiet 0) (.newCall 1 5 .incoming .offering)]

/-- A number with a country code that does not exist goes online. -/
theorem invalid_handed :
    offered.queued .utc (.call (.quiet 1) (.callInfo 1 5 ⟨"", "+999123456", "", ""⟩)) =
        [⟨1, .caller, "+999123456", "+999123456", true, 0⟩] ∧
      ¬ Private .utc (.quiet 1) offered (.callInfo 1 5 ⟨"", "+999123456", "", ""⟩) := by
  have hq : offered.queued .utc (.call (.quiet 1) (.callInfo 1 5 ⟨"", "+999123456", "", ""⟩)) =
      [⟨1, .caller, "+999123456", "+999123456", true, 0⟩] := by decide +kernel
  have hsome : (offered.activeCalls.find? (journalKey 1 5)).isSome = true := by decide +kernel
  obtain ⟨e, he⟩ := Option.isSome_iff_exists.mp hsome
  refine ⟨hq, fun h => ?_⟩
  have hkind := (h e he _ (hq ▸ List.mem_singleton_self _) [⟨.onlineRegex, true, fun _ => none⟩]
    "+999123456" (.head _)).2.2
  revert hkind
  decide +kernel

end App
end Cmon
