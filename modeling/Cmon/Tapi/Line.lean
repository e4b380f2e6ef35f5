import Cmon.Library.OrderedMap
import Cmon.Tapi.Call

/-!
# TAPI — lines

`CTafLine`: a line with the map of its calls, and what it makes of a message.

* `TafLine.Holds`: a reported call is in the map of the line.
* `TafLine.Acts`: the five things a message can do, as far as reported calls and the events for
  the observers go.
* `TafLine.Fits`: the messages that do none of the bad ones.
-/

namespace Cmon
open Library Library.Episodes

/-- `CTafLine`, and its index.  The calls are under their handles. -/
structure TafLine where
  idx : Nat
  isOpen : Bool
  mapCalls : OrderedMap Nat TafCall

namespace TafLine

/-- `CTafLine::CTafLine`. -/
def create (idx : Nat) : TafLine := ⟨idx, false, .empty⟩

/-- `CTafLine::close`, with `closeCalls`. -/
def close (line : TafLine) : TafLine :=
  if line.isOpen then { line with mapCalls := .empty, isOpen := false } else line

/-- `CTafLine::open`; `opened` is whether `lineOpen` succeeds. -/
def openLine (line : TafLine) (opened : Bool) : TafLine :=
  let line := if line.isOpen then line.close else line
  { line with isOpen := opened }

/-- `CTafLine::handleMessage`, the messages about a call. -/
def handleCallMessage (line : TafLine) (hDevice : Nat) (m : LineMessage) :
    TafLine × List TafEvent :=
  match line.mapCalls.find? hDevice with
  | none => (line, [])
  | some call =>
      let (call, events) := call.handleMessage m
      if call.state = .idle then
        ({ line with mapCalls := line.mapCalls.erase hDevice }, events ++ [.callDeleted call])
      else ({ line with mapCalls := line.mapCalls.modify hDevice fun _ => call }, events)

/-- `CTafLine::handleMessage`. -/
def handleMessage (line : TafLine) : LineMessage → TafLine × List TafEvent
  | .close => (line.close, [])
  | .appNewCall call info =>
      -- a call that is in the map already stays, and the new object is lost
      ({ line with mapCalls := line.mapCalls.insert call (.create call info) }, [])
  | .callInfo hDevice info => line.handleCallMessage hDevice (.callInfo hDevice info)
  | .callState hDevice state => line.handleCallMessage hDevice (.callState hDevice state)
  | .reply hDevice => line.handleCallMessage hDevice (.reply hDevice)
  | .other => (line, [])

/-! ### The calls of a line -/

/-- The reported call `h` is in the map of the line. -/
def Holds (line : TafLine) (h : Nat) : Prop :=
  ∃ call, line.mapCalls.find? h = some call ∧ call.reported = true

/-- Every call is under its own handle, and none is kept that is idle. -/
def WellFormed (line : TafLine) : Prop :=
  ∀ h call, line.mapCalls.find? h = some call → call.id = h ∧ call.state ≠ .idle

variable {line line' : TafLine} {m : LineMessage} {h : Nat} {call : TafCall}

theorem holds_iff (hf : line.mapCalls.find? h = some call) :
    line.Holds h ↔ call.reported = true := by
  constructor
  · rintro ⟨call', hf', hr⟩
    rwa [Option.some.inj (hf.symm.trans hf')]
  · exact fun hr => ⟨call, hf, hr⟩

theorem not_holds_of_none (hf : line.mapCalls.find? h = none) : ¬ line.Holds h := by
  rintro ⟨call, hf', -⟩
  rw [hf] at hf'
  cases hf'

theorem holds_congr (he : line'.mapCalls.find? h = line.mapCalls.find? h) :
    line'.Holds h ↔ line.Holds h := by
  rw [Holds, Holds, he]

theorem not_holds_create (idx : Nat) : ¬ (create idx).Holds h := not_holds_of_none rfl

theorem wellFormed_create (idx : Nat) : (create idx).WellFormed := by
  intro h call hf
  cases hf

/-! ### One message -/

/-- The messages that neither lose an announced call nor say anything of a call that was not
announced; `MayAnnounce` says which handles may be announced. -/
def Fits (line : TafLine) (MayAnnounce : Nat → Prop) : LineMessage → Prop
  | .close => line.isOpen = true → ∀ h, ¬ line.Holds h
  | .callState h state => ∀ call, line.mapCalls.find? h = some call → call.reported = false →
      state ≠ .idle ∧ (state.announces = true → MayAnnounce h)
  | _ => True

/-- What one message can do to the reported calls of a line, and the events it sends. -/
inductive Acts (line : TafLine) : LineMessage → TafLine → List TafEvent → Prop where
  /-- The line is closed, and its calls are gone. -/
  | closed {line' : TafLine} (hopen : line.isOpen = true) (hHolds : ∀ h, ¬ line'.Holds h) :
      Acts line .close line' []
  /-- Calls that are held are updated. -/
  | kept {m : LineMessage} {line' : TafLine} {events : List TafEvent}
      (hfits : ∀ MayAnnounce, line.Fits MayAnnounce m) (hHolds : ∀ h, line'.Holds h ↔ line.Holds h)
      (he : ∀ e ∈ events, line.Holds e.call.id ∧ e.mark = .updates) : Acts line m line' events
  /-- A call is announced. -/
  | announced {h : Nat} {state : LineCallState} {call : TafCall} {line' : TafLine} {e : TafEvent}
      (hf : line.mapCalls.find? h = some call) (hr : call.reported = false)
      (hs : state ≠ .idle) (ha : state.announces = true)
      (hHolds : ∀ j, line'.Holds j ↔ j = h ∨ line.Holds j) (he : e.call.id = h)
      (hmark : e.mark = .opens) : Acts line (.callState h state) line' [e]
  /-- A call that is held has ended. -/
  | ended {h : Nat} {line' : TafLine} {updates : List TafEvent} {e : TafEvent}
      (hh : line.Holds h) (hHolds : ∀ j, line'.Holds j ↔ j ≠ h ∧ line.Holds j)
      (hu : ∀ e ∈ updates, e.call.id = h ∧ e.mark = .updates) (he : e.call.id = h)
      (hmark : e.mark = .closes) : Acts line (.callState h .idle) line' (updates ++ [e])
  /-- A call has ended that was never announced. -/
  | stray {h : Nat} {call : TafCall} {line' : TafLine} {e : TafEvent}
      (hf : line.mapCalls.find? h = some call) (hr : call.reported = false)
      (hHolds : ∀ j, line'.Holds j ↔ line.Holds j) (he : e.call.id = h)
      (hmark : e.mark = .closes) : Acts line (.callState h .idle) line' [e]

/-- The map with the call `h` changed. -/
theorem holds_modify (hf : line.mapCalls.find? h = some call) (call' : TafCall) (j : Nat) :
    ({ line with mapCalls := line.mapCalls.modify h fun _ => call' } : TafLine).Holds j ↔
      if j = h then call'.reported = true else line.Holds j := by
  split
  · next e =>
    subst e
    exact holds_iff (by simp [hf])
  · next hne => exact holds_congr (OrderedMap.find?_modify_of_ne _ hne _)

/-- A call that is reported or not as before. -/
theorem holds_modify_same (hf : line.mapCalls.find? h = some call) {call' : TafCall}
    (hr : call'.reported = call.reported) (j : Nat) :
    ({ line with mapCalls := line.mapCalls.modify h fun _ => call' } : TafLine).Holds j ↔
      line.Holds j := by
  rw [holds_modify hf, hr]
  split
  · next e => rw [e, holds_iff hf]
  · exact Iff.rfl

/-- The map without the call `h`. -/
theorem holds_erase (j : Nat) :
    ({ line with mapCalls := line.mapCalls.erase h } : TafLine).Holds j ↔
      j ≠ h ∧ line.Holds j := by
  by_cases hj : j = h
  · subst hj
    exact iff_of_false (not_holds_of_none (OrderedMap.find?_erase_self _ _)) fun ⟨hne, _⟩ => hne rfl
  · rw [holds_congr (OrderedMap.find?_erase_of_ne _ hj)]
    exact ⟨fun hh => ⟨hj, hh⟩, And.right⟩

theorem handleCallMessage_none (hf : line.mapCalls.find? h = none) :
    line.handleCallMessage h m = (line, []) := by
  rw [handleCallMessage, hf]

theorem handleCallMessage_idle (hf : line.mapCalls.find? h = some call)
    (hs : (call.handleMessage m).1.state = .idle) : line.handleCallMessage h m =
      ({ line with mapCalls := line.mapCalls.erase h },
        (call.handleMessage m).2 ++ [.callDeleted (call.handleMessage m).1]) := by
  rw [handleCallMessage, hf]
  exact if_pos hs

theorem handleCallMessage_some (hf : line.mapCalls.find? h = some call)
    (hs : (call.handleMessage m).1.state ≠ .idle) : line.handleCallMessage h m =
      ({ line with mapCalls := line.mapCalls.modify h fun _ => (call.handleMessage m).1 },
        (call.handleMessage m).2) := by
  rw [handleCallMessage, hf]
  exact if_neg hs

/-- A call message that is no state. -/
theorem handleCallMessage_noState (hw : line.WellFormed) (hm : ∀ h st, m ≠ .callState h st)
    (hfits : ∀ MayAnnounce, line.Fits MayAnnounce m) (h : Nat) :
    line.Acts m (line.handleCallMessage h m).1 (line.handleCallMessage h m).2 := by
  cases hf : line.mapCalls.find? h with
  | none =>
      rw [handleCallMessage_none hf]
      exact .kept hfits (fun _ => Iff.rfl) fun _ he => absurd he List.not_mem_nil
  | some call =>
      obtain ⟨hstate, hr, hquiet⟩ := call.handleMessage_noState hm
      rw [handleCallMessage_some hf (hstate.trans_ne (hw h call hf).2)]
      refine .kept hfits (holds_modify_same hf hr) fun e he => ?_
      cases hrep : call.reported with
      | false =>
          rw [hquiet hrep] at he
          exact absurd he List.not_mem_nil
      | true =>
          obtain ⟨hid, hmark⟩ := (TafCall.handleMessage_of_reported hrep m).2 e he
          rw [hid, (hw h call hf).1]
          exact ⟨(holds_iff hf).mpr hrep, hmark⟩

/-- A call ends, and was announced or not. -/
theorem handleCallMessage_ended (hf : line.mapCalls.find? call.id = some call) :
    line.Acts (.callState call.id .idle)
      (line.handleCallMessage call.id (.callState call.id .idle)).1
      (line.handleCallMessage call.id (.callState call.id .idle)).2 := by
  have hmsg := call.handleMessage_callState .idle
  have hstate := call.switchState_state .idle
  have hid := call.switchState_id .idle
  rw [handleCallMessage_idle hf (hmsg ▸ hstate), hmsg]
  cases hr : call.reported with
  | true =>
      exact .ended ((holds_iff hf).mpr hr) holds_erase
        (TafCall.switchState_of_reported hr .idle).2 hid rfl
  | false =>
      rw [(TafCall.switchState_of_unreported hr rfl).2]
      refine .stray hf hr (fun j => ?_) hid rfl
      rw [holds_erase]
      refine ⟨And.right, fun hj => ⟨?_, hj⟩⟩
      rintro rfl
      rw [holds_iff hf, hr] at hj
      cases hj

/-- A call goes on. -/
theorem handleCallMessage_goesOn (hf : line.mapCalls.find? call.id = some call)
    {state : LineCallState} (hs : state ≠ .idle) :
    line.Acts (.callState call.id state)
      (line.handleCallMessage call.id (.callState call.id state)).1
      (line.handleCallMessage call.id (.callState call.id state)).2 := by
  have hmsg := call.handleMessage_callState state
  have hstate := call.switchState_state state
  rw [handleCallMessage_some hf (hmsg ▸ hstate.trans_ne hs), hmsg]
  cases hr : call.reported with
  | true =>
      obtain ⟨hr', he⟩ := TafCall.switchState_of_reported hr state
      refine .kept (fun _ call' hf' hr'' => ?_) (holds_modify_same hf (hr'.trans hr.symm))
        fun e hmem => ?_
      · rw [← Option.some.inj (hf.symm.trans hf'), hr] at hr''
        cases hr''
      · rw [(he e hmem).1]
        exact ⟨(holds_iff hf).mpr hr, (he e hmem).2⟩
  | false =>
      cases ha : state.announces with
      | true =>
          obtain ⟨hr', e, he, heid, hmark⟩ := TafCall.switchState_announced hr ha
          rw [he]
          refine .announced hf hr hs ha (fun j => ?_) heid hmark
          rw [holds_modify hf, hr']
          split
          · next e => exact iff_of_true rfl (.inl e)
          · next hne => exact ⟨.inr, fun h => h.resolve_left hne⟩
      | false =>
          obtain ⟨hr', he⟩ := TafCall.switchState_of_unreported hr ha
          rw [he]
          refine .kept (fun _ _ _ _ => ⟨hs, fun h => ?_⟩)
            (holds_modify_same hf (hr'.trans hr.symm)) fun _ he => absurd he List.not_mem_nil
          rw [ha] at h
          cases h

/-- A state of a call. -/
theorem handleCallMessage_callState (hw : line.WellFormed) (h : Nat) (state : LineCallState) :
    line.Acts (.callState h state) (line.handleCallMessage h (.callState h state)).1
      (line.handleCallMessage h (.callState h state)).2 := by
  cases hf : line.mapCalls.find? h with
  | none =>
      rw [handleCallMessage_none hf]
      refine .kept (fun _ call hf' => ?_) (fun _ => Iff.rfl) fun _ he => absurd he List.not_mem_nil
      rw [hf] at hf'
      cases hf'
  | some call =>
      obtain ⟨rfl, -⟩ := hw h call hf
      by_cases hs : state = .idle
      · subst hs
        exact handleCallMessage_ended hf
      · exact handleCallMessage_goesOn hf hs

/-- **A message does one of five things.** -/
theorem handleMessage_acts (hw : line.WellFormed) (m : LineMessage) :
    line.Acts m (line.handleMessage m).1 (line.handleMessage m).2 := by
  cases m with
  | close =>
      cases ho : line.isOpen with
      | true =>
          refine .closed ho fun h => ?_
          rw [handleMessage, close, if_pos ho]
          exact not_holds_of_none rfl
      | false =>
          refine .kept (fun _ h => ?_) (fun h => ?_) fun _ he => absurd he List.not_mem_nil
          · rw [ho] at h
            cases h
          · rw [handleMessage, close, if_neg (by simp [ho])]
  | appNewCall id info =>
      refine .kept (fun _ => trivial) (fun h => ?_) fun _ he => absurd he List.not_mem_nil
      by_cases hh : h = id
      · subst hh
        cases hf : line.mapCalls.find? h with
        | some call => exact holds_congr (by simp [handleMessage, hf])
        | none =>
            refine iff_of_false ?_ (not_holds_of_none hf)
            have hnew : ((line.handleMessage (.appNewCall h info)).1.mapCalls.find? h) =
                some (.create h info) := by simp [handleMessage, hf]
            rw [holds_iff hnew, TafCall.create_reported]
            exact Bool.false_ne_true
      · exact holds_congr (OrderedMap.find?_insert_of_ne _ hh _)
  | callInfo h info =>
      exact handleCallMessage_noState (m := .callInfo h info) hw (by simp) (fun _ => trivial) h
  | callState h state => exact handleCallMessage_callState hw h state
  | reply h =>
      exact handleCallMessage_noState (m := .reply h) hw (by simp) (fun _ => trivial) h
  | other =>
      exact .kept (fun _ => trivial) (fun _ => Iff.rfl) fun _ he => absurd he List.not_mem_nil

/-! ### Handles and states -/

theorem wellFormed_erase (hw : line.WellFormed) (h : Nat) :
    ({ line with mapCalls := line.mapCalls.erase h } : TafLine).WellFormed :=
  fun j call hj => hw j call (OrderedMap.of_find?_erase hj).2

theorem handleCallMessage_wellFormed (hw : line.WellFormed) (h : Nat) (m : LineMessage) :
    (line.handleCallMessage h m).1.WellFormed := by
  cases hf : line.mapCalls.find? h with
  | none => rwa [handleCallMessage_none hf]
  | some call =>
      by_cases hs : (call.handleMessage m).1.state = .idle
      · rw [handleCallMessage_idle hf hs]
        exact wellFormed_erase hw h
      · rw [handleCallMessage_some hf hs]
        intro j call' hj
        by_cases hjh : j = h
        · subst hjh
          have he : call' = (call.handleMessage m).1 := by simpa [hf] using hj.symm
          rw [he]
          exact ⟨(call.handleMessage_id m).trans (hw j call hf).1, hs⟩
        · exact hw j call' ((OrderedMap.find?_modify_of_ne _ hjh _).symm.trans hj)

theorem handleMessage_wellFormed (hw : line.WellFormed) (m : LineMessage) :
    (line.handleMessage m).1.WellFormed := by
  cases m with
  | close =>
      rw [handleMessage, close]
      split
      · exact wellFormed_create 0
      · exact hw
  | appNewCall id info =>
      intro h call hf
      rcases OrderedMap.of_find?_insert hf with ⟨rfl, rfl⟩ | hf
      · exact ⟨TafCall.create_id h info, by simp [TafCall.create_state]⟩
      · exact hw h call hf
  | callInfo h info => exact handleCallMessage_wellFormed hw h _
  | callState h state => exact handleCallMessage_wellFormed hw h _
  | reply h => exact handleCallMessage_wellFormed hw h _
  | other => exact hw

end TafLine

end Cmon
