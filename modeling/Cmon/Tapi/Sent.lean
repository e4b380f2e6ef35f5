import Cmon.Tapi.Manager

/-!
# TAPI — what is sent of a call

The numbers and names of a call are sent with the message that brings them, when the call is
reported by then.  What came earlier, with the new call or before it was announced, is sent with
the next such message only.

* `TafLine.Sends`: the three things a message can do, as far as numbers and names go.
* `TafManager.Sent`: what was last sent of a reported call is what is known of it.
* `TafManager.Informs`: the messages that keep it, and `TafManager.sent_iff`, that they are all.
-/

namespace Cmon
open Library

/-! ### What is known and what was sent -/

/-- The numbers and names of a call, as they are sent. -/
def TafCall.info (call : TafCall) : CallInfo where
  calledAddress := call.calledAddress
  callerAddress := call.callerAddress
  calledName := call.calledName
  callerName := call.callerName

/-- Nothing is known. -/
def CallInfo.nothing : CallInfo := ⟨"", "", "", ""⟩

/-- What was last sent of the call `h`, after the event; a call begins with nothing. -/
def CallEvent.sends (h : Nat) (sent : CallInfo) : CallEvent → CallInfo
  | .newCall _ cid _ _ => if cid = h then .nothing else sent
  | .callInfo _ cid info => if cid = h then info else sent
  | .callStatus .. => sent

/-- What was last sent of the call `h`, since it was announced last. -/
def lastSent (h : Nat) (told : List CallEvent) : CallInfo :=
  told.foldl (fun sent e => e.sends h sent) .nothing

theorem lastSent_append (h : Nat) (told es : List CallEvent) :
    lastSent h (told ++ es) = es.foldl (fun sent e => e.sends h sent) (lastSent h told) :=
  List.foldl_append

/-- Events that send nothing. -/
theorem lastSent_quiet {told : List CallEvent} {events : List TafEvent} {h : Nat}
    (he : ∀ e ∈ events, ∀ sent, (onTafEvent e).sends h sent = sent) :
    lastSent h (told ++ events.map onTafEvent) = lastSent h told := by
  rw [lastSent_append]
  generalize lastSent h told = sent
  induction events with
  | nil => rfl
  | cons e events ih =>
      rw [List.map_cons, List.foldl_cons, he e (.head _)]
      exact ih fun e' he' => he e' (.tail _ he')

/-- One event. -/
theorem lastSent_single (h : Nat) (told : List CallEvent) (e : TafEvent) :
    lastSent h (told ++ [e].map onTafEvent) = (onTafEvent e).sends h (lastSent h told) :=
  lastSent_append h told _

namespace TafCall
variable {call : TafCall}

@[simp] theorem switchState_info (toState : LineCallState) :
    (call.switchState toState).1.info = call.info := by
  unfold switchState
  cases toState <;> dsimp only <;> (try split) <;> rfl

/-- The states of a reported call are all that is sent of it. -/
theorem switchState_sends (hr : call.reported = true) (toState : LineCallState) :
    ∀ e ∈ (call.switchState toState).2, ∀ h sent, (onTafEvent e).sends h sent = sent := by
  unfold switchState
  cases toState <;> simp [hr, onTafEvent, CallEvent.sends]

/-- The event that announces a call. -/
theorem switchState_sends_nothing (hr : call.reported = false) {toState : LineCallState}
    (ha : toState.announces = true) : ∃ e, (call.switchState toState).2 = [e] ∧
      ∀ h sent, (onTafEvent e).sends h sent = if call.id = h then .nothing else sent := by
  revert ha
  cases toState <;>
    simp [LineCallState.announces, switchState, hr, onTafEvent, CallEvent.sends]

end TafCall

/-! ### One line -/

namespace TafLine
variable {line line' : TafLine} {m : LineMessage} {h : Nat} {call call' : TafCall}

/-- The line has the reported call under the handle. -/
def Reports (line : TafLine) (h : Nat) (call : TafCall) : Prop :=
  line.mapCalls.find? h = some call ∧ call.reported = true

/-- The messages after which what was sent is what is known; `Others` is whether the other lines
know the same of a call. -/
def Informs (line : TafLine) (Others : Nat → CallInfo → Prop) : LineMessage → Prop
  | .callState h state => ∀ call, line.mapCalls.find? h = some call → call.reported = false →
      state.announces = true → call.info = .nothing ∧ Others h .nothing
  | .callInfo h info => ∀ call, line.Reports h call → Others h (call.queryInfo info).info
  | _ => True

/-- What one message can do to the reported calls of a line, and what it sends. -/
inductive Sends (line : TafLine) : LineMessage → TafLine → List TafEvent → Prop where
  /-- Nothing is sent, and nothing new is known. -/
  | quiet {m : LineMessage} {line' : TafLine} {events : List TafEvent}
      (hinforms : ∀ Others, line.Informs Others m)
      (hr : ∀ j call', line'.Reports j call' → ∃ call, line.Reports j call ∧ call'.info = call.info)
      (he : ∀ e ∈ events, ∀ j sent, (onTafEvent e).sends j sent = sent) :
      Sends line m line' events
  /-- A call is announced, and what is known of it is not sent. -/
  | announced {h : Nat} {state : LineCallState} {call call' : TafCall} {line' : TafLine}
      {e : TafEvent} (hf : line.mapCalls.find? h = some call) (hu : call.reported = false)
      (ha : state.announces = true) (hi : call'.info = call.info)
      (hr : ∀ j c, line'.Reports j c ↔ if j = h then c = call' else line.Reports j c)
      (he : ∀ j sent, (onTafEvent e).sends j sent = if h = j then .nothing else sent) :
      Sends line (.callState h state) line' [e]
  /-- What is known of a reported call is sent. -/
  | informed {h : Nat} {info : Option LineCallInfo} {call : TafCall} {line' : TafLine}
      {e : TafEvent} (hc : line.Reports h call)
      (hr : ∀ j c, line'.Reports j c ↔ if j = h then c = call.queryInfo info else line.Reports j c)
      (he : ∀ j sent, (onTafEvent e).sends j sent =
        if h = j then (call.queryInfo info).info else sent) :
      Sends line (.callInfo h info) line' [e]

/-- The map with the call `h` changed. -/
theorem reports_modify (hf : line.mapCalls.find? h = some call) (j : Nat) (c : TafCall) :
    ({ line with mapCalls := line.mapCalls.modify h fun _ => call' } : TafLine).Reports j c ↔
      if j = h then c = call' ∧ call'.reported = true else line.Reports j c := by
  split
  · next hj =>
    subst hj
    simp only [Reports, OrderedMap.find?_modify_self, hf, Option.map_some, Option.some.injEq]
    constructor
    · rintro ⟨rfl, hr⟩
      exact ⟨rfl, hr⟩
    · rintro ⟨rfl, hr⟩
      exact ⟨rfl, hr⟩
  · next hj => rw [Reports, OrderedMap.find?_modify_of_ne _ hj, Reports]

/-- A call of which as much is known, and that is reported or not, as before. -/
theorem reports_modify_same (hf : line.mapCalls.find? h = some call)
    (hrep : call'.reported = call.reported) (hi : call'.info = call.info) {j : Nat} {c : TafCall}
    (hc : ({ line with mapCalls := line.mapCalls.modify h fun _ => call' } : TafLine).Reports j c) :
    ∃ c', line.Reports j c' ∧ c.info = c'.info := by
  rw [reports_modify hf] at hc
  split at hc
  · next hj =>
    obtain ⟨rfl, hr⟩ := hc
    exact ⟨call, ⟨hj ▸ hf, hrep ▸ hr⟩, hi⟩
  · exact ⟨c, hc, rfl⟩

/-- A call that is not reported says nothing of what is known. -/
theorem reports_modify_unreported (hf : line.mapCalls.find? h = some call)
    (hrep : call'.reported = false) {j : Nat} {c : TafCall}
    (hc : ({ line with mapCalls := line.mapCalls.modify h fun _ => call' } : TafLine).Reports j c) :
    ∃ c', line.Reports j c' ∧ c.info = c'.info := by
  rw [reports_modify hf] at hc
  split at hc
  · rw [hrep] at hc
    exact absurd hc.2 Bool.false_ne_true
  · exact ⟨c, hc, rfl⟩

theorem not_mem_nil_sends : ∀ e ∈ ([] : List TafEvent), ∀ j sent,
    (onTafEvent e).sends j sent = sent :=
  fun _ he => absurd he List.not_mem_nil

/-- The line is as it was, and says nothing. -/
theorem Sends.same (hinforms : ∀ Others, line.Informs Others m) : line.Sends m line [] :=
  .quiet hinforms (fun _ c hc => ⟨c, hc, rfl⟩) not_mem_nil_sends

/-- What is known of a call comes in. -/
theorem sends_callInfo (hw : line.WellFormed) (h : Nat) (info : Option LineCallInfo) :
    line.Sends (.callInfo h info) (line.handleCallMessage h (.callInfo h info)).1
      (line.handleCallMessage h (.callInfo h info)).2 := by
  cases hf : line.mapCalls.find? h with
  | none =>
      rw [handleCallMessage_none hf]
      refine .same fun _ call hc => ?_
      rw [Reports, hf] at hc
      cases hc.1
  | some call =>
      obtain ⟨rfl, hidle⟩ := hw h call hf
      have hmsg : call.handleMessage (.callInfo call.id info) = (call.queryInfo info,
          if call.reported then [.callInfoUpdate (call.queryInfo info)] else []) := by
        simp [TafCall.handleMessage]
      rw [handleCallMessage_some hf (by simpa [hmsg] using hidle), hmsg]
      cases hr : call.reported with
      | true =>
          refine .informed ⟨hf, hr⟩ (fun j c => ?_) fun j sent => ?_
          · simp [reports_modify hf, hr]
          · simp [onTafEvent, CallEvent.sends, TafCall.info]
      | false =>
          refine .quiet (fun _ call' hc => ?_)
            (fun j c => reports_modify_unreported hf (by simp [hr])) not_mem_nil_sends
          have hr' := hc.2
          rw [← Option.some.inj (hf.symm.trans hc.1), hr] at hr'
          cases hr'

/-- A call comes to a state. -/
theorem sends_callState (hw : line.WellFormed) (h : Nat) (state : LineCallState) :
    line.Sends (.callState h state) (line.handleCallMessage h (.callState h state)).1
      (line.handleCallMessage h (.callState h state)).2 := by
  cases hf : line.mapCalls.find? h with
  | none =>
      rw [handleCallMessage_none hf]
      refine .same fun _ call hc => ?_
      rw [hf] at hc
      cases hc
  | some call =>
      obtain ⟨rfl, -⟩ := hw h call hf
      have hmsg := call.handleMessage_callState state
      have hstate := call.switchState_state state
      -- a call that announces nothing
      have hquiet : call.reported = true ∨ state.announces = false →
          ∀ Others, line.Informs Others (.callState call.id state) := by
        intro hor Others call' hf' hu ha
        rw [← Option.some.inj (hf.symm.trans hf')] at hu
        simp [hu, ha] at hor
      by_cases hs : state = .idle
      · subst hs
        rw [handleCallMessage_idle hf (hmsg ▸ hstate), hmsg]
        refine .quiet (hquiet (.inr rfl)) (fun j c hc => ?_) fun e he => ?_
        · exact ⟨c, ⟨(OrderedMap.of_find?_erase hc.1).2, hc.2⟩, rfl⟩
        · rcases List.mem_append.mp he with he | he
          · cases hr : call.reported with
            | true => exact TafCall.switchState_sends hr .idle e he
            | false =>
                rw [(TafCall.switchState_of_unreported hr rfl).2] at he
                cases he
          · obtain rfl := List.mem_singleton.mp he
            exact fun _ _ => rfl
      · rw [handleCallMessage_some hf (hmsg ▸ hstate.trans_ne hs), hmsg]
        cases hr : call.reported with
        | true =>
            have hr' := (TafCall.switchState_of_reported hr state).1
            exact .quiet (hquiet (.inl hr))
              (fun j c => reports_modify_same hf (hr'.trans hr.symm) (call.switchState_info state))
              (TafCall.switchState_sends hr state)
        | false =>
            cases ha : state.announces with
            | true =>
                obtain ⟨hr', -⟩ := TafCall.switchState_announced hr ha
                obtain ⟨e, he, hsends⟩ := TafCall.switchState_sends_nothing hr ha
                rw [he]
                refine .announced hf hr ha (call.switchState_info state) (fun j c => ?_) hsends
                simp [reports_modify hf, hr']
            | false =>
                obtain ⟨hr', he⟩ := TafCall.switchState_of_unreported hr ha
                rw [he]
                exact .quiet (hquiet (.inr ha))
                  (fun j c => reports_modify_unreported hf hr') not_mem_nil_sends

/-- **A message does one of three things.** -/
theorem handleMessage_sends (hw : line.WellFormed) (m : LineMessage) :
    line.Sends m (line.handleMessage m).1 (line.handleMessage m).2 := by
  cases m with
  | close =>
      refine .quiet (fun _ => trivial) (fun j c hc => ?_) not_mem_nil_sends
      rw [handleMessage, close] at hc
      split at hc
      · cases hc.1
      · exact ⟨c, hc, rfl⟩
  | appNewCall id info =>
      refine .quiet (fun _ => trivial) (fun j c hc => ?_) not_mem_nil_sends
      rcases OrderedMap.of_find?_insert hc.1 with ⟨-, rfl⟩ | hf
      · exact absurd hc.2 (by simp)
      · exact ⟨c, ⟨hf, hc.2⟩, rfl⟩
  | callInfo h info => exact sends_callInfo hw h info
  | callState h state => exact sends_callState hw h state
  | reply h =>
      rw [handleMessage]
      cases hf : line.mapCalls.find? h with
      | none =>
          rw [handleCallMessage_none hf]
          exact .same fun _ => trivial
      | some call =>
          rw [handleCallMessage_some (m := .reply h) hf (hw h call hf).2]
          exact .quiet (fun _ => trivial) (fun j c => reports_modify_same hf rfl rfl)
            not_mem_nil_sends
  | other => exact .same fun _ => trivial

end TafLine

/-! ### The manager -/

namespace TafManager
variable {s s' : TafManager} {a : Nat} {line line' : TafLine} {m : LineMessage}

/-- What was last sent of a reported call is what is known of it. -/
def Sent (s : TafManager) : Prop :=
  ∀ a line h call, s.heap.find? a = some line → line.Reports h call →
    lastSent h s.told = call.info

/-- The calls of the handle `h` in the lines but `a`, of which as much is known. -/
def Others (s : TafManager) (a h : Nat) (info : CallInfo) : Prop :=
  ∀ a' line call, a' ≠ a → s.heap.find? a' = some line → line.Reports h call → call.info = info

/-- The steps after which what was sent is what is known: a call is announced of which nothing is
known, and the lines that have a call of one handle know the same of it. -/
def Informs (s : TafManager) : TapiEvent → Prop
  | .message address m => s.tapiOk = true → ∀ line, s.heap.find? address = some line →
      line.Informs (s.Others address) m
  | _ => True

/-- Every call is under its handle, and what is known of those that are reported was sent. -/
def Informed (s : TafManager) : Prop :=
  (∀ a line, s.heap.find? a = some line → line.WellFormed) ∧ s.Sent

/-- What was sent, after a message for the line at `a`. -/
theorem sent_handled {events : List TafEvent} (hf : s.heap.find? a = some line) :
    (s.handled a line' events).Sent ↔
      (∀ h call, line'.Reports h call →
        lastSent h (s.told ++ events.map onTafEvent) = call.info) ∧
      ∀ h, s.Others a h (lastSent h (s.told ++ events.map onTafEvent)) := by
  constructor
  · intro hs
    refine ⟨fun h call hc => hs a line' h call (heap_handled_self hf) hc, ?_⟩
    intro h a' line₀ call hne hf' hc
    exact (hs a' line₀ h call ((heap_handled_of_ne hne).trans hf') hc).symm
  · rintro ⟨hline, hothers⟩ a' line₀ h call hf' hc
    by_cases ha : a' = a
    · subst ha
      obtain rfl := Option.some.inj ((heap_handled_self hf).symm.trans hf')
      exact hline h call hc
    · rw [heap_handled_of_ne ha] at hf'
      exact (hothers h a' line₀ call ha hf' hc).symm

/-- The lines but one, when what was sent was what is known. -/
theorem Sent.others (hs : s.Sent) (a h : Nat) : s.Others a h (lastSent h s.told) :=
  fun a' line call _ hf hc => (hs a' line h call hf hc).symm

/-- One call `h` is changed, and `info` is last sent of it. -/
theorem sent_single (hs : s.Sent) (hf : s.heap.find? a = some line) {e : TafEvent} {h : Nat}
    {call' : TafCall} {info : CallInfo}
    (hr : ∀ j c, line'.Reports j c ↔ if j = h then c = call' else line.Reports j c)
    (he : ∀ j sent, (onTafEvent e).sends j sent = if h = j then info else sent) :
    (s.handled a line' [e]).Sent ↔ call'.info = info ∧ s.Others a h info := by
  have hsent : ∀ j, lastSent j (s.told ++ [e].map onTafEvent) =
      if h = j then info else lastSent j s.told :=
    fun j => (lastSent_single j s.told e).trans (he j _)
  rw [sent_handled hf]
  simp only [hsent, hr]
  constructor
  · rintro ⟨hline, hothers⟩
    have hh := hothers h
    rw [if_pos rfl] at hh
    exact ⟨((if_pos rfl).symm.trans (hline h call' (by simp))).symm, hh⟩
  · rintro ⟨hi, hh⟩
    refine ⟨fun j c hc => ?_, fun j => ?_⟩
    · by_cases hj : j = h
      · subst hj
        rw [if_pos rfl] at hc ⊢
        rw [hc, hi]
      · rw [if_neg hj] at hc
        rw [if_neg (Ne.symm hj)]
        exact hs a line j c hf hc
    · split
      · next hj => rwa [← hj]
      · exact hs.others a j

/-- **A message keeps what was sent right exactly when it is one of those.** -/
theorem sent_message (hs : s.Sent) (hf : s.heap.find? a = some line) {events : List TafEvent}
    (hsends : line.Sends m line' events) :
    (s.handled a line' events).Sent ↔ line.Informs (s.Others a) m := by
  cases hsends with
  | quiet hinforms hr he =>
      refine iff_of_true ((sent_handled hf).mpr ⟨fun h call hc => ?_, fun h => ?_⟩) (hinforms _)
      · obtain ⟨c, hc, hi⟩ := hr h call hc
        rw [lastSent_quiet fun e hmem => he e hmem h, hi]
        exact hs a line h c hf hc
      · rw [lastSent_quiet fun e hmem => he e hmem h]
        exact hs.others a h
  | announced hfind hu ha hi hr he =>
      rw [sent_single hs hf hr he, hi]
      constructor
      · intro hnew call' hf' _ _
        rwa [← Option.some.inj (hfind.symm.trans hf')]
      · exact fun hnew => hnew _ hfind hu ha
  | informed hc hr he =>
      rw [sent_single hs hf hr he]
      constructor
      · intro hnew call' hc'
        rw [← Option.some.inj (hc.1.symm.trans hc'.1)]
        exact hnew.2
      · exact fun hnew => ⟨rfl, hnew _ hc⟩

/-! ### Lines that come and go -/

/-- Nothing is told, and a line that was not there has no call. -/
def Grows (s s' : TafManager) : Prop :=
  s'.told = s.told ∧ ∀ a line, s'.heap.find? a = some line →
    s.heap.find? a = some line ∨ line.mapCalls = .empty

theorem Grows.refl (s : TafManager) : s.Grows s := ⟨rfl, fun _ _ => .inl⟩

theorem Grows.trans {s'' : TafManager} (h : s.Grows s') (h' : s'.Grows s'') : s.Grows s'' :=
  ⟨h'.1.trans h.1, fun a line hf => (h'.2 a line hf).elim (h.2 a line) .inr⟩

theorem grows_addLine (s : TafManager) (idx : Nat) (device : TafDevice) :
    s.Grows (s.addLine idx device) := by
  rw [addLine]
  dsimp only
  split
  · refine ⟨rfl, fun a line hf => ?_⟩
    rcases OrderedMap.of_find?_insert hf with ⟨-, rfl⟩ | hf
    · right
      split <;> rfl
    · exact .inl hf
  · exact .refl s

theorem grows_initTapi (s : TafManager) (devices : List TafDevice) :
    s.Grows (s.initTapi devices) := by
  rw [initTapi]
  have hok : s.Grows { s with tapiOk := true } := .refl s
  generalize ({ s with tapiOk := true } : TafManager) = s' at hok
  induction devices.zipIdx generalizing s' with
  | nil => exact hok
  | cons d ds ih => exact ih (s'.addLine d.2 d.1) (hok.trans (grows_addLine s' d.2 d.1))

theorem grows_removeLine (s : TafManager) (idx : Nat) : s.Grows (s.removeLine idx) := by
  rw [removeLine]
  split
  · exact .refl s
  · exact ⟨rfl, fun _ _ hf => .inl (OrderedMap.of_find?_erase hf).2⟩

theorem grows_shutdownTapi (s : TafManager) : s.Grows s.shutdownTapi := by
  rw [shutdownTapi]
  split
  · exact ⟨rfl, fun _ _ hf => .inl (find?_erases.mp hf).2⟩
  · exact .refl s

/-- A line with no calls reports none. -/
theorem not_reports_of_empty (he : line.mapCalls = .empty) {h : Nat} {call : TafCall} :
    ¬ line.Reports h call := by
  rintro ⟨hf, -⟩
  rw [he] at hf
  cases hf

theorem Informed.grows (hs : s.Informed) (h : s.Grows s') : s'.Informed := by
  constructor
  · intro a line hf
    rcases h.2 a line hf with hf | he
    · exact hs.1 a line hf
    · intro h call hc
      rw [he] at hc
      cases hc
  · intro a line j call hf hc
    rw [h.1]
    rcases h.2 a line hf with hf | he
    · exact hs.2 a line j call hf hc
    · exact absurd hc (not_reports_of_empty he)

/-! ### Every run -/

/-- A message leaves the calls of every line under their handles. -/
theorem wellFormed_handled (hw : ∀ a line, s.heap.find? a = some line → line.WellFormed)
    (hf : s.heap.find? a = some line) (hw' : line'.WellFormed) (events : List TafEvent) :
    ∀ a' line₀, (s.handled a line' events).heap.find? a' = some line₀ → line₀.WellFormed := by
  intro a' line₀ hf'
  by_cases ha : a' = a
  · subst ha
    rwa [← Option.some.inj ((heap_handled_self hf).symm.trans hf')]
  · exact hw a' line₀ ((heap_handled_of_ne ha).symm.trans hf')

/-- Every step is a message, or tells nothing. -/
theorem message_or_grows (s : TafManager) (ev : TapiEvent) :
    (∃ address m, ev = .message address m) ∨ s.Grows (s.step ev) ∧ s.Informs ev := by
  cases ev with
  | init devices =>
      refine .inr ⟨?_, trivial⟩
      rw [step]
      split
      · exact .refl s
      · exact grows_initTapi s devices
  | create idx device =>
      refine .inr ⟨?_, trivial⟩
      rw [step]
      split
      · exact grows_addLine s idx device
      · exact .refl s
  | remove idx =>
      refine .inr ⟨?_, trivial⟩
      rw [step]
      split
      · exact grows_removeLine s idx
      · exact .refl s
  | message address m => exact .inl ⟨address, m, rfl⟩
  | shutdown => exact .inr ⟨grows_shutdownTapi s, trivial⟩

/-- A step keeps what was sent right exactly when it is one of those. -/
theorem Informed.sent_step (hs : s.Informed) (ev : TapiEvent) :
    (s.step ev).Sent ↔ s.Informs ev := by
  rcases s.message_or_grows ev with ⟨address, m, rfl⟩ | ⟨hgrows, hev⟩
  · rw [step, Informs]
    cases hok : s.tapiOk with
    | false => simpa using hs.2
    | true =>
        cases hf : s.heap.find? address with
        | none => simpa [lineMessage_none hf] using hs.2
        | some line =>
            have hline := sent_message hs.2 hf (TafLine.handleMessage_sends (hs.1 _ _ hf) m)
            simpa [lineMessage_some hf] using hline
  · exact iff_of_true (hs.grows hgrows).2 hev

theorem Informed.step (hs : s.Informed) {ev : TapiEvent} (hev : s.Informs ev) :
    (s.step ev).Informed := by
  refine ⟨?_, (hs.sent_step ev).mpr hev⟩
  rcases s.message_or_grows ev with ⟨address, m, rfl⟩ | ⟨hgrows, -⟩
  · rw [TafManager.step]
    split
    · cases hf : s.heap.find? address with
      | none =>
          rw [lineMessage_none hf]
          exact hs.1
      | some line =>
          rw [lineMessage_some hf]
          exact wellFormed_handled hs.1 hf (TafLine.handleMessage_wellFormed (hs.1 _ _ hf) m) _
    · exact hs.1
  · exact (hs.grows hgrows).1

theorem informed_create : create.Informed := ⟨nofun, nofun⟩

/-- **What was last sent of every reported call is what is known of it, in every state of a run,
exactly when every step is one of those.** -/
theorem sent_iff (evs : List TapiEvent) :
    (∀ pre post, evs = pre ++ post → (run step create pre).Sent) ↔
      Along step Informs create evs := by
  rw [← along_after_iff informed_create.2]
  exact along_congr (fun _ _ hs hev => hs.step hev) (fun _ ev hs => hs.sent_step ev)
    informed_create

/-- A call comes with the number of its caller, and is announced without. -/
theorem number_not_sent : ¬ (run step create
    [.init [⟨true, 7, true, true⟩],
      .message 0 (.appNewCall 5 (some ⟨some "030123", none, none, none⟩)),
      .message 0 (.callState 5 .offering)]).Sent := by
  intro hsent
  have hinfo := hsent 0 _ 5
    { (TafCall.create 5 (some ⟨some "030123", none, none, none⟩)) with
      state := .offering, type := .incoming, reported := true } rfl ⟨rfl, rfl⟩
  revert hinfo
  decide +kernel

end TafManager

end Cmon
