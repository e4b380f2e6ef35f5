import Cmon.Plugin.CallMonitor
import Cmon.Library.Episodes

/-!
# TAPI — calls

`CTafCall`, with the events it sends while it handles a message, and what
`CTapiCallMonitor::OnTafEvent` tells its observers for each of them.

For the observers a `newCall` opens an episode of the call's handle, the status `idle` closes it,
and everything else is an update of it (`CallEvent.mark`).

* `onTafEvent_mark`: what the four events are for the observers.
* `TafCall.switchState_of_reported`, `switchState_announced` and `switchState_of_unreported`: what
  a state makes of a call, and which events it sends.
-/

namespace Cmon
open Library.Episodes

/-! ### The states of a call -/

/-- The values of `LINECALLSTATE_…`, and every other `DWORD`. -/
inductive LineCallState where
  | idle | offering | accepted | dialtone | dialing | ringback | busy | specialinfo
  | connected | proceeding | onhold | conferenced | onholdpendconf | onholdpendtransfer
  | disconnected
  | other (n : Nat)
  deriving DecidableEq, Repr

/-- `TTafCallType`. -/
inductive TafCallType where
  | unknown | incoming | outgoing
  deriving DecidableEq, Repr

/-- What `lineGetCallInfo` answers for a call; a text that is not given is `none`. -/
structure LineCallInfo where
  callerID : Option String
  callerIDName : Option String
  calledID : Option String
  calledIDName : Option String
  deriving DecidableEq, Repr

/-- `LINEMESSAGE`, as far as a line handles it.  The answer of `lineGetCallInfo` is with the
messages on which it is asked for; `none` is an error. -/
inductive LineMessage where
  | close
  | appNewCall (call : Nat) (info : Option LineCallInfo)
  | callInfo (hDevice : Nat) (info : Option LineCallInfo)
  | callState (hDevice : Nat) (state : LineCallState)
  | reply (hDevice : Nat)
  | other
  deriving DecidableEq, Repr

/-- `CTafCall`. -/
structure TafCall where
  id : Nat
  state : LineCallState
  type : TafCallType
  calledAddress : String
  calledName : String
  callerAddress : String
  callerName : String
  reported : Bool
  deriving DecidableEq, Repr

/-- The events of `ITafEventHandler` that are about a call, with the call as it is then. -/
inductive TafEvent where
  | newCall (call : TafCall)
  | callStateUpdate (call : TafCall)
  | callInfoUpdate (call : TafCall)
  | callDeleted (call : TafCall)
  deriving DecidableEq, Repr

namespace TafCall

/-- `CTafCall::queryInfo`.  The name of the called side is stored as its address. -/
def queryInfo (call : TafCall) : Option LineCallInfo → TafCall
  | none => call
  | some info =>
      let call := { call with callerAddress := info.callerID.getD call.callerAddress }
      let call := { call with callerName := info.callerIDName.getD call.callerName }
      let call := { call with calledAddress := info.calledID.getD call.calledAddress }
      { call with calledAddress := info.calledIDName.getD call.calledAddress }

/-- `CTafCall::CTafCall`. -/
def create (id : Nat) (info : Option LineCallInfo) : TafCall :=
  queryInfo ⟨id, .other 0, .unknown, "", "", "", "", false⟩ info

/-- `CTafCall::switchState`. -/
def switchState (call : TafCall) (toState : LineCallState) : TafCall × List TafEvent :=
  let call := { call with state := toState }
  match toState with
  | .offering =>
      -- incoming calls always start with OFFERING, so it is reported at once
      let call := { call with type := .incoming }
      if !call.reported then ({ call with reported := true }, [.newCall call]) else (call, [])
  | .dialtone => ({ call with type := .outgoing }, [])
  | .ringback | .busy | .connected =>
      if !call.reported then
        let call := { call with type := .outgoing }
        ({ call with reported := true }, [.newCall call])
      else (call, [.callStateUpdate call])
  | _ => (call, if call.reported then [.callStateUpdate call] else [])

/-- `CTafCall::handleMessage`. -/
def handleMessage (call : TafCall) : LineMessage → TafCall × List TafEvent
  | .callState hDevice state =>
      if hDevice = call.id then call.switchState state else (call, [])
  | .callInfo hDevice info =>
      if hDevice = call.id then
        let call := call.queryInfo info
        (call, if call.reported then [.callInfoUpdate call] else [])
      else (call, [])
  | _ => (call, [])

end TafCall

/-! ### What the observers are told -/

/-- `PLUGIN_ID` of the TAPI plug-in. -/
def tapiPluginId : Nat := 0x10000000 ||| 0x10

/-- `getCallStatus`. -/
def getCallStatus (call : TafCall) : CallStatus :=
  match call.state with
  | .offering => .offering
  | .accepted => .connected
  | .connected => .connected
  | .disconnected => .disconnected
  | .onhold => .onhold
  | .conferenced => .conferenced
  | .onholdpendconf => .conferenced
  | .onholdpendtransfer => .conferenced
  | .dialtone => .dialtone
  | .dialing => .dialing
  | .ringback => .ringback
  | .busy => .busy
  | .proceeding => .proceeding
  | _ => .unknown

/-- `CTapiCallMonitor::OnTafEvent`, for one observer. -/
def onTafEvent : TafEvent → CallEvent
  | .newCall call =>
      let type : CallType :=
        match call.type with
        | .incoming => .incoming
        | .outgoing => .outgoing
        | .unknown => .unknown
      .newCall tapiPluginId call.id type (getCallStatus call)
  | .callInfoUpdate call =>
      .callInfo tapiPluginId call.id
        { calledAddress := call.calledAddress
          callerAddress := call.callerAddress
          calledName := call.calledName
          callerName := call.callerName }
  | .callStateUpdate call => .callStatus tapiPluginId call.id (getCallStatus call)
  | .callDeleted call => .callStatus tapiPluginId call.id .idle

/-- The handle of the call. -/
def CallEvent.cid : CallEvent → Nat
  | .newCall _ cid _ _ | .callStatus _ cid _ | .callInfo _ cid _ => cid

/-- What the event does to the episode of its call. -/
def CallEvent.mark : CallEvent → Mark
  | .newCall .. => .opens
  | .callStatus _ _ status => if status = .idle then .closes else .updates
  | .callInfo .. => .updates

theorem getCallStatus_ne_idle (call : TafCall) : getCallStatus call ≠ .idle := by
  unfold getCallStatus
  split <;> decide

namespace TafEvent

/-- The call the event is about. -/
def call : TafEvent → TafCall
  | newCall call | callStateUpdate call | callInfoUpdate call | callDeleted call => call

/-- What the event is for the call. -/
def mark : TafEvent → Mark
  | newCall _ => .opens
  | callStateUpdate _ | callInfoUpdate _ => .updates
  | callDeleted _ => .closes

end TafEvent

@[simp] theorem onTafEvent_cid (e : TafEvent) : (onTafEvent e).cid = e.call.id := by
  cases e <;> rfl

/-- The observers can tell the end of a call from every other event. -/
@[simp] theorem onTafEvent_mark (e : TafEvent) : (onTafEvent e).mark = e.mark := by
  cases e with
  | newCall call => rfl
  | callStateUpdate call => exact if_neg (getCallStatus_ne_idle call)
  | callInfoUpdate call => rfl
  | callDeleted call => rfl

/-! ### What a message does to a call -/

/-- The states in which a call that is not reported yet is announced. -/
def LineCallState.announces : LineCallState → Bool
  | .offering | .ringback | .busy | .connected => true
  | _ => false

namespace TafCall
variable {call : TafCall}

@[simp] theorem queryInfo_id (info : Option LineCallInfo) : (call.queryInfo info).id = call.id := by
  cases info <;> rfl

@[simp] theorem queryInfo_state (info : Option LineCallInfo) :
    (call.queryInfo info).state = call.state := by
  cases info <;> rfl

@[simp] theorem queryInfo_reported (info : Option LineCallInfo) :
    (call.queryInfo info).reported = call.reported := by
  cases info <;> rfl

@[simp] theorem create_id (id : Nat) (info : Option LineCallInfo) : (create id info).id = id :=
  queryInfo_id info

@[simp] theorem create_reported (id : Nat) (info : Option LineCallInfo) :
    (create id info).reported = false :=
  queryInfo_reported info

theorem create_state (id : Nat) (info : Option LineCallInfo) : (create id info).state = .other 0 :=
  queryInfo_state info

theorem switchState_id (toState : LineCallState) : (call.switchState toState).1.id = call.id := by
  unfold switchState
  cases toState <;> dsimp only <;> (try split) <;> rfl

theorem switchState_state (toState : LineCallState) :
    (call.switchState toState).1.state = toState := by
  unfold switchState
  cases toState <;> dsimp only <;> (try split) <;> rfl

/-- A reported call stays reported, and is at most updated. -/
theorem switchState_of_reported (h : call.reported = true) (toState : LineCallState) :
    (call.switchState toState).1.reported = true ∧ ∀ e ∈ (call.switchState toState).2,
      e.call.id = call.id ∧ e.mark = .updates := by
  unfold switchState
  cases toState <;> simp [h, TafEvent.call, TafEvent.mark]

/-- A call is announced in one of four states, -/
theorem switchState_announced (h : call.reported = false) {toState : LineCallState}
    (ha : toState.announces = true) : (call.switchState toState).1.reported = true ∧
      ∃ e, (call.switchState toState).2 = [e] ∧ e.call.id = call.id ∧ e.mark = .opens := by
  revert ha
  cases toState <;>
    simp [LineCallState.announces, switchState, h, TafEvent.call, TafEvent.mark]

/-- and until then nothing is said about it. -/
theorem switchState_of_unreported (h : call.reported = false) {toState : LineCallState}
    (ha : toState.announces = false) : (call.switchState toState).1.reported = false ∧
      (call.switchState toState).2 = [] := by
  revert ha
  cases toState <;> simp [LineCallState.announces, switchState, h]

theorem handleMessage_id (m : LineMessage) : (call.handleMessage m).1.id = call.id := by
  unfold handleMessage
  split
  · split
    · exact switchState_id _
    · rfl
  · split
    · exact queryInfo_id _
    · rfl
  · rfl

/-- A reported call stays reported, and is at most updated. -/
theorem handleMessage_of_reported (h : call.reported = true) (m : LineMessage) :
    (call.handleMessage m).1.reported = true ∧ ∀ e ∈ (call.handleMessage m).2,
      e.call.id = call.id ∧ e.mark = .updates := by
  cases m with
  | callState hDevice state =>
      unfold handleMessage
      dsimp only
      split
      · exact switchState_of_reported h state
      · exact ⟨h, fun _ he => absurd he List.not_mem_nil⟩
  | callInfo hDevice info =>
      unfold handleMessage
      dsimp only
      split
      · simp [h, TafEvent.call, TafEvent.mark]
      · exact ⟨h, fun _ he => absurd he List.not_mem_nil⟩
  | close => exact ⟨h, fun _ he => absurd he List.not_mem_nil⟩
  | appNewCall id info => exact ⟨h, fun _ he => absurd he List.not_mem_nil⟩
  | reply hDevice => exact ⟨h, fun _ he => absurd he List.not_mem_nil⟩
  | other => exact ⟨h, fun _ he => absurd he List.not_mem_nil⟩

/-- A message that is no state leaves the state, and says nothing about a call that is not
reported. -/
theorem handleMessage_noState {m : LineMessage} (hm : ∀ h st, m ≠ .callState h st) :
    (call.handleMessage m).1.state = call.state ∧
      (call.handleMessage m).1.reported = call.reported ∧
        (call.reported = false → (call.handleMessage m).2 = []) := by
  cases m with
  | callState h st => exact absurd rfl (hm h st)
  | callInfo hDevice info =>
      unfold handleMessage
      dsimp only
      split
      · refine ⟨queryInfo_state info, queryInfo_reported info, fun h => ?_⟩
        simp [h]
      · exact ⟨rfl, rfl, fun _ => rfl⟩
  | close => exact ⟨rfl, rfl, fun _ => rfl⟩
  | appNewCall id info => exact ⟨rfl, rfl, fun _ => rfl⟩
  | reply hDevice => exact ⟨rfl, rfl, fun _ => rfl⟩
  | other => exact ⟨rfl, rfl, fun _ => rfl⟩

theorem handleMessage_callState (state : LineCallState) :
    call.handleMessage (.callState call.id state) = call.switchState state :=
  if_pos rfl

end TafCall

end Cmon
