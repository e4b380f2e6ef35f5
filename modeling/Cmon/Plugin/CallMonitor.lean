import Mathlib.Data.List.Basic

/-!
# Plug-in — the call monitor interface

What a call-monitor plug-in tells the application: a new call, a new status of a call, and
numbers and names of the two sides.  A call is named by the plug-in's id and the plug-in's own
id for the call, both `unsigned`.
-/

namespace Cmon

/-- `TCallType`. -/
inductive CallType where
  | unknown | incoming | outgoing
  deriving DecidableEq, Repr

/-- `TCallStatus`. -/
inductive CallStatus where
  | unknown
  | offering
  | waitDialtone | dialtone | dialing | proceeding | ringback | busy
  | connected | disconnected | idle
  | onhold | conferenced
  deriving DecidableEq, Repr

/-- `TCallInfo`. -/
structure CallInfo where
  calledAddress : String
  callerAddress : String
  calledName : String
  callerName : String
  deriving DecidableEq, Repr

/-- A call of `ICallObserver`. -/
inductive CallEvent where
  | newCall (pid cid : Nat) (type : CallType) (status : CallStatus)
  | callStatus (pid cid : Nat) (status : CallStatus)
  | callInfo (pid cid : Nat) (info : CallInfo)
  deriving DecidableEq, Repr

end Cmon
