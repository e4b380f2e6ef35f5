import Mathlib.Algebra.Group.Int.Defs
import Cmon.Plugin.CallMonitor
import Cmon.Shared.Platform

/-!
# Fritz — the lines of the box

`CFritzCallMonitor::handleFritzMessage` and the four functions it calls, as the calls of the
observer that a line leads to.  The lines are
`date;CALL;id;extension;caller;called;…`, `date;RING;id;caller;called;…`,
`date;CONNECT;id;extension;number;` and `date;DISCONNECT;id;duration;`.

The duration a `DISCONNECT` line reports goes to the log and nowhere else:
`handleFritzMessage_not_disconnected` says that no line leads to the status `disconnected`.
-/

namespace Cmon

/-- `PLUGIN_ID` of the Fritz!Box plug-in: call provider `0x20`. -/
def fritzPluginId : Nat := 0x10000000 ||| 0x20

/-- The tokens of a line: none of an empty line, else what stands between the separators. -/
def tokens (msg : String) : List String :=
  if msg = "" then [] else (msg.toList.splitOn ';').map String.ofList

/-- The digits `atoi` reads, and their value. -/
def atoiDigits (n : Int) : List Char → Int
  | [] => n
  | c :: cs => if '0' ≤ c ∧ c ≤ '9' then atoiDigits (10 * n + (c.toNat - '0'.toNat)) cs else n

/-- The number `atoi` finds in a text. -/
def atoiNumber (s : String) : Int :=
  match s.toList.dropWhile (fun c => c = ' ' ∨ '\t' ≤ c ∧ c ≤ '\r') with
  | '-' :: cs => -atoiDigits 0 cs
  | '+' :: cs => atoiDigits 0 cs
  | cs => atoiDigits 0 cs

/-- `atoi`, which C leaves open for a number that no `int` holds. -/
def atoi (p : Platform) (s : String) : Int :=
  if InInt (atoiNumber s) then atoiNumber s else p.atoiOutside s

/-- An `int` passed as `unsigned`. -/
def unsigned (n : Int) : Nat := (n % 2 ^ 32).toNat

def onNewInCall (cid : Int) (strCaller strCalled : String) : List CallEvent :=
  [.newCall fritzPluginId (unsigned cid) .incoming .offering,
    .callInfo fritzPluginId (unsigned cid) ⟨strCalled, strCaller, "", ""⟩]

def onNewOutCall (cid : Int) (strCaller strCalled : String) : List CallEvent :=
  [.newCall fritzPluginId (unsigned cid) .outgoing .dialing,
    .callInfo fritzPluginId (unsigned cid) ⟨strCalled, strCaller, "", ""⟩]

def onConnect (cid : Int) : List CallEvent :=
  [.callStatus fritzPluginId (unsigned cid) .connected]

/-- `dur` is logged. -/
def onDisconnect (cid _dur : Int) : List CallEvent :=
  [.callStatus fritzPluginId (unsigned cid) .idle]

/-- `handleFritzMessage`: a line with no command, with an unknown one or with too few arguments
is logged or dropped. -/
def handleFritzMessage (p : Platform) (msg : String) : List CallEvent :=
  match tokens msg with
  | _date :: cmd :: rest =>
      let args := rest.take 5
      let argc := args.length
      let arg (i : Nat) := args.getD i ""
      if cmd = "CALL" ∧ argc ≥ 4 then onNewOutCall (atoi p (arg 0)) (arg 2) (arg 3)
      else if cmd = "RING" ∧ argc ≥ 3 then onNewInCall (atoi p (arg 0)) (arg 1) (arg 2)
      else if cmd = "CONNECT" ∧ argc ≥ 1 then onConnect (atoi p (arg 0))
      else if cmd = "DISCONNECT" ∧ argc ≥ 2 then onDisconnect (atoi p (arg 0)) (atoi p (arg 1))
      else []
  | _ => []

/-- A line with the command `cmd`, at least `argc` arguments and the call id `cid`. -/
def IsLine (p : Platform) (cmd : String) (argc cid : Nat) (msg : String) : Prop :=
  ∃ date id args, tokens msg = date :: cmd :: id :: args ∧ argc ≤ args.length + 1 ∧
    unsigned (atoi p id) = cid

/-- A line that announces a call. -/
def Announces (p : Platform) (cid : Nat) (msg : String) : Prop :=
  IsLine p "CALL" 4 cid msg ∨ IsLine p "RING" 3 cid msg

/-- An announced call is told as a new call, in a state in which it is pending, and then its
numbers are. -/
theorem handleFritzMessage_announces {p : Platform} {cid : Nat} {msg : String}
    (h : Announces p cid msg) : ∃ type status info, handleFritzMessage p msg =
      [.newCall fritzPluginId cid type status, .callInfo fritzPluginId cid info] ∧
        (status = .offering ∨ status = .dialing) := by
  rcases h with ⟨date, id, args, ht, hn, rfl⟩ | ⟨date, id, args, ht, hn, rfl⟩
  · have h4 : 4 ≤ ((id :: args).take 5).length := by simp; omega
    have h : handleFritzMessage p msg = onNewOutCall (atoi p id) (((id :: args).take 5).getD 2 "")
        (((id :: args).take 5).getD 3 "") := by
      simp only [handleFritzMessage, ht, h4, ge_iff_le, and_self, if_true]
      rfl
    exact ⟨_, _, _, h, .inr rfl⟩
  · have h3 : 3 ≤ ((id :: args).take 5).length := by simp; omega
    have h : handleFritzMessage p msg = onNewInCall (atoi p id) (((id :: args).take 5).getD 1 "")
        (((id :: args).take 5).getD 2 "") := by
      simp only [handleFritzMessage, ht, h3, ge_iff_le, and_self, if_true]
      rfl
    exact ⟨_, _, _, h, .inl rfl⟩

/-- **Every event of a line is one of the plug-in's, and none tells that a conversation has
ended.** -/
theorem handleFritzMessage_not_disconnected {p : Platform} {msg : String} {ev : CallEvent}
    (h : ev ∈ handleFritzMessage p msg) : ∃ cid,
      (∃ type status, ev = .newCall fritzPluginId cid type status ∧ status ≠ .disconnected) ∨
      (∃ status, ev = .callStatus fritzPluginId cid status ∧ status ≠ .disconnected) ∨
      ∃ info, ev = .callInfo fritzPluginId cid info := by
  rw [handleFritzMessage] at h
  split at h
  · dsimp only at h
    split at h
    · rcases List.mem_pair.mp h with rfl | rfl
      · exact ⟨_, .inl ⟨_, _, rfl, by decide⟩⟩
      · exact ⟨_, .inr (.inr ⟨_, rfl⟩)⟩
    · split at h
      · rcases List.mem_pair.mp h with rfl | rfl
        · exact ⟨_, .inl ⟨_, _, rfl, by decide⟩⟩
        · exact ⟨_, .inr (.inr ⟨_, rfl⟩)⟩
      · split at h
        · obtain rfl := List.mem_singleton.mp h
          exact ⟨_, .inr (.inl ⟨_, rfl, by decide⟩)⟩
        · split at h
          · obtain rfl := List.mem_singleton.mp h
            exact ⟨_, .inr (.inl ⟨_, rfl, by decide⟩)⟩
          · cases h
  · cases h

example : handleFritzMessage utcPlatform "18.11.12 21:38:42;DISCONNECT;2;90;" =
    [.callStatus fritzPluginId 2 .idle] := by decide

end Cmon
