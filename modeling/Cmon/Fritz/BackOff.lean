import Cmon.Library.Run
import Mathlib.Tactic.Common

/-!
# Fritz — the wait between two attempts

`CFritzCallMonitor` with its end event, which stays set once a stop has set it, and the threads
that were created: one waits for the event between two attempts to connect.  The user interface and
the threads take their steps in any order; the wait of `shutdown` for the thread may time out, and
holds nobody up here.

`MonitorThread.failures`, `waited`, `late` and `stopped` are the history of a thread: its attempts
that have failed since the last that did not, how long it has waited for certain since then,
whether the event was set when it was created, and whether a stop was requested since.

* `Inv`: a thread that was created before the event was set waits the whole time, unless a stop is
  requested.
* `waits_iff`: a run loops without waiting when a thread that was created after a stop fails to
  connect twice.
-/

namespace Cmon
open Library

/-! ### The source -/

/-- Where a thread stands: it has not begun, is about to call `initSocket`, is in the inner loop,
waits, is about to look at `m_bRunMonitor`, is about to end, or has ended. -/
inductive ThreadPlace where
  | created | trying | connected | waiting | looking | ending | ended
  deriving DecidableEq, Repr

/-- A thread of the monitor, and its history. -/
structure MonitorThread where
  place : ThreadPlace
  retryCount : Nat
  failures : Nat
  waited : Nat
  late : Bool
  stopped : Bool
  deriving DecidableEq, Repr

/-- What the threads share, and the threads in the order of their creation. -/
structure MonitorThreads where
  /-- `m_bMonitorIsRunning`. -/
  running : Bool
  /-- `m_bMonitorIsConnected`. -/
  connected : Bool
  /-- `m_bRunMonitor`. -/
  runMonitor : Bool
  /-- `m_nLastError`. -/
  lastError : Int
  /-- `m_hEndEvent`, which is reset by hand, and nowhere. -/
  endEvent : Bool
  threads : List MonitorThread
  deriving DecidableEq, Repr

/-- What `initSocket` comes to. -/
inductive SocketResult where
  | connected | refused
  | unresolved (error : Int)
  deriving DecidableEq, Repr

/-- The steps: what the user interface calls, and those of the thread with a number. -/
inductive MonitorStep where
  | init | shutdown | stopMonitor
  /-- `monitor`, up to its outer loop. -/
  | thread (t : Nat)
  | initSocket (t : Nat) (result : SocketResult)
  | closed (t : Nat)
  | wake (t : Nat)
  | look (t : Nat)
  | finish (t : Nat)
  deriving DecidableEq, Repr

namespace MonitorThreads

/-- A stop was requested. -/
def requested (s : MonitorThreads) : MonitorThreads :=
  { s with threads := s.threads.map fun th => { th with stopped := true } }

/-- `startMonitor`. -/
def startMonitor (s : MonitorThreads) : MonitorThreads :=
  if s.running then s
  else { s with
    runMonitor := true
    threads := s.threads ++ [⟨.created, 1, 0, 0, s.endEvent, false⟩] }

/-- `init`; its wait is for the others to take their steps. -/
def init (s : MonitorThreads) : MonitorThreads := startMonitor { s with lastError := 0 }

/-- `shutdown`. -/
def shutdown (s : MonitorThreads) : MonitorThreads :=
  if s.running then { s.requested with runMonitor := false, endEvent := true, lastError := 0 }
  else s.requested

/-- `stopMonitor`. -/
def stopMonitor (s : MonitorThreads) : MonitorThreads :=
  if s.running then { s.requested with runMonitor := false } else s.requested

/-- A step of thread `t`, when it stands at `place`. -/
def turn (s : MonitorThreads) (t : Nat) (place : ThreadPlace)
    (f : MonitorThread → MonitorThread) : MonitorThreads :=
  { s with threads := s.threads.modify t fun th => if th.place = place then f th else th }

/-- Thread `t` stands at `place`. -/
def At (s : MonitorThreads) (t : Nat) (place : ThreadPlace) : Bool :=
  (s.threads[t]?.map MonitorThread.place) = some place

/-- The branches of `initSocket`, and `retryCount`, which waits half a second for each. -/
def connectSocket (s : MonitorThreads) (t : Nat) : SocketResult → MonitorThreads
  | .connected => { s with connected := true }.turn t .trying fun th =>
      { th with place := .connected, retryCount := 1, failures := 0, waited := 0 }
  | .refused => s.turn t .trying failed
  | .unresolved error => { s with lastError := error }.turn t .trying failed
where
  failed (th : MonitorThread) : MonitorThread :=
    { th with
      place := .waiting
      retryCount := if th.retryCount ≤ 60 then th.retryCount + 1 else th.retryCount
      failures := th.failures + 1
      waited := 0 }

/-- One step.  What a thread cannot do where it stands changes nothing. -/
def step (s : MonitorThreads) : MonitorStep → MonitorThreads
  | .init => s.init
  | .shutdown => s.shutdown
  | .stopMonitor => s.stopMonitor
  | .thread t =>
      if s.At t .created then
        { s with running := true }.turn t .created fun th => { th with place := .trying }
      else s
  | .initSocket t result => if s.At t .trying then s.connectSocket t result else s
  | .closed t =>
      if s.At t .connected then
        { s with connected := false }.turn t .connected fun th => { th with place := .looking }
      else s
  | .wake t => s.turn t .waiting fun th =>
      -- an event that is set ends the wait
      { th with
        place := .looking, waited := if s.endEvent then 0 else 1000 * th.retryCount / 2 }
  | .look t => s.turn t .looking fun th =>
      { th with place := if s.runMonitor then .trying else .ending }
  | .finish t =>
      if s.At t .ending then
        { s with running := false }.turn t .ending fun th => { th with place := .ended }
      else s

/-- The constructor, which calls `init`. -/
def create : MonitorThreads := init ⟨false, false, false, 0, false, []⟩

/-- The back-off time after a number of failures: half a second for each and one more, up to a
limit, in milliseconds. -/
def backOff (failures : Nat) : Nat := 500 * min (failures + 1) 61

/-- **The back-off**: an attempt that fails after another has been preceded by the back-off time,
unless a stop was requested since the thread was created. -/
def Waits (s : MonitorThreads) : MonitorStep → Prop
  | .initSocket t result => ∀ th, s.threads[t]? = some th → th.place = .trying →
      result ≠ .connected → th.failures ≠ 0 → th.stopped = false →
        backOff th.failures ≤ th.waited
  | _ => True

/-- No thread that was created after a stop fails to connect for a second time, unless a stop was
requested since. -/
def OnTime (s : MonitorThreads) : MonitorStep → Prop
  | .initSocket t result => ∀ th, s.threads[t]? = some th → th.place = .trying →
      result ≠ .connected → th.failures ≠ 0 → th.stopped = false → th.late = false
  | _ => True

/-! ### What each step keeps -/

/-- What holds of a thread; it has waited when it is about to try again. -/
structure ThreadInv (endEvent : Bool) (th : MonitorThread) : Prop where
  fresh : th.place = .created ∨ th.place = .connected → th.failures = 0
  retry : th.retryCount = min (th.failures + 1) 61
  late : th.late = true → endEvent = true
  event : endEvent = true → th.late = false → th.stopped = true
  waited : th.place = .looking ∨ th.place = .trying → th.failures ≠ 0 → th.stopped = false →
    th.waited = if th.late then 0 else backOff th.failures

/-- Every thread is so. -/
def Inv (s : MonitorThreads) : Prop := ∀ th ∈ s.threads, ThreadInv s.endEvent th

variable {s : MonitorThreads}

/-- A thread that has been stopped. -/
theorem ThreadInv.stop {endEvent e : Bool} {th : MonitorThread} (h : ThreadInv endEvent th)
    (he : endEvent = true → e = true) : ThreadInv e { th with stopped := true } where
  fresh := h.fresh
  retry := h.retry
  late := fun hl => he (h.late hl)
  event := fun _ _ => rfl
  waited := nofun

theorem inv_requested (h : Inv s) {e : Bool} (he : s.endEvent = true → e = true) :
    ∀ th ∈ s.requested.threads, ThreadInv e th := by
  intro th hth
  obtain ⟨th₀, hmem, rfl⟩ := List.mem_map.mp hth
  exact (h th₀ hmem).stop he

/-- A step of one thread. -/
theorem Inv.turn (h : Inv s) (t : Nat) {place : ThreadPlace} {f : MonitorThread → MonitorThread}
    (hf : ∀ th, th.place = place → ThreadInv s.endEvent th → ThreadInv s.endEvent (f th)) :
    ∀ th ∈ (s.turn t place f).threads, ThreadInv s.endEvent th := by
  intro th hth
  obtain ⟨i, hi⟩ := List.mem_iff_getElem?.mp hth
  rw [MonitorThreads.turn, List.getElem?_modify] at hi
  obtain ⟨th₀, hi₀, rfl⟩ := Option.map_eq_some_iff.mp hi
  have hinv := h th₀ (List.mem_of_getElem? hi₀)
  split_ifs with hti hplace
  · exact hf th₀ hplace hinv
  · exact hinv
  · exact hinv

theorem ThreadInv.failed {endEvent : Bool} {th : MonitorThread} (h : ThreadInv endEvent th) :
    ThreadInv endEvent (connectSocket.failed th) where
  fresh := nofun
  retry := by
    show (if th.retryCount ≤ 60 then th.retryCount + 1 else th.retryCount) =
      min (th.failures + 1 + 1) 61
    rw [h.retry]
    split <;> omega
  late := h.late
  event := h.event
  waited := nofun

theorem inv_step (s : MonitorThreads) (a : MonitorStep) (h : Inv s) : Inv (s.step a) := by
  cases a with
  | init =>
      rw [step, init, startMonitor]
      split
      · exact h
      · intro th hth
        rcases List.mem_append.mp hth with hth | hth
        · exact h th hth
        · obtain rfl := List.mem_singleton.mp hth
          exact ⟨fun _ => rfl, rfl, id, fun he hl => absurd (he.symm.trans hl) nofun,
            fun _ hf => absurd rfl hf⟩
  | shutdown =>
      rw [step, shutdown]
      split
      · exact inv_requested h fun _ => rfl
      · exact inv_requested h id
  | stopMonitor =>
      rw [step, stopMonitor]
      split
      · exact inv_requested h id
      · exact inv_requested h id
  | thread t =>
      rw [step]
      split
      · exact Inv.turn (s := { s with running := true }) h t fun th hplace hth =>
          ⟨nofun, hth.retry, hth.late, hth.event,
            fun _ hf => absurd (hth.fresh (.inl hplace)) hf⟩
      · exact h
  | initSocket t result =>
      rw [step]
      split
      · cases result with
        | connected =>
            exact Inv.turn (s := { s with connected := true }) h t fun th _ hth =>
              ⟨fun _ => rfl, rfl, hth.late, hth.event, fun _ hf => absurd rfl hf⟩
        | refused => exact Inv.turn h t fun th _ hth => hth.failed
        | unresolved error =>
            exact Inv.turn (s := { s with lastError := error }) h t fun th _ hth => hth.failed
      · exact h
  | closed t =>
      rw [step]
      split
      · exact Inv.turn (s := { s with connected := false }) h t fun th hplace hth =>
          ⟨nofun, hth.retry, hth.late, hth.event,
            fun _ hf => absurd (hth.fresh (.inr hplace)) hf⟩
      · exact h
  | wake t =>
      refine Inv.turn h t fun th _ hth => ⟨nofun, hth.retry, hth.late, hth.event, ?_⟩
      intro _ _ hstopped
      show (if s.endEvent = true then 0 else 1000 * th.retryCount / 2) =
        if th.late = true then 0 else backOff th.failures
      cases hlate : th.late with
      | true => rw [if_pos (hth.late hlate), if_pos rfl]
      | false =>
          -- nothing has set the event since
          have hunset : ¬ s.endEvent = true := fun he =>
            Bool.false_ne_true (hstopped.symm.trans (hth.event he hlate))
          rw [if_neg hunset, if_neg Bool.false_ne_true, hth.retry, backOff]
          omega
  | look t =>
      refine Inv.turn h t fun th hplace hth => ⟨?_, hth.retry, hth.late, hth.event, ?_⟩
      · cases s.runMonitor <;> exact nofun
      · exact fun _ => hth.waited (.inl hplace)
  | finish t =>
      rw [step]
      split
      · exact Inv.turn (s := { s with running := false }) h t fun th _ hth =>
          ⟨nofun, hth.retry, hth.late, hth.event, nofun⟩
      · exact h

/-- Where a thread is about to try again, it has waited if it was created in time. -/
theorem waits_iff_onTime (h : Inv s) (a : MonitorStep) : s.Waits a ↔ s.OnTime a := by
  cases a with
  | initSocket t result =>
      refine forall_congr' fun th => forall_congr' fun hth => forall_congr' fun hplace => ?_
      refine forall_congr' fun _ => forall_congr' fun hf => forall_congr' fun hstopped => ?_
      rw [(h th (List.mem_of_getElem? hth)).waited (.inr hplace) hf hstopped, backOff]
      cases th.late with
      | true =>
          refine iff_of_false (fun hle => ?_) nofun
          rw [if_pos rfl] at hle
          omega
      | false => exact iff_of_true (Nat.le_refl _) rfl
  | _ => exact Iff.rfl

/-- **Every attempt after a failed one waits** the back-off time, in a run, if and only if no thread
that was created after a stop fails to connect for a second time before another stop. -/
theorem waits_iff (steps : List MonitorStep) :
    Along step Waits create steps ↔ Along step OnTime create steps :=
  along_congr (I := Inv) (fun s a h _ => inv_step s a h) (fun _ a h => waits_iff_onTime h a)
    (fun _ hth => by
      obtain rfl := List.mem_singleton.mp hth
      exact ⟨fun _ => rfl, rfl, id, nofun, fun _ hf => absurd rfl hf⟩)

/-- The monitor is stopped and started; then there is no box. -/
def restarted : List MonitorStep :=
  [.thread 0, .shutdown, .initSocket 0 .refused, .wake 0, .look 0, .finish 0, .init, .thread 1,
    .initSocket 1 .refused, .wake 1, .look 1, .initSocket 1 .refused]

/-- The thread tries again at once. -/
theorem restarted_loops : ¬ ∀ steps, Along step Waits create steps := by
  intro h
  have hlast := along_iff.mp (h restarted) (restarted.take 11) (.initSocket 1 .refused) [] rfl
  exact absurd (hlast ⟨.trying, 2, 1, 0, true, false⟩ rfl rfl nofun nofun rfl) (by decide)

end MonitorThreads
end Cmon
