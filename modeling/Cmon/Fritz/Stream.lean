import Cmon.Fritz.Layout
import Cmon.Library.Lines
import Cmon.Library.Run
import Mathlib.Data.List.ModifyLast

/-!
# Fritz — the stream

`CFritzCallMonitor::monitor`: the thread that connects to the box, reads what `recv` gives it,
cuts the lines off and hands them to `handleFritzMessage`, over any number of connections.  A byte
of the stream is the character with its code.  One event is one turn of one of the two loops, or
what another thread does in between: it starts or stops the monitor, and observers come and go.

`FritzMonitor.told` and `FritzMonitor.streams` are the history: what the observers were told, and
the bytes that each connection gave.

* `FritzMonitor.lineLoop_eq`: the loop over `line` cuts it at its line feeds.
* `FritzMonitor.told_step`: what a turn tells are the lines that have ended in it.
* `FritzMonitor.delivers`: when the box sends messages in the documented layouts, an observer is
  told, from when on it is registered, the messages that have arrived completely.
-/

namespace Cmon
open Library

/-! ### The monitor -/

/-- Where the thread stands: it does not run, it is about to call `initSocket`, or it waits in
`select`. -/
inductive MonitorPlace where
  | stopped | connecting | reading
  deriving DecidableEq, Repr

/-- `CFritzCallMonitor`, with the local `line` of `monitor`. -/
structure FritzMonitor where
  place : MonitorPlace
  /-- `m_bRunMonitor`. -/
  runMonitor : Bool
  line : List Char
  /-- `m_Listeners`. -/
  listeners : List Nat
  /-- What was told, and to whom. -/
  told : List (Nat × CallEvent)
  /-- What each connection gave, the present one last. -/
  streams : List (List Char)
  deriving DecidableEq, Repr

/-- What happens to the monitor. -/
inductive MonitorEvent where
  /-- `startMonitor`, and the thread up to its outer loop. -/
  | start
  /-- `stopMonitor`, or the first line of `shutdown`. -/
  | stop
  | initSocket (rc : Bool)
  /-- `select` returns 0. -/
  | timeout
  | selectError
  /-- `recv` returns the number of the bytes in `buf`. -/
  | recv (buf : List Char)
  | recvError
  | registerCallObserver (o : Nat)
  | deregisterCallObserver (o : Nat)
  deriving DecidableEq, Repr

namespace FritzMonitor

/-- The constructor, before it calls `init`. -/
def init : FritzMonitor := ⟨.stopped, false, [], [], [], []⟩

/-- What one loop over `m_Listeners` tells. -/
def broadcast (listeners : List Nat) (evs : List CallEvent) : List (Nat × CallEvent) :=
  listeners.flatMap fun o => evs.map (o, ·)

def tell (s : FritzMonitor) (evs : List CallEvent) : FritzMonitor :=
  { s with told := s.told ++ broadcast s.listeners evs }

/-- The loop over `line`. -/
def lineLoop (p : Platform) : Nat → FritzMonitor → FritzMonitor
  | 0, s => s
  | fuel + 1, s =>
      let pos := s.line.idxOf '\n'
      if pos < s.line.length then
        let cmd := s.line.take pos
        lineLoop p fuel
          { s.tell (handleFritzMessage p (String.ofList cmd)) with line := s.line.drop (pos + 1) }
      else s

/-- `while (m_bRunMonitor)` of the inner loop.  When it ends, so does the outer one. -/
def again (s : FritzMonitor) : FritzMonitor :=
  if s.runMonitor then { s with place := .reading } else { s with place := .stopped }

/-- `while (m_bRunMonitor)` of the outer loop. -/
def outer (s : FritzMonitor) : FritzMonitor :=
  if s.runMonitor then { s with place := .connecting } else { s with place := .stopped }

/-- What `recv` gave, `rc > 0` bytes. -/
def receive (p : Platform) (s : FritzMonitor) (buf : List Char) : FritzMonitor :=
  let s := { s with line := s.line ++ buf, streams := s.streams.modifyLast (· ++ buf) }
  lineLoop p s.line.length s

/-- One event.  What cannot happen where the thread stands changes nothing. -/
def step (p : Platform) (s : FritzMonitor) : MonitorEvent → FritzMonitor
  | .start =>
      if s.place = .stopped then { s with place := .connecting, runMonitor := true, line := [] }
      else s
  | .stop => if s.place = .stopped then s else { s with runMonitor := false }
  | .initSocket rc =>
      if s.place = .connecting then
        if rc then again { s with streams := s.streams ++ [[]] } else outer s
      else s
  | .timeout => if s.place = .reading then again s else s
  | .selectError => if s.place = .reading then outer { s with line := [] } else s
  | .recv buf =>
      if s.place = .reading then
        if buf = [] then outer { s with line := [] } else again (s.receive p buf)
      else s
  | .recvError => if s.place = .reading then outer { s with line := [] } else s
  | .registerCallObserver o => { s with listeners := s.listeners ++ [o] }
  | .deregisterCallObserver o => { s with listeners := s.listeners.erase o }

/-! ### The lines -/

/-- What is told of lines. -/
def tellings (p : Platform) (listeners : List Nat) (ls : List (List Char)) :
    List (Nat × CallEvent) :=
  ls.flatMap fun l => broadcast listeners (handleFritzMessage p (String.ofList l))

/-- **The loop over `line` cuts it at its line feeds**: it tells every line that has ended and
keeps the beginning of the next. -/
theorem lineLoop_eq {p : Platform} {fuel : Nat} {s : FritzMonitor} (h : s.line.length ≤ fuel) :
    lineLoop p fuel s =
      { s with told := s.told ++ tellings p s.listeners (Lines.cut '\n' s.line).1
               line := (Lines.cut '\n' s.line).2 } := by
  induction fuel generalizing s with
  | zero =>
      have hnil : s.line = [] := List.length_eq_zero_iff.mp (Nat.le_zero.mp h)
      rw [lineLoop, hnil]
      simp only [Lines.cut, tellings, List.flatMap_nil, List.append_nil]
      rw [← hnil]
  | succ fuel ih =>
      rw [lineLoop]
      rcases Lines.eq_line_or_not_mem '\n' s.line with hlf | ⟨l, t, hl, ht⟩
      · rw [if_neg (by simp [hlf]), Lines.cut_of_not_mem hlf]
        simp [tellings]
      · have hpos : s.line.idxOf '\n' = l.length := by
          rw [ht, List.idxOf_append_of_notMem hl, List.idxOf_cons_self, Nat.add_zero]
        have hlen : t.length ≤ fuel := by
          rw [ht, List.length_append, List.length_cons] at h
          omega
        have hdrop : s.line.drop (l.length + 1) = t := by simp [ht]
        have htake : s.line.take l.length = l := by simp [ht]
        rw [hpos, if_pos (by simp [ht]), htake, hdrop, ih hlen, ht, Lines.cut_line hl]
        simp [tell, tellings]

/-- Where `line` is empty, and where it is the unfinished line of the present connection. -/
structure Reads (s : FritzMonitor) : Prop where
  connecting : s.place = .connecting → s.line = []
  reading : s.place = .reading →
    ∃ olds cur, s.streams = olds ++ [cur] ∧ s.line = (Lines.cut '\n' cur).2

/-- How an event changes the streams, and the lines that have ended in it. -/
inductive Grows : List (List Char) → List (List Char) → List (List Char) → Prop where
  | same (streams) : Grows streams streams []
  | opened (streams) : Grows streams (streams ++ [[]]) []
  | received (olds) {cur buf ls}
      (h : (Lines.cut '\n' (cur ++ buf)).1 = (Lines.cut '\n' cur).1 ++ ls) :
      Grows (olds ++ [cur]) (olds ++ [cur ++ buf]) ls

section
variable {p : Platform} {s : FritzMonitor}

@[simp] theorem again_streams : (again s).streams = s.streams := by rw [again]; split <;> rfl
@[simp] theorem again_told : (again s).told = s.told := by rw [again]; split <;> rfl
@[simp] theorem again_listeners : (again s).listeners = s.listeners := by rw [again]; split <;> rfl
@[simp] theorem again_line : (again s).line = s.line := by rw [again]; split <;> rfl
@[simp] theorem outer_streams : (outer s).streams = s.streams := by rw [outer]; split <;> rfl
@[simp] theorem outer_told : (outer s).told = s.told := by rw [outer]; split <;> rfl
@[simp] theorem outer_listeners : (outer s).listeners = s.listeners := by rw [outer]; split <;> rfl
@[simp] theorem outer_line : (outer s).line = s.line := by rw [outer]; split <;> rfl

theorem again_place : (again s).place ≠ .connecting := by rw [again]; split <;> simp

theorem outer_place : (outer s).place ≠ .reading := by rw [outer]; split <;> simp

theorem reads_init : Reads init := ⟨(nomatch ·), (nomatch ·)⟩

theorem reads_outer (h : s.line = []) : Reads (outer s) :=
  ⟨fun _ => outer_line.trans h, fun hp => absurd hp outer_place⟩

theorem reads_again {cur : List Char} {olds : List (List Char)} (hs : s.streams = olds ++ [cur])
    (hl : s.line = (Lines.cut '\n' cur).2) : Reads (again s) :=
  ⟨fun hp => absurd hp again_place,
    fun _ => ⟨olds, cur, again_streams.trans hs, again_line.trans hl⟩⟩

/-- What is received continues the unfinished line. -/
theorem receive_eq (buf : List Char) {cur : List Char} {olds : List (List Char)}
    (hs : s.streams = olds ++ [cur]) (hl : s.line = (Lines.cut '\n' cur).2) :
    ∃ ls, (Lines.cut '\n' (cur ++ buf)).1 = (Lines.cut '\n' cur).1 ++ ls ∧
      s.receive p buf = { s with
        told := s.told ++ tellings p s.listeners ls
        line := (Lines.cut '\n' (cur ++ buf)).2
        streams := olds ++ [cur ++ buf] } := by
  have hcut := Lines.cut_append '\n' cur buf
  rw [← hl] at hcut
  refine ⟨(Lines.cut '\n' (s.line ++ buf)).1, by rw [hcut], ?_⟩
  rw [receive, lineLoop_eq le_rfl, hs, List.modifyLast_concat, hcut]

theorem receive_listeners (buf : List Char) : (s.receive p buf).listeners = s.listeners := by
  rw [receive, lineLoop_eq le_rfl]

/-- **An event tells the lines that have ended in it**, to those who are registered. -/
theorem told_step (h : Reads s) (e : MonitorEvent) : Reads (s.step p e) ∧
    ∃ ls, Grows s.streams (s.step p e).streams ls ∧
      (s.step p e).told = s.told ++ tellings p s.listeners ls := by
  -- nothing was received
  have hsame : ∀ t : FritzMonitor, t.streams = s.streams → t.told = s.told →
      ∃ ls, Grows s.streams t.streams ls ∧ t.told = s.told ++ tellings p s.listeners ls := by
    intro t hs ht
    exact ⟨[], hs ▸ .same _, by simp [ht, tellings]⟩
  cases e with
  | start =>
      rw [step]
      split
      · exact ⟨⟨fun _ => rfl, fun hp => nomatch hp⟩, hsame _ rfl rfl⟩
      · exact ⟨h, hsame _ rfl rfl⟩
  | stop =>
      rw [step]
      split
      · exact ⟨h, hsame _ rfl rfl⟩
      · exact ⟨⟨h.connecting, h.reading⟩, hsame _ rfl rfl⟩
  | initSocket rc =>
      rw [step]
      split
      · rename_i hp
        split
        · refine ⟨reads_again rfl (h.connecting hp), [], ?_, ?_⟩
          · rw [again_streams]
            exact .opened _
          · simp [tellings]
        · exact ⟨reads_outer (h.connecting hp), hsame _ outer_streams outer_told⟩
      · exact ⟨h, hsame _ rfl rfl⟩
  | timeout =>
      rw [step]
      split
      · rename_i hp
        obtain ⟨olds, cur, hs, hl⟩ := h.reading hp
        exact ⟨reads_again hs hl, hsame _ again_streams again_told⟩
      · exact ⟨h, hsame _ rfl rfl⟩
  | selectError | recvError =>
      rw [step]
      split
      · exact ⟨reads_outer rfl, hsame _ outer_streams outer_told⟩
      · exact ⟨h, hsame _ rfl rfl⟩
  | recv buf =>
      rw [step]
      split
      · rename_i hp
        split
        · exact ⟨reads_outer rfl, hsame _ outer_streams outer_told⟩
        · obtain ⟨olds, cur, hs, hl⟩ := h.reading hp
          obtain ⟨ls, hcut, he⟩ := receive_eq buf hs hl
          refine ⟨reads_again (by rw [he]) (by rw [he]), ls, ?_, by rw [again_told, he]⟩
          rw [again_streams, he, hs]
          exact .received olds hcut
      · exact ⟨h, hsame _ rfl rfl⟩
  | registerCallObserver o | deregisterCallObserver o =>
      exact ⟨⟨h.connecting, h.reading⟩, hsame _ rfl rfl⟩

end

/-! ### The messages -/

/-- The bytes of messages. -/
def wire (msgs : List Sent) : List Char := msgs.flatMap Sent.wire

/-- The messages whose bytes are all among the first `n`. -/
def completed : List Sent → Nat → List Sent
  | [], _ => []
  | m :: ms, n => if m.wire.length ≤ n then m :: completed ms (n - m.wire.length) else []

/-- The messages that have arrived completely, of all connections; the connection `i` is sent the
messages `sent i`. -/
def arrived (sent : Nat → List Sent) (streams : List (List Char)) : List Sent :=
  (streams.mapIdx fun i stream => completed (sent i) stream.length).flatten

/-- Each connection gave the bytes of its messages, perhaps not all of them. -/
def Carries (sent : Nat → List Sent) (streams : List (List Char)) : Prop :=
  ∀ i stream, streams[i]? = some stream → stream <+: wire (sent i)

theorem completed_add (msgs : List Sent) (n k : Nat) :
    ∃ new, completed msgs (n + k) = completed msgs n ++ new := by
  induction msgs generalizing n with
  | nil => exact ⟨[], rfl⟩
  | cons m ms ih =>
      by_cases hm : m.wire.length ≤ n
      · obtain ⟨new, hnew⟩ := ih (n - m.wire.length)
        refine ⟨new, ?_⟩
        rw [completed, if_pos (by omega), completed, if_pos hm, Nat.sub_add_comm hm, hnew]
        rfl
      · have hnil : completed (m :: ms) n = [] := if_neg hm
        exact ⟨completed (m :: ms) (n + k), by rw [hnil, List.nil_append]⟩

/-- **The lines that have ended in a stream of messages are those of the messages that have
arrived completely.** -/
theorem cut_stream {msgs : List Sent} {stream : List Char} (h : stream <+: wire msgs) :
    (Lines.cut '\n' stream).1 = (completed msgs stream.length).map Sent.line := by
  induction msgs generalizing stream with
  | nil => rw [List.prefix_nil.mp h]; rfl
  | cons m ms ih =>
      have hw : wire (m :: ms) = m.wire ++ wire ms := rfl
      rw [completed]
      split
      · rename_i hm
        -- the stream goes on behind the first message
        obtain ⟨t, rfl⟩ : m.wire <+: stream :=
          List.prefix_of_prefix_length_le (hw ▸ List.prefix_append _ _) h hm
        have ht : t <+: wire ms := (List.prefix_append_right_inj _).mp (hw ▸ h)
        rw [List.length_append, Nat.add_sub_cancel_left, Sent.wire, List.append_assoc,
          List.singleton_append, Lines.cut_line m.lf_not_mem_line, ih ht]
        rfl
      · rename_i hm
        -- the first message lacks at least its line feed
        have hline : stream <+: m.line := by
          refine List.prefix_of_prefix_length_le h (hw ▸ ?_) ?_
          · rw [Sent.wire, List.append_assoc]
            exact List.prefix_append _ _
          · rw [Sent.wire, List.length_append, List.length_singleton] at hm
            omega
        have hlf : '\n' ∉ stream := fun hc => m.lf_not_mem_line (hline.subset hc)
        rw [Lines.cut_of_not_mem hlf]
        rfl

theorem arrived_concat (sent : Nat → List Sent) (olds : List (List Char)) (cur : List Char) :
    arrived sent (olds ++ [cur]) =
      arrived sent olds ++ completed (sent olds.length) cur.length := by
  simp [arrived, List.mapIdx_append]

/-- The lines that end in an event are those of the messages that then have arrived. -/
theorem Grows.arrived {sent : Nat → List Sent} {st st' ls : List (List Char)} (h : Grows st st' ls)
    (hc : Carries sent st') : Carries sent st ∧ ∃ new,
      FritzMonitor.arrived sent st' = FritzMonitor.arrived sent st ++ new ∧
        ls = new.map Sent.line := by
  cases h with
  | same => exact ⟨hc, [], by simp⟩
  | opened =>
      refine ⟨fun i stream hi => hc i stream ?_, [], ?_, rfl⟩
      · rw [List.getElem?_append_left (List.getElem?_eq_some_iff.mp hi).1, hi]
      · have hnil : completed (sent st.length) 0 = [] := by
          cases sent st.length with
          | nil => rfl
          | cons m ms => exact if_neg (by simp [Sent.wire])
        rw [arrived_concat, List.length_nil, hnil]
  | @received olds cur buf ls hls =>
      have hcur : cur ++ buf <+: wire (sent olds.length) := hc _ _ List.getElem?_concat_length
      refine ⟨fun i stream hi => ?_, ?_⟩
      · rcases Nat.lt_or_ge i olds.length with hlt | hge
        · rw [List.getElem?_append_left hlt] at hi
          exact hc i stream (by rw [List.getElem?_append_left hlt, hi])
        · have hlt := (List.getElem?_eq_some_iff.mp hi).1
          rw [List.length_append, List.length_singleton] at hlt
          obtain rfl : i = olds.length := by omega
          rw [List.getElem?_concat_length] at hi
          obtain rfl := Option.some.inj hi
          exact (List.prefix_append _ _).trans hcur
      · obtain ⟨new, hnew⟩ := completed_add (sent olds.length) cur.length buf.length
        refine ⟨new, ?_, ?_⟩
        · rw [arrived_concat, arrived_concat, List.length_append, hnew, List.append_assoc]
        · rw [cut_stream hcur, cut_stream ((List.prefix_append _ _).trans hcur),
            List.length_append, hnew, List.map_append] at hls
          exact (List.append_cancel_left hls).symm

/-- What is told of messages. -/
theorem tellings_line (p : Platform) (listeners : List Nat) (msgs : List Sent) :
    tellings p listeners (msgs.map Sent.line) =
      msgs.flatMap fun m => broadcast listeners m.message.events := by
  simp [tellings, List.flatMap_map, handleFritzMessage_line]

/-! ### An observer -/

/-- What an observer was told. -/
def heard (s : FritzMonitor) (o : Nat) : List CallEvent :=
  s.told.filterMap fun p => if p.1 = o then some p.2 else none

/-- An observer hears what is told as many times as it is registered. -/
theorem filterMap_broadcast (listeners : List Nat) (evs : List CallEvent) (o : Nat) :
    (broadcast listeners evs).filterMap (fun p => if p.1 = o then some p.2 else none) =
      (List.replicate (listeners.count o) evs).flatten := by
  induction listeners with
  | nil => rfl
  | cons l ls ih =>
      rw [broadcast, List.flatMap_cons, List.filterMap_append, ← broadcast, ih,
        List.filterMap_map]
      by_cases hl : l = o
      · rw [hl, List.count_cons_self, List.replicate_succ, List.flatten_cons]
        simp
      · rw [List.count_cons_of_ne hl]
        simp [hl]

/-- Neither registers nor deregisters `o`. -/
def Leaves (o : Nat) (e : MonitorEvent) : Prop :=
  e ≠ .registerCallObserver o ∧ e ≠ .deregisterCallObserver o

instance (o : Nat) (e : MonitorEvent) : Decidable (Leaves o e) :=
  inferInstanceAs (Decidable (_ ∧ _))

section
variable {p : Platform} {s : FritzMonitor} {o : Nat}

theorem count_listeners {e : MonitorEvent} (h : Leaves o e) :
    (s.step p e).listeners.count o = s.listeners.count o := by
  cases e with
  | start | stop => rw [step]; split <;> rfl
  | initSocket rc => rw [step]; split <;> [split <;> simp; rfl]
  | timeout | selectError | recvError => rw [step]; split <;> simp
  | recv buf =>
      rw [step]
      split
      · split <;> simp [receive_listeners]
      · rfl
  | registerCallObserver o' =>
      have ho : o' ≠ o := fun he => h.1 (he ▸ rfl)
      simp [step, ho]
  | deregisterCallObserver o' =>
      have ho : o ≠ o' := fun he => h.2 (he ▸ rfl)
      simp [step, List.count_erase_of_ne ho]

/-- What an observer hears of an event: of each message that arrives, what is to be told, once for
each time it is registered. -/
theorem heard_step (hs : Reads s) {sent : Nat → List Sent} (e : MonitorEvent) (o : Nat)
    (hc : Carries sent (s.step p e).streams) : Carries sent s.streams ∧ ∃ new,
      arrived sent (s.step p e).streams = arrived sent s.streams ++ new ∧
      (s.step p e).heard o = s.heard o ++
        new.flatMap fun m => (List.replicate (s.listeners.count o) m.message.events).flatten := by
  obtain ⟨-, ls, hg, ht⟩ := told_step hs e
  obtain ⟨hc₀, new, ha, rfl⟩ := hg.arrived hc
  refine ⟨hc₀, new, ha, ?_⟩
  rw [heard, ht, List.filterMap_append, tellings_line, List.filterMap_flatMap]
  simp only [filterMap_broadcast]
  rfl

/-- And along a run. -/
theorem heard_run (hs : Reads s) {sent : Nat → List Sent} {evs : List MonitorEvent}
    (hc : Carries sent (run (step p) s evs).streams) (ho : ∀ e ∈ evs, Leaves o e) :
    Carries sent s.streams ∧ ∃ new,
      arrived sent (run (step p) s evs).streams = arrived sent s.streams ++ new ∧
      (run (step p) s evs).heard o = s.heard o ++
        new.flatMap fun m => (List.replicate (s.listeners.count o) m.message.events).flatten := by
  induction evs generalizing s with
  | nil => exact ⟨hc, [], by simp, by simp⟩
  | cons e evs ih =>
      obtain ⟨hc', new₂, ha₂, hh₂⟩ := ih (told_step hs e).1 hc fun e he => ho e (.tail _ he)
      obtain ⟨hc₀, new₁, ha₁, hh₁⟩ := heard_step hs e o hc'
      refine ⟨hc₀, new₁ ++ new₂, ?_, ?_⟩
      · rw [run_cons, ha₂, ha₁, List.append_assoc]
      · rw [run_cons, hh₂, hh₁, count_listeners (ho e (.head _)), List.flatMap_append,
          List.append_assoc]

end

/-- **No message is lost, merged, told twice or told too early.** -/
theorem delivers (p : Platform) (pre post : List MonitorEvent) (o : Nat) (sent : Nat → List Sent)
    (hc : Carries sent (run (step p) init (pre ++ post)).streams) (ho : ∀ e ∈ post, Leaves o e) :
    let s := run (step p) init pre
    let s' := run (step p) init (pre ++ post)
    ∃ new, arrived sent s'.streams = arrived sent s.streams ++ new ∧
      (s.listeners.count o = 1 →
        s'.heard o = s.heard o ++ new.flatMap fun m => m.message.events) ∧
      (o ∉ s.listeners → s'.heard o = s.heard o) := by
  dsimp only
  rw [run_append] at hc ⊢
  have hs : Reads (run (step p) init pre) :=
    run_inv (I := Reads) (fun s e h => (told_step h e).1) reads_init pre
  obtain ⟨-, new, ha, hh⟩ := heard_run hs hc ho
  refine ⟨new, ha, fun h1 => ?_, fun h0 => ?_⟩
  · simpa [h1] using hh
  · rw [hh, List.count_eq_zero_of_not_mem h0]
    simp

/-- A call whose line ends in the second chunk, an unfinished line that goes with its connection,
and the end of the call over the next one. -/
theorem delivers_split :
    let sent (i : Nat) : List Sent :=
      if i = 0 then
        [⟨.ring .empty .zero .empty .empty, true⟩, ⟨.connect .empty .zero .empty .empty, true⟩]
      else [⟨.disconnect .empty .zero .empty, false⟩]
    let pre := [.registerCallObserver 7, .start, .initSocket true, .recv ";RING;0;;;\r".toList]
    let post := [.recv "\n;CONN".toList, .recv [], .initSocket true,
      .recv ";DISCONNECT;0;;\n".toList]
    let s := run (step utcPlatform) init pre
    let s' := run (step utcPlatform) init (pre ++ post)
    Carries sent s'.streams ∧ (∀ e ∈ post, Leaves 7 e) ∧
    ∃ new, arrived sent s'.streams = arrived sent s.streams ++ new ∧
      (s.listeners.count 7 = 1 →
        s'.heard 7 = s.heard 7 ++ new.flatMap fun m => m.message.events) ∧
      (7 ∉ s.listeners → s'.heard 7 = s.heard 7) := by
  intro sent pre post s s'
  have hstreams : (run (step utcPlatform) init (pre ++ post)).streams =
      [";RING;0;;;\r\n;CONN".toList, ";DISCONNECT;0;;\n".toList] := by decide
  have hc : Carries sent (run (step utcPlatform) init (pre ++ post)).streams := by
    rw [hstreams]
    rintro (_ | _ | i) stream h
    · obtain rfl := Option.some.inj h
      decide
    · obtain rfl := Option.some.inj h
      decide
    · cases h
  have ho : ∀ e ∈ post, Leaves 7 e := by decide
  exact ⟨hc, ho, delivers utcPlatform pre post 7 sent hc ho⟩

end FritzMonitor
end Cmon
