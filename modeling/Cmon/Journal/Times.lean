import Cmon.Library.Run
import Cmon.Journal.Entry

/-!
# Journal — begin and duration

The statuses of one call, delivered to its entry through the status mapping, with the time of
each.  `Course` notes beside the entry when CONNECTED was delivered first, when DISCONNECTED was
delivered first after it, and what was delivered last; `Timed` compares the entry with that.

`setState` takes the begin anew at a CONNECTED that follows another status, and an outgoing call
at every CONNECTED; it takes the duration anew at every DISCONNECTED.  `Once` is the condition on
the next status under which this makes no difference.

* `timed_iff`: the times are right throughout exactly when every status meets the condition.
-/

namespace Cmon
open Library

/-- What the statuses of a call tell: when it was answered, when it was hung up after that, and the
state delivered last. -/
structure Course where
  answered : Option Int
  hungUp : Option Int
  last : EntryState
  deriving DecidableEq, Repr

/-- Nothing was delivered. -/
def Course.none : Course := ⟨Option.none, Option.none, .unknown⟩

/-- A status delivered at a time. -/
abbrev Delivery := Int × CallStatus

def Delivery.state (d : Delivery) : EntryState := callState2JournalState d.2

/-- A first CONNECTED is noted, and a first DISCONNECTED after it. -/
def Course.note (c : Course) (d : Delivery) : Course where
  answered := if d.state = .connected then c.answered.or (some d.1) else c.answered
  hungUp :=
    if d.state = .disconnected ∧ c.answered.isSome then c.hungUp.or (some d.1) else c.hungUp
  last := d.state

namespace Course
variable {c : Course} {d : Delivery}

theorem note_connected (h : d.state = .connected) :
    c.note d = ⟨c.answered.or (some d.1), c.hungUp, .connected⟩ := by
  simp [note, h]

theorem note_disconnected (h : d.state = .disconnected) :
    c.note d = ⟨c.answered, if c.answered.isSome then c.hungUp.or (some d.1) else c.hungUp,
      .disconnected⟩ := by
  simp [note, h]

theorem note_other (hc : d.state ≠ .connected) (hd : d.state ≠ .disconnected) :
    c.note d = ⟨c.answered, c.hungUp, d.state⟩ := by
  simp [note, hc, hd]

end Course

/-- The entry of a call and its course. -/
structure Followed where
  entry : JournalEntry
  course : Course
  deriving DecidableEq, Repr

namespace Followed

/-- The entry is new. -/
def start (self pid cid : Nat) (type : EntryType) (now : Int) : Followed :=
  ⟨.create self pid cid type now, .none⟩

def deliver (f : Followed) (d : Delivery) : Followed :=
  ⟨f.entry.setState d.1 d.state, f.course.note d⟩

/-- The begin is the time the call was answered, and the duration is the time from then until it
was hung up. -/
def Timed (f : Followed) : Prop :=
  f.entry.begin = f.course.answered ∧
    ∀ t₀ ∈ f.course.answered, ∀ t₁ ∈ f.course.hungUp, f.entry.durationInSec = t₁ - t₀

instance (f : Followed) : Decidable f.Timed :=
  inferInstanceAs (Decidable (_ ∧ ∀ t₀ ∈ f.course.answered, ∀ t₁ ∈ f.course.hungUp, _))

/-- A CONNECTED after the first comes in the same second, or to an incoming call right after
another CONNECTED; a DISCONNECTED after the first comes in the same second. -/
def Once (f : Followed) (d : Delivery) : Prop :=
  (d.state = .connected → ∀ t₀ ∈ f.course.answered,
    d.1 = t₀ ∨ f.entry.type = .incoming ∧ f.course.last = .connected) ∧
  (d.state = .disconnected → ∀ t₁ ∈ f.course.hungUp, d.1 = t₁)

instance (f : Followed) (d : Delivery) : Decidable (f.Once d) :=
  inferInstanceAs (Decidable ((_ → ∀ t₀ ∈ f.course.answered, _) ∧
    (_ → ∀ t₁ ∈ f.course.hungUp, _)))

/-- What holds of the entry and the course of every call. -/
structure Inv (f : Followed) : Prop where
  type : f.entry.type = .incoming ∨ f.entry.type = .outgoing
  last : f.entry.state = f.course.last
  unanswered : f.course.answered = none → f.course.last ≠ .connected ∧ f.course.hungUp = none

/-! ### One status -/

end Followed

namespace JournalEntry
variable {e : JournalEntry} (now : Int)

/-- CONNECTED sets the begin, unless an incoming call was connected already. -/
theorem setState_connected_begin (h : e.type = .incoming ∨ e.type = .outgoing) :
    (e.setState now .connected).begin =
      if e.type = .incoming ∧ e.state = .connected then e.begin else some now := by
  rcases h with h | h
  · by_cases hs : e.state = .connected <;>
      simp [setState, enterState, setDirty, h, hs, setResult, setBeginNow]
  · simp [setState, enterState, setDirty, h, setResult, setBeginNow]

theorem setState_begin {s : EntryState} (h : s ≠ .connected) :
    (e.setState now s).begin = e.begin := by
  show ((e.setDirty _).enterState now s).begin = e.begin
  simp only [enterState]
  split <;> first | rfl | exact absurd rfl h | (split <;> rfl)

/-- DISCONNECTED sets the duration of a call that has begun. -/
theorem setState_disconnected_durationInSec (h : e.type = .incoming ∨ e.type = .outgoing) :
    (e.setState now .disconnected).durationInSec =
      match e.begin with
      | some t => now - t
      | none => e.durationInSec := by
  rcases h with h | h <;> cases hb : e.begin <;>
    simp [setState, enterState, setDirty, h, hb, setEndNow]

end JournalEntry

namespace Followed
variable {f : Followed} {d : Delivery}

theorem Inv.start (self pid cid : Nat) {type : EntryType} (now : Int)
    (h : type = .incoming ∨ type = .outgoing) : (Followed.start self pid cid type now).Inv := by
  rcases h with rfl | rfl
  · exact ⟨.inl rfl, rfl, fun _ => ⟨nofun, rfl⟩⟩
  · exact ⟨.inr rfl, rfl, fun _ => ⟨nofun, rfl⟩⟩

theorem timed_start (self pid cid : Nat) (type : EntryType) (now : Int) :
    (Followed.start self pid cid type now).Timed := by
  refine ⟨?_, fun _ h => nomatch h⟩
  cases type <;> rfl

theorem Inv.deliver (h : f.Inv) (d : Delivery) : (f.deliver d).Inv := by
  refine ⟨?_, rfl, ?_⟩
  · rw [show (f.deliver d).entry.type = f.entry.type from
      (JournalEntry.enterState_frame _ d.1 d.state).2.2.1]
    exact h.type
  · show (f.course.note d).answered = none →
      (f.course.note d).last ≠ .connected ∧ (f.course.note d).hungUp = none
    by_cases hc : d.state = .connected
    · rw [Course.note_connected hc]
      intro hn
      cases ha : f.course.answered <;> rw [ha] at hn <;> cases hn
    · by_cases hd : d.state = .disconnected
      · rw [Course.note_disconnected hd]
        intro hn
        refine ⟨nofun, ?_⟩
        dsimp only at hn ⊢
        rw [hn]
        exact (h.unanswered hn).2
      · rw [Course.note_other hc hd]
        exact fun hn => ⟨hc, (h.unanswered hn).2⟩

section
variable (h : f.Inv) (ht : f.Timed)
include h ht

/-- CONNECTED: the begin is right afterwards exactly when it is the first, or comes in the second
of the first, or is not looked at. -/
theorem timed_connected_iff (hc : d.state = .connected) : (f.deliver d).Timed ↔
    ∀ t₀ ∈ f.course.answered, d.1 = t₀ ∨ f.entry.type = .incoming ∧ f.course.last = .connected := by
  obtain ⟨hb, hdur⟩ := ht
  have hbegin := JournalEntry.setState_connected_begin d.1 h.type
  have hkept := JournalEntry.setState_durationInSec f.entry d.1 .connected nofun
  simp only [Timed, Followed.deliver, Course.note_connected hc, hc, hbegin, hkept, h.last]
  cases ha : f.course.answered with
  | none =>
      -- a call that was not answered has not been connected
      simp [(h.unanswered ha).1, (h.unanswered ha).2]
  | some t₀ =>
      rw [ha] at hb hdur
      by_cases hs : f.entry.type = .incoming ∧ f.course.last = .connected
      · simpa [hs, hb] using hdur
      · simpa [hs, hb] using fun _ => hdur

/-- DISCONNECTED: the duration is right afterwards exactly when it is the first after the begin,
or comes in the second of that one. -/
theorem timed_disconnected_iff (hd : d.state = .disconnected) :
    (f.deliver d).Timed ↔ ∀ t₁ ∈ f.course.hungUp, d.1 = t₁ := by
  obtain ⟨hb, hdur⟩ := ht
  have hbegin := JournalEntry.setState_begin (e := f.entry) d.1 (s := .disconnected) nofun
  have hend := JournalEntry.setState_disconnected_durationInSec d.1 h.type
  simp only [Timed, Followed.deliver, Course.note_disconnected hd, hd, hbegin, hend, hb]
  cases ha : f.course.answered with
  | none => simp [(h.unanswered ha).2]
  | some t₀ =>
      cases hu : f.course.hungUp with
      | none => simp
      | some t₁ => simp

/-- **The times stay right over a status exactly when it meets the condition.** -/
theorem timed_deliver_iff (d : Delivery) : (f.deliver d).Timed ↔ f.Once d := by
  by_cases hc : d.state = .connected
  · rw [timed_connected_iff h ht hc, Once, hc]
    simp
  · by_cases hd : d.state = .disconnected
    · rw [timed_disconnected_iff h ht hd, Once, hd]
      simp
    · have hbegin := JournalEntry.setState_begin (e := f.entry) d.1 hc
      have hkept := JournalEntry.setState_durationInSec f.entry d.1 d.state hd
      refine iff_of_true ?_ ⟨fun e => absurd e hc, fun e => absurd e hd⟩
      rw [Timed, Followed.deliver, Course.note_other hc hd]
      dsimp only
      rw [hbegin, hkept]
      exact ht

end

/-! ### The run -/

/-- **The begin of a call is the time it was answered and its duration is the time from then until
it was hung up, after every status, exactly when each CONNECTED after the first and each
DISCONNECTED after the first one that counts comes in the same second as the first, or the
CONNECTED follows another on an incoming call.** -/
theorem timed_iff (self pid cid : Nat) {type : EntryType} (now : Int)
    (h : type = .incoming ∨ type = .outgoing) (ds : List Delivery) :
    (∀ pre post, ds = pre ++ post → (run deliver (start self pid cid type now) pre).Timed) ↔
      Along deliver Once (start self pid cid type now) ds := by
  have hinv : ∀ f d, f.Inv ∧ f.Timed → Once f d → (f.deliver d).Inv ∧ (f.deliver d).Timed :=
    fun f d hf ho => ⟨hf.1.deliver d, (timed_deliver_iff hf.1 hf.2 d).mpr ho⟩
  have ht := timed_start self pid cid type now
  rw [← along_after_iff ht]
  exact along_congr hinv (fun f d hf => timed_deliver_iff hf.1 hf.2 d)
    ⟨.start self pid cid now h, ht⟩

/-- A call that is answered, put on hold, and hung up. -/
theorem timed_iff_held : (run deliver (start 0 0 0 .outgoing 0)
    [(10, .connected), (20, .onhold), (30, .disconnected)]).Timed :=
  (timed_iff 0 0 0 0 (.inr rfl) _).mpr (by decide) _ [] (List.append_nil _).symm

/-- A call that is taken off hold begins anew, and of two DISCONNECTED the second counts. -/
theorem unhold_begins_anew :
    ¬ (run deliver (start 0 0 0 .outgoing 0)
        [(10, .connected), (20, .onhold), (30, .connected)]).Timed ∧
      ¬ (run deliver (start 0 0 0 .incoming 0)
        [(10, .connected), (20, .disconnected), (30, .disconnected)]).Timed := by
  decide

end Followed
end Cmon
