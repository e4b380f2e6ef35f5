import Cmon.Library.Run
import Cmon.Journal.Entry

/-!
# Journal — the result of an outgoing call

The statuses of a call reach its entry one by one, through `CallState2JournalState` and
`setState`.  For an outgoing call `setState` stores a result with three of the states, and looks
neither at the state before nor at the result that is there: a second dialling, or a busy tone
after the conversation, takes the result of an answered call away.

`watch` delivers a status and remembers whether one meaning connected has come.

* `resultStaysOk_iff`: the result of an answered call stays exactly as long as no later status
  means pending or busy.
-/

namespace Cmon
open Library

namespace JournalEntry

/-- A status of the provider is delivered at the time `d.1`. -/
def deliver (e : JournalEntry) (d : Int × CallStatus) : JournalEntry :=
  e.setState d.1 (callState2JournalState d.2)

/-- The status means that the call is answered. -/
def MeansConnected (d : Int × CallStatus) : Prop := callState2JournalState d.2 = .connected

/-- The status means a state with a result of its own, other than "ok". -/
def MeansNoAnswer (d : Int × CallStatus) : Prop :=
  callState2JournalState d.2 = .pending ∨ callState2JournalState d.2 = .busy

instance : DecidablePred MeansConnected := fun d =>
  decEq (callState2JournalState d.2) EntryState.connected

instance : DecidablePred MeansNoAnswer := fun _ => inferInstanceAs (Decidable (_ ∨ _))

/-- From the first status meaning connected on, the result is "ok". -/
def ResultStaysOk (e : JournalEntry) (ds : List (Int × CallStatus)) : Prop :=
  ∀ pre post, ds = pre ++ post → (∃ d ∈ pre, MeansConnected d) → (run deliver e pre).result = .ok

/-! ### One status -/

/-- The result `setState` leaves in the entry of an outgoing call. -/
theorem setState_outgoing {e : JournalEntry} (hout : e.type = .outgoing) (now : Int)
    (s : EntryState) :
    (e.setState now s).result =
      match s with
      | .pending => .notreached
      | .connected => .ok
      | .busy => .busy
      | _ => e.result := by
  have htype : (e.setDirty (e.mark e.state s)).type = .outgoing := hout
  simp only [setState, enterState, htype]
  cases s with
  | disconnected => by_cases h : (e.setDirty (e.mark e.state .disconnected)).begin.isSome
                      <;> simp only [h, if_true] <;> rfl
  | _ => rfl

/-! ### A call -/

/-- The entry, and whether the call has been answered. -/
abbrev Watched := Bool × JournalEntry

def watch (q : Watched) (d : Int × CallStatus) : Watched :=
  (q.1 || decide (MeansConnected d), q.2.deliver d)

theorem run_watch (b : Bool) (e : JournalEntry) (ds : List (Int × CallStatus)) :
    run watch (b, e) ds = (b || ds.any fun d => decide (MeansConnected d), run deliver e ds) := by
  induction ds generalizing b e with
  | nil => simp
  | cons d ds ih => rw [run_cons, watch, ih, List.any_cons, Bool.or_assoc, run_cons]

/-- An answered call has the result "ok". -/
def OkIfAnswered (q : Watched) : Prop := q.1 = true → q.2.result = .ok

/-- A status keeps it exactly if it does not come after the answer and mean no answer. -/
theorem okIfAnswered_watch {q : Watched} (hout : q.2.type = .outgoing) (h : OkIfAnswered q)
    (d : Int × CallStatus) : OkIfAnswered (watch q d) ↔ (q.1 = true → ¬ MeansNoAnswer d) := by
  simp only [OkIfAnswered, watch, deliver, setState_outgoing hout, Bool.or_eq_true,
    decide_eq_true_eq]
  simp only [MeansConnected, MeansNoAnswer]
  cases callState2JournalState d.2 with
  | pending | busy => simp
  | connected => simp
  | unknown | disconnected | onhold => simpa [OkIfAnswered] using h

/-- **The result of an answered call.**  It stays as long as no status means pending or busy. -/
theorem resultStaysOk_iff {e : JournalEntry} (hout : e.type = .outgoing)
    (ds : List (Int × CallStatus)) :
    ResultStaysOk e ds ↔
      ∀ pre d post, ds = pre ++ d :: post → (∃ c ∈ pre, MeansConnected c) → ¬ MeansNoAnswer d := by
  have hstart : OkIfAnswered (false, e) := fun h => nomatch h
  calc ResultStaysOk e ds
      ↔ ∀ pre post, ds = pre ++ post → OkIfAnswered (run watch (false, e) pre) := by
        simp [ResultStaysOk, OkIfAnswered, run_watch]
    _ ↔ Along watch (fun q d => OkIfAnswered (watch q d)) (false, e) ds :=
        (along_after_iff hstart).symm
    _ ↔ Along watch (fun q d => q.1 = true → ¬ MeansNoAnswer d) (false, e) ds := by
        refine along_congr (I := fun q => q.2.type = .outgoing ∧ OkIfAnswered q) ?_ ?_
          ⟨hout, hstart⟩
        · rintro q d ⟨ht, hq⟩ hd
          exact ⟨(setState_type _ _ _).trans ht, (okIfAnswered_watch ht hq d).mpr hd⟩
        · rintro q d ⟨ht, hq⟩
          exact okIfAnswered_watch ht hq d
    _ ↔ _ := by simp [along_iff, run_watch]

/-- An answered call that is held and then ended. -/
theorem resultStaysOk_held :
    ResultStaysOk (create 0 1 1 .outgoing 0)
      [(1, .connected), (9, .onhold), (20, .connected), (60, .disconnected)] := by
  have hnone : ∀ d ∈ [((1 : Int), CallStatus.connected), (9, .onhold), (20, .connected),
      (60, .disconnected)], ¬ MeansNoAnswer d := by decide
  refine (resultStaysOk_iff rfl _).mpr fun pre d post h _ => hnone d ?_
  exact h ▸ List.mem_append_right _ (List.mem_cons_self ..)

/-- A conversation of a minute that ends with a busy tone is stored as busy. -/
theorem busy_after_answer :
    (create 0 1 1 .outgoing 0).type = .outgoing ∧
      ¬ ResultStaysOk (create 0 1 1 .outgoing 0) [(5, .connected), (65, .busy)] :=
  ⟨rfl, fun h => nomatch h [(5, .connected), (65, .busy)] [] rfl ⟨(5, .connected), by simp, rfl⟩⟩

end JournalEntry
end Cmon
