import Cmon.Library.Run

/-!
# Library — refinement by an abstraction function

A machine `step` over `σ` refines a machine `apply` over `τ` when `abs` takes each of its states to
a state of `apply`, and each of its steps to a sequence of operations, `ops s a`, none of them
outside of what `Allows` permits.

`Refines.run` is the refinement of runs: a run of `step` whose steps meet `Ok` goes, by `abs`, to
the run of its operations (`trace`), and each of these is allowed where it is done.
-/

namespace Cmon.Library

variable {σ τ α β : Type*} {step : σ → α → σ} {apply : τ → β → τ} {abs : σ → τ}
  {ops : σ → α → List β} {I : σ → Prop} {Ok : σ → α → Prop} {Allows : τ → β → Prop}

/-- The operations of a run. -/
def trace (step : σ → α → σ) (ops : σ → α → List β) : σ → List α → List β
  | _, [] => []
  | s, a :: as => ops s a ++ trace step ops (step s a) as

/-- Under `Ok`, a step keeps the invariant and is, by `abs`, its operations. -/
structure Refines (step : σ → α → σ) (Ok : σ → α → Prop) (I : σ → Prop) (abs : σ → τ)
    (ops : σ → α → List β) (apply : τ → β → τ) (Allows : τ → β → Prop) : Prop where
  inv : ∀ s a, I s → Ok s a → I (step s a)
  allowed : ∀ s a, I s → Ok s a → Along apply Allows (abs s) (ops s a)
  sim : ∀ s a, I s → Ok s a → abs (step s a) = run apply (abs s) (ops s a)

/-- **The refinement of runs.** -/
theorem Refines.run (h : Refines step Ok I abs ops apply Allows) {s : σ} {as : List α} (hs : I s)
    (ha : Along step Ok s as) :
    I (run step s as) ∧ Along apply Allows (abs s) (trace step ops s as) ∧
      abs (run step s as) = run apply (abs s) (trace step ops s as) := by
  induction as generalizing s with
  | nil => exact ⟨hs, trivial, rfl⟩
  | cons a as ih =>
      obtain ⟨hok, hrest⟩ := ha
      obtain ⟨hinv, hallowed, hsim⟩ := ih (h.inv s a hs hok) hrest
      rw [h.sim s a hs hok] at hallowed hsim
      refine ⟨hinv, along_append.mpr ⟨h.allowed s a hs hok, hallowed⟩, ?_⟩
      rw [trace, run_append]
      exact hsim

end Cmon.Library
