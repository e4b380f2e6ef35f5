import Mathlib.Data.List.Basic

/-!
# Library — runs of a step function

A system is a step function `step : σ → α → σ`; a run is a list of steps, and `run step s as` is
the state it ends in.  `Along step P s as` says that each step of the run is taken in a state
in which `P` holds of the state and the step.

`Along.inv` is the induction over runs: an invariant that a step meeting `P` preserves holds in
the state a run meeting `P` ends in.  `along_iff` reads `Along` off the splits of the run, and
`Along.mono` changes `P` under an invariant.
-/

namespace Cmon.Library
variable {σ α : Type*} {step : σ → α → σ} {P Q : σ → α → Prop} {I : σ → Prop}

/-- The state after the steps `as`. -/
def run (step : σ → α → σ) : σ → List α → σ
  | s, [] => s
  | s, a :: as => run step (step s a) as

@[simp] theorem run_nil (s : σ) : run step s [] = s := rfl

@[simp] theorem run_cons (s : σ) (a : α) (as : List α) :
    run step s (a :: as) = run step (step s a) as := rfl

theorem run_append (s : σ) (as bs : List α) :
    run step s (as ++ bs) = run step (run step s as) bs := by
  induction as generalizing s with
  | nil => rfl
  | cons a as ih => exact ih (step s a)

/-- Every step of the run is taken in a state where `P` holds of the state and the step. -/
def Along (step : σ → α → σ) (P : σ → α → Prop) : σ → List α → Prop
  | _, [] => True
  | s, a :: as => P s a ∧ Along step P (step s a) as

instance Along.decidable [∀ s a, Decidable (P s a)] :
    ∀ (s : σ) (as : List α), Decidable (Along step P s as)
  | _, [] => isTrue trivial
  | s, a :: as => @instDecidableAnd _ _ _ (Along.decidable (step s a) as)

theorem along_append {s : σ} {as bs : List α} :
    Along step P s (as ++ bs) ↔ Along step P s as ∧ Along step P (run step s as) bs := by
  induction as generalizing s with
  | nil => simp [Along]
  | cons a as ih => simp [Along, ih, and_assoc]

/-- A condition on the steps alone. -/
theorem along_of_forall {R : α → Prop} {s : σ} {as : List α} (h : ∀ a ∈ as, R a) :
    Along step (fun _ a => R a) s as := by
  induction as generalizing s with
  | nil => trivial
  | cons a as ih => exact ⟨h a (.head _), ih fun b hb => h b (.tail _ hb)⟩

/-- `P` along a run is `P` at each of its splits. -/
theorem along_iff {s : σ} {as : List α} :
    Along step P s as ↔ ∀ pre a post, as = pre ++ a :: post → P (run step s pre) a := by
  constructor
  · rintro h pre a post rfl
    exact (along_append.mp h).2.1
  · intro h
    induction as generalizing s with
    | nil => trivial
    | cons a as ih =>
        refine ⟨h [] a as rfl, ih fun pre b post e => ?_⟩
        subst e
        exact h (a :: pre) b post rfl

/-- What holds at the start holds after every prefix of the run if it holds after every step. -/
theorem along_after_iff {S : σ → Prop} {s : σ} (hs : S s) {as : List α} :
    Along step (fun s a => S (step s a)) s as ↔
      ∀ pre post, as = pre ++ post → S (run step s pre) := by
  rw [along_iff]
  constructor
  · intro h pre post e
    -- the last step of the prefix, if there is one
    rcases pre.eq_nil_or_concat with rfl | ⟨pre, a, rfl⟩
    · exact hs
    · rw [List.concat_eq_append] at e ⊢
      rw [run_append]
      exact h pre a post (by simp [e])
  · intro h pre a post e
    have hpre := h (pre ++ [a]) post (by simp [e])
    rwa [run_append] at hpre

/-- **The induction over runs.** -/
theorem Along.inv (hI : ∀ s a, I s → P s a → I (step s a)) {s : σ} {as : List α} (h : I s)
    (hP : Along step P s as) : I (run step s as) := by
  induction as generalizing s with
  | nil => exact h
  | cons a as ih => exact ih (hI s a h hP.1) hP.2

/-- An invariant of every step. -/
theorem run_inv (hI : ∀ s a, I s → I (step s a)) {s : σ} (h : I s) (as : List α) :
    I (run step s as) := by
  induction as generalizing s with
  | nil => exact h
  | cons a as ih => exact ih (hI s a h)

/-- Under an invariant that `Q` keeps, conditions that agree step by step agree along runs. -/
theorem along_congr (hI : ∀ s a, I s → Q s a → I (step s a)) (h : ∀ s a, I s → (P s a ↔ Q s a))
    {s : σ} {as : List α} (hs : I s) : Along step P s as ↔ Along step Q s as := by
  induction as generalizing s with
  | nil => exact Iff.rfl
  | cons a as ih =>
      refine (and_congr_left' (h s a hs)).trans ?_
      exact and_congr_right fun hq => ih (hI s a hs hq)

/-- Under an invariant that `P` keeps, `P` along a run gives `Q` along it. -/
theorem Along.mono (hI : ∀ s a, I s → P s a → I (step s a)) (hQ : ∀ s a, I s → P s a → Q s a)
    {s : σ} {as : List α} (h : I s) (hP : Along step P s as) : Along step Q s as := by
  induction as generalizing s with
  | nil => trivial
  | cons a as ih => exact ⟨hQ s a h hP.1, ih (hI s a h hP.1) hP.2⟩

/-- Two step functions that agree under an invariant, where `P` holds, have the same runs. -/
theorem Along.run_eq {step' : σ → α → σ} (hI : ∀ s a, I s → P s a → I (step s a))
    (he : ∀ s a, I s → P s a → step' s a = step s a) {s : σ} {as : List α} (h : I s)
    (hP : Along step P s as) : run step' s as = run step s as := by
  induction as generalizing s with
  | nil => rfl
  | cons a as ih => rw [run_cons, run_cons, he s a h hP.1, ih (hI s a h hP.1) hP.2]

end Cmon.Library
