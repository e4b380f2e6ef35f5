import Mathlib.Logic.Function.Basic

/-!
# Library — sections of a store

A store in which several parts of a program keep their data, each with a `save` and a `load` of its
own.  A part's data come back when they are `Good`, and the other parts are left alone.

* `Sections.Lawful.loads_save`: on what is loaded, a save replaces the data of its part.
-/

namespace Cmon.Library

/-- Parts `i` with data `σ i`, in a store `τ`. -/
structure Sections (ι τ : Type*) (σ : ι → Type*) where
  save : ∀ i, σ i → τ → τ
  load : ∀ i, τ → σ i

namespace Sections
variable {ι τ : Type*} {σ : ι → Type*} {S : Sections ι τ σ} {Good : ∀ i, σ i → Prop}

/-- All the parts. -/
def loads (S : Sections ι τ σ) (t : τ) : ∀ i, σ i := fun i => S.load i t

/-- Good data are restored, and no part touches another. -/
structure Lawful (S : Sections ι τ σ) (Good : ∀ i, σ i → Prop) : Prop where
  restored : ∀ i v t, Good i v → S.load i (S.save i v t) = v
  apart : ∀ i j v t, j ≠ i → S.load j (S.save i v t) = S.load j t

/-- **A save replaces the data of its part.** -/
theorem Lawful.loads_save [DecidableEq ι] (h : S.Lawful Good) {i : ι} {v : σ i} (hv : Good i v)
    (t : τ) : S.loads (S.save i v t) = Function.update (S.loads t) i v := by
  funext j
  by_cases hj : j = i
  · subst hj
    rw [Function.update_self]
    exact h.restored j v t hv
  · rw [Function.update_of_ne hj]
    exact h.apart i j v t hj

end Sections

end Cmon.Library
