import Cmon.Library.Run
import Cmon.Library.Table

/-!
# Library — keys from a counter, along a run

A table takes its keys from a counter that is stored beside it.  `Table.Counted` is what holds of
one state; `Table.Grows` is what one change does: of the keys that were there some are left, in
their order, and behind them stand new ones, none of them below the counter of before.

`Table.NeverReused` says of a run that the keys are unique and below the counter at any time, that
the counter is never turned back, and that a key that is handed out has not been one of the table
at any earlier time.

* `neverReused`: an invariant under which each step is a `Grows` gives `NeverReused`.
-/

namespace Cmon.Library.Table

/-- From the counter `next` and the keys `ks` to `next'` and `ks'`. -/
structure Grows (next : Int) (ks : List Int) (next' : Int) (ks' : List Int) : Prop where
  le : next ≤ next'
  split : ∃ kept new, ks' = kept ++ new ∧ kept.Sublist ks ∧ ∀ k ∈ new, next ≤ k

namespace Grows
variable {next next' next'' : Int} {ks ks' ks'' : List Int}

theorem of_sublist (h : next ≤ next') (hs : ks'.Sublist ks) : Grows next ks next' ks' :=
  ⟨h, ks', [], (List.append_nil _).symm, hs, fun _ h => nomatch h⟩

theorem refl (next : Int) (ks : List Int) : Grows next ks next ks :=
  of_sublist (Int.le_refl _) (.refl _)

theorem append {k : Int} (h : next ≤ next') (hk : next ≤ k) : Grows next ks next' (ks ++ [k]) :=
  ⟨h, ks, [k], rfl, .refl _, fun _ hm => (List.mem_singleton.mp hm) ▸ hk⟩

theorem trans (h : Grows next ks next' ks') (h' : Grows next' ks' next'' ks'') :
    Grows next ks next'' ks'' := by
  obtain ⟨kept, new, rfl, hkept, hnew⟩ := h.split
  obtain ⟨kept', new', rfl, hkept', hnew'⟩ := h'.split
  -- what is left of `kept ++ new`, from either part
  obtain ⟨a, b, rfl, ha, hb⟩ := List.sublist_append_iff.mp hkept'
  refine ⟨Int.le_trans h.le h'.le, a, b ++ new', List.append_assoc .., ha.trans hkept, ?_⟩
  intro k hk
  rcases List.mem_append.mp hk with hk | hk
  · exact hnew k (hb.subset hk)
  · exact Int.le_trans h.le (hnew' k hk)

end Grows

section
variable {σ α : Type*} {step : σ → α → σ} {next : σ → Int} {keys : σ → List Int} {I : σ → Prop}
variable {s : σ} {as : List α}

/-- Along the run no key is handed out twice. -/
structure NeverReused (step : σ → α → σ) (next : σ → Int) (keys : σ → List Int) (s : σ)
    (as : List α) : Prop where
  nodup : ∀ pre post, as = pre ++ post → (keys (run step s pre)).Nodup
  below : ∀ pre post, as = pre ++ post → ∀ k ∈ keys (run step s pre), k < next (run step s pre)
  mono : ∀ pre a post, as = pre ++ a :: post →
    next (run step s pre) ≤ next (step (run step s pre) a)
  fresh : ∀ pre a post, as = pre ++ a :: post →
    ∃ kept new, keys (step (run step s pre) a) = kept ++ new ∧
      kept.Sublist (keys (run step s pre)) ∧
        ∀ pre' mid, pre = pre' ++ mid → ∀ k ∈ keys (run step s pre'), k ∉ new

/-- The counter of a run is not turned back. -/
theorem next_le_run (hI : ∀ s a, I s → I (step s a))
    (hg : ∀ s a, I s → next s ≤ next (step s a)) (hs : I s) (as : List α) :
    next s ≤ next (run step s as) := by
  induction as generalizing s with
  | nil => exact Int.le_refl _
  | cons a as ih => exact Int.le_trans (hg s a hs) (ih (hI s a hs))

/-- **A counter that every step respects hands out no key twice.** -/
theorem neverReused (hI : ∀ s a, I s → I (step s a))
    (hc : ∀ s, I s → (keys s).Nodup ∧ ∀ k ∈ keys s, k < next s)
    (hg : ∀ s a, I s → Grows (next s) (keys s) (next (step s a)) (keys (step s a))) (hs : I s)
    (as : List α) : NeverReused step next keys s as where
  nodup pre _ _ := (hc _ (run_inv hI hs pre)).1
  below pre _ _ := (hc _ (run_inv hI hs pre)).2
  mono pre a _ _ := (hg _ a (run_inv hI hs pre)).le
  fresh pre a _ _ := by
    obtain ⟨kept, new, hkeys, hkept, hnew⟩ := (hg _ a (run_inv hI hs pre)).split
    refine ⟨kept, new, hkeys, hkept, ?_⟩
    rintro pre' mid rfl k hk hmem
    have hI' := run_inv hI hs pre'
    have hlt := (hc _ hI').2 k hk
    have hle := next_le_run hI (fun s a h => (hg s a h).le) hI' mid
    rw [← run_append] at hle
    exact absurd (hnew k hmem) (Int.not_le.mpr (Int.lt_of_lt_of_le hlt hle))

end
end Cmon.Library.Table
