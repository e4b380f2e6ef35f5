import Mathlib.Data.List.Infix

/-!
# Library — replacements in a text

Words of a text are replaced, one word after the other (`replaceAll`) or all in one pass
(`substitute`).  The words of a table are *marked* when each begins with a mark that no word has
elsewhere, and no character that is put in place of a word is in one.

* `foldl_replaceAll`: for a marked table the passes one after the other are the single one.
* `substitute_eq_self_iff`: a text stays as it is when no word occurs in it.
* `substitute_written`: of a text in which some characters are written as their words, the single
  pass makes what it makes of the text itself.
* `Written.replaceAll`: a pass for the mark's own word, before the others, leaves such a text.
-/

namespace Cmon.Library.Replacement

variable {α : Type} [DecidableEq α]

/-- A word, and the character that is put in its place. -/
abbrev Entry (α : Type) := List α × α

/-! ### The passes -/

/-- `replaceAll`, behind the next `n` characters. -/
def replaceFrom (old new : List α) : Nat → List α → List α
  | _, [] => []
  | n + 1, _ :: t => replaceFrom old new n t
  | 0, a :: t =>
      if old <+: a :: t then new ++ replaceFrom old new (old.length - 1) t
      else a :: replaceFrom old new 0 t

/-- Each occurrence of a word, from the left, is replaced; what is put in its place is not looked
at again. -/
def replaceAll (old new : List α) (t : List α) : List α :=
  if old = [] then t else replaceFrom old new 0 t

/-- `substitute`, behind the next `n` characters. -/
def substituteFrom (table : List (Entry α)) : Nat → List α → List α
  | _, [] => []
  | n + 1, _ :: t => substituteFrom table n t
  | 0, a :: t =>
      match table.find? fun e => e.1 <+: a :: t with
      | some e => e.2 :: substituteFrom table (e.1.length - 1) t
      | none => a :: substituteFrom table 0 t

/-- Wherever a word of the table stands, it is replaced. -/
def substitute (table : List (Entry α)) (t : List α) : List α := substituteFrom table 0 t

variable {table : List (Entry α)} {e : Entry α} {a mark : α} {s t v : List α}

theorem substituteFrom_eq (table : List (Entry α)) (n : Nat) (t : List α) :
    substituteFrom table n t = substitute table (t.drop n) := by
  induction t generalizing n with
  | nil => cases n <;> rfl
  | cons a t ih =>
      cases n with
      | zero => rfl
      | succ n => exact ih n

/-- The word that stands at the beginning of a text. -/
def wordAt (table : List (Entry α)) (t : List α) : Option (Entry α) :=
  table.find? fun e => e.1 <+: t

theorem substitute_word (hne : e.1 ≠ []) (h : wordAt table (e.1 ++ t) = some e) :
    substitute table (e.1 ++ t) = e.2 :: substitute table t := by
  obtain ⟨w, x⟩ := e
  cases w with
  | nil => exact absurd rfl hne
  | cons a w =>
      rw [wordAt] at h
      simp only [List.cons_append] at h
      simp only [List.cons_append, substitute, substituteFrom, h]
      rw [substituteFrom_eq, List.length_cons, Nat.add_sub_cancel, List.drop_left]
      rfl

theorem substitute_other (h : wordAt table (a :: t) = none) :
    substitute table (a :: t) = a :: substitute table t := by
  rw [wordAt] at h
  simp only [substitute, substituteFrom, h]

theorem wordAt_eq_none : wordAt table t = none ↔ ∀ e ∈ table, ¬ e.1 <+: t := by
  simp [wordAt]

theorem wordAt_singleton_eq_none : wordAt [e] t = none ↔ ¬ e.1 <+: t :=
  wordAt_eq_none.trans List.forall_mem_singleton

theorem wordAt_singleton (e : Entry α) (t : List α) : wordAt [e] (e.1 ++ t) = some e := by
  rw [wordAt, List.find?_singleton, if_pos (decide_eq_true (List.prefix_append _ _))]

/-- A word that stands at the beginning is one of the table. -/
theorem of_wordAt (h : wordAt table t = some e) : e ∈ table ∧ ∃ rest, t = e.1 ++ rest := by
  obtain ⟨rest, hrest⟩ := of_decide_eq_true (List.find?_some h :)
  exact ⟨List.mem_of_find?_eq_some h, rest, hrest.symm⟩

/-- A text is read word by word, and character by character where no word stands. -/
theorem wordInduction {P : List α → Prop} (hne : ∀ e ∈ table, e.1 ≠ []) (nil : P [])
    (word : ∀ e ∈ table, ∀ t, wordAt table (e.1 ++ t) = some e → P t → P (e.1 ++ t))
    (other : ∀ a t, wordAt table (a :: t) = none → P t → P (a :: t)) (t : List α) : P t := by
  induction hn : t.length using Nat.strong_induction_on generalizing t with
  | _ n ih =>
      cases t with
      | nil => exact nil
      | cons a t =>
          cases h : wordAt table (a :: t) with
          | none =>
              rw [List.length_cons] at hn
              exact other a t h (ih t.length (by omega) t rfl)
          | some e =>
              obtain ⟨he, rest, heq⟩ := of_wordAt h
              have hlen := congrArg List.length heq
              rw [hn, List.length_append] at hlen
              have hpos := List.length_pos_iff.mpr (hne e he)
              rw [heq] at h ⊢
              exact word e he rest h (ih rest.length (by omega) rest rfl)

theorem replaceAll_eq (hne : e.1 ≠ []) (t : List α) :
    replaceAll e.1 [e.2] t = substitute [e] t := by
  rw [replaceAll, if_neg hne]
  have hfrom : ∀ n, replaceFrom e.1 [e.2] n t = substituteFrom [e] n t := by
    induction t with
    | nil => exact fun n => by cases n <;> rfl
    | cons a t ih =>
        intro n
        cases n with
        | succ n => exact ih n
        | zero =>
            rw [replaceFrom, substituteFrom, List.find?_singleton]
            by_cases h : e.1 <+: a :: t
            · simp only [h, if_true, decide_true, ih, List.singleton_append]
            · simp only [h, if_false, decide_false, Bool.false_eq_true, ih]
  exact hfrom 0

/-! ### Marked tables -/

/-- Each word begins with the mark, which is not in it elsewhere. -/
def Starts (mark : α) (table : List (Entry α)) : Prop :=
  ∀ e ∈ table, ∃ v, e.1 = mark :: v ∧ mark ∉ v

/-- No character that is put in a word's place is in a word either. -/
structure Marked (mark : α) (table : List (Entry α)) : Prop where
  starts : Starts mark table
  apart : ∀ e ∈ table, ∀ f ∈ table, e.2 ∉ f.1

/-- No word is the beginning of another. -/
def PrefixFree (table : List (Entry α)) : Prop :=
  ∀ e ∈ table, ∀ f ∈ table, e.1 <+: f.1 → e = f

omit [DecidableEq α] in
theorem Starts.ne_nil (h : Starts mark table) : ∀ e ∈ table, e.1 ≠ [] := by
  intro e he
  obtain ⟨v, hv, -⟩ := h e he
  rw [hv]
  exact List.cons_ne_nil _ _

omit [DecidableEq α] in
theorem Marked.put_ne (h : Marked mark table) (he : e ∈ table) : e.2 ≠ mark := by
  obtain ⟨v, hv, -⟩ := h.starts e he
  intro heq
  refine h.apart e he e he ?_
  rw [hv, heq]
  exact List.mem_cons_self

omit [DecidableEq α] in
theorem Marked.mono {table' : List (Entry α)} (h : Marked mark table) (hsub : table' ⊆ table) :
    Marked mark table' :=
  ⟨fun e he => h.starts e (hsub he), fun e he f hf => h.apart e (hsub he) f (hsub hf)⟩

omit [DecidableEq α] in
theorem PrefixFree.mono {table' : List (Entry α)} (h : PrefixFree table) (hsub : table' ⊆ table) :
    PrefixFree table' :=
  fun e he f hf => h e (hsub he) f (hsub hf)

/-- A word is read where it stands. -/
theorem PrefixFree.wordAt_append (h : PrefixFree table) (he : e ∈ table) (t : List α) :
    wordAt table (e.1 ++ t) = some e := by
  cases hword : wordAt table (e.1 ++ t) with
  | none => exact absurd (List.prefix_append _ _) (wordAt_eq_none.mp hword e he)
  | some f =>
      obtain ⟨hf, rest, heq⟩ := of_wordAt hword
      have hpre : f.1 <+: e.1 ++ t := ⟨rest, heq.symm⟩
      rcases List.prefix_or_prefix_of_prefix hpre (List.prefix_append e.1 t) with hle | hle
      · rw [h f hf e he hle]
      · rw [h e he f hf hle]

theorem Starts.wordAt_cons (h : Starts mark table) (ha : a ≠ mark) :
    wordAt table (a :: t) = none := by
  refine wordAt_eq_none.mpr fun e he hpre => ?_
  obtain ⟨v, hv, -⟩ := h e he
  rw [hv, List.cons_prefix_cons] at hpre
  exact ha hpre.1.symm

/-- What has no mark is copied. -/
theorem Starts.substitute_append (h : Starts mark table) (hv : mark ∉ v) :
    substitute table (v ++ t) = v ++ substitute table t := by
  induction v with
  | nil => rfl
  | cons a v ih =>
      obtain ⟨ha, hv⟩ := List.ne_and_not_mem_of_not_mem_cons hv
      rw [List.cons_append, substitute_other (h.wordAt_cons ha.symm), ih hv, List.cons_append]

/-- A marked word is copied where no word of the table stands. -/
theorem Starts.substitute_copied (h : Starts mark table) (hv : mark ∉ v)
    (hnone : wordAt table (mark :: v ++ t) = none) :
    substitute table (mark :: v ++ t) = mark :: v ++ substitute table t := by
  rw [List.cons_append] at hnone ⊢
  rw [substitute_other hnone, h.substitute_append hv, List.cons_append]

/-- What has no mark, and no character that is put in a word's place, stands at the beginning of
the result when it stands at the beginning of the text. -/
theorem Marked.prefix_substitute_iff (h : Marked mark table) (hv : mark ∉ v)
    (hout : ∀ e ∈ table, e.2 ∉ v) : v <+: substitute table t ↔ v <+: t := by
  constructor
  · intro hpre
    induction v generalizing t with
    | nil => exact List.nil_prefix
    | cons a v ih =>
        obtain ⟨ha, hv⟩ := List.ne_and_not_mem_of_not_mem_cons hv
        cases t with
        | nil => exact hpre
        | cons b t =>
            cases hb : wordAt table (b :: t) with
            | none =>
                rw [substitute_other hb, List.cons_prefix_cons] at hpre
                refine List.cons_prefix_cons.mpr ⟨hpre.1, ih hv (fun e he hmem => ?_) hpre.2⟩
                exact hout e he (List.mem_cons_of_mem a hmem)
            | some e =>
                -- the first character would be one that was put in
                obtain ⟨he, rest, heq⟩ := of_wordAt hb
                rw [heq] at hb hpre
                rw [substitute_word (h.starts.ne_nil e he) hb, List.cons_prefix_cons] at hpre
                exact absurd (hpre.1 ▸ List.mem_cons_self) (hout e he)
  · rintro ⟨rest, rfl⟩
    rw [h.starts.substitute_append hv]
    exact List.prefix_append _ _

theorem wordAt_concat (e : Entry α) (h : wordAt table t = none) :
    wordAt (table ++ [e]) t = if e.1 <+: t then some e else none := by
  rw [wordAt, List.find?_append, ← wordAt, h, Option.none_or, List.find?_singleton]
  simp only [decide_eq_true_eq]

theorem wordAt_concat_of_some {f : Entry α} (e : Entry α) (h : wordAt table t = some f) :
    wordAt (table ++ [e]) t = some f := by
  rw [wordAt, List.find?_append, ← wordAt, h, Option.some_or]

/-- A pass for one more word. -/
theorem Marked.substitute_concat (h : Marked mark (table ++ [e])) (t : List α) :
    substitute [e] (substitute table t) = substitute (table ++ [e]) t := by
  have htable : Marked mark table := h.mono (List.subset_append_left _ _)
  have hone : Marked mark [e] := h.mono (List.subset_append_right _ _)
  have he : e ∈ table ++ [e] := List.mem_append_right _ (List.mem_singleton_self e)
  obtain ⟨v, hv, hmark⟩ := h.starts e he
  induction t using wordInduction h.starts.ne_nil with
  | nil => rfl
  | word f hf t hword ih =>
      cases hold : wordAt table (f.1 ++ t) with
      | some g =>
          obtain rfl : g = f :=
            Option.some.inj ((wordAt_concat_of_some e hold).symm.trans hword)
          have hne := h.starts.ne_nil g hf
          rw [substitute_word hne hword, substitute_word hne hold,
            substitute_other (hone.starts.wordAt_cons (h.put_ne hf)), ih]
      | none =>
          -- the word is the new one
          rw [wordAt_concat e hold] at hword
          split_ifs at hword
          obtain rfl := Option.some.inj hword
          have hcopy : substitute table (e.1 ++ t) = e.1 ++ substitute table t := by
            rw [hv] at hold ⊢
            exact htable.starts.substitute_copied hmark hold
          have hconcat : wordAt (table ++ [e]) (e.1 ++ t) = some e := by
            rw [wordAt_concat e hold, if_pos (List.prefix_append _ _)]
          rw [hcopy, substitute_word (h.starts.ne_nil e he) (wordAt_singleton e _),
            substitute_word (h.starts.ne_nil e he) hconcat, ih]
  | other a t hword ih =>
      have hnone : ∀ f ∈ table ++ [e], ¬ f.1 <+: a :: t := wordAt_eq_none.mp hword
      have hold : wordAt table (a :: t) = none :=
        wordAt_eq_none.mpr fun f hf => hnone f (List.mem_append_left _ hf)
      have hnew : wordAt [e] (a :: substitute table t) = none := by
        refine wordAt_singleton_eq_none.mpr fun hpre => ?_
        rw [hv, List.cons_prefix_cons, htable.prefix_substitute_iff hmark fun g hg hmem => ?_]
          at hpre
        · refine hnone e he ?_
          rw [hv]
          exact List.cons_prefix_cons.mpr hpre
        · refine h.apart g (List.mem_append_left _ hg) e he ?_
          rw [hv]
          exact List.mem_cons_of_mem _ hmem
      rw [substitute_other hword, substitute_other hold, substitute_other hnew, ih]

/-- **The passes one after the other are the single one.** -/
theorem foldl_replaceAll (h : Marked mark table) (t : List α) :
    table.foldl (fun t e => replaceAll e.1 [e.2] t) t = substitute table t := by
  induction table using List.reverseRecOn with
  | nil =>
      refine (List.recOn t rfl fun a t ih => ?_ : t = substitute [] t)
      rw [substitute_other rfl, ← ih]
  | append_singleton table e ih =>
      have he : e.1 ≠ [] := h.starts.ne_nil e (List.mem_append_right _ (List.mem_singleton_self e))
      rw [List.foldl_append, ih (h.mono (List.subset_append_left _ _)), List.foldl_cons,
        List.foldl_nil, replaceAll_eq he, h.substitute_concat]

/-! ### Texts that stay as they are -/

/-- **A text stays as it is** when no word occurs in it, each being longer than a character. -/
theorem substitute_eq_self_iff (hlong : ∀ e ∈ table, 1 < e.1.length) (t : List α) :
    substitute table t = t ↔ ∀ e ∈ table, ¬ e.1 <:+: t := by
  have hne : ∀ e ∈ table, e.1 ≠ [] := fun e he =>
    List.length_pos_iff.mp (Nat.lt_of_succ_lt (hlong e he))
  have hle : ∀ t, (substitute table t).length ≤ t.length := by
    intro t
    induction t using wordInduction hne with
    | nil => exact Nat.le_refl _
    | word e he t hword ih =>
        rw [substitute_word (hne e he) hword, List.length_cons, List.length_append]
        have hlt := hlong e he
        omega
    | other a t hword ih =>
        rw [substitute_other hword, List.length_cons, List.length_cons]
        omega
  induction t using wordInduction hne with
  | nil =>
      exact iff_of_true rfl fun e he hin => hne e he (List.eq_nil_of_infix_nil hin)
  | word e he t hword ih =>
      refine iff_of_false (fun heq => ?_) fun hall => hall e he (List.infix_append [] e.1 t)
      rw [substitute_word (hne e he) hword] at heq
      have hlen := congrArg List.length heq
      rw [List.length_cons, List.length_append] at hlen
      have hlt := hlong e he
      have hrest := hle t
      omega
  | other a t hword ih =>
      rw [substitute_other hword, List.cons_inj_right]
      refine ih.trans (forall₂_congr fun e he => not_congr ?_)
      rw [List.infix_cons_iff]
      exact (or_iff_right (wordAt_eq_none.mp hword e he)).symm

/-! ### Characters written as their words -/

/-- From `s` to `t` each character is copied, if it may be, or written as a word for it. -/
inductive Written (plain : α → Prop) (table : List (Entry α)) : List α → List α → Prop
  | nil : Written plain table [] []
  | copy {a : α} {s t : List α} (ha : plain a) (h : Written plain table s t) :
      Written plain table (a :: s) (a :: t)
  | word {e : Entry α} {s t : List α} (he : e ∈ table) (h : Written plain table s t) :
      Written plain table (e.2 :: s) (e.1 ++ t)

variable {plain : α → Prop} {words : List (Entry α)}

omit [DecidableEq α] in
/-- What has no mark, and no character that may be written as a word, begins both texts or none. -/
theorem Written.split (h : Written plain words s t) (hwords : Marked mark words) (hv : mark ∉ v)
    (hout : ∀ e ∈ words, e.2 ∉ v) (hpre : v <+: s ∨ v <+: t) :
    ∃ s' t', s = v ++ s' ∧ t = v ++ t' ∧ Written plain words s' t' := by
  induction v generalizing s t with
  | nil => exact ⟨s, t, rfl, rfl, h⟩
  | cons a v ih =>
      obtain ⟨ha, hv⟩ := List.ne_and_not_mem_of_not_mem_cons hv
      cases h with
      | nil => exact absurd (hpre.elim id id) (by simp)
      | @copy b s t hb h =>
          simp only [List.cons_prefix_cons] at hpre
          obtain rfl : a = b := hpre.elim (·.1) (·.1)
          obtain ⟨s', t', rfl, rfl, hrest⟩ := ih h hv
            (fun e he hmem => hout e he (List.mem_cons_of_mem a hmem)) (hpre.imp (·.2) (·.2))
          exact ⟨s', t', rfl, rfl, hrest⟩
      | @word e s t he h =>
          -- one text begins with a character that may be written as a word, the other with a mark
          exfalso
          obtain ⟨w, hw, -⟩ := hwords.starts e he
          rw [hw, List.cons_append, List.cons_prefix_cons, List.cons_prefix_cons] at hpre
          rcases hpre with hpre | hpre
          · exact hout e he (hpre.1 ▸ List.mem_cons_self)
          · exact ha hpre.1.symm

omit [DecidableEq α] in
/-- Behind a character that is copied a word of the table stands in both texts or in none. -/
theorem Written.split_word (h : Written plain words s t) (htable : Marked mark table)
    (hsub : words ⊆ table) (he : e ∈ table) (hpre : e.1 <+: a :: s ∨ e.1 <+: a :: t) :
    ∃ s' t', a :: s = e.1 ++ s' ∧ a :: t = e.1 ++ t' ∧ Written plain words s' t' := by
  obtain ⟨v, hv, hmark⟩ := htable.starts e he
  simp only [hv, List.cons_prefix_cons] at hpre
  obtain rfl : mark = a := hpre.elim (·.1) (·.1)
  obtain ⟨s', t', rfl, rfl, hrest⟩ := h.split (htable.mono hsub) hmark
    (fun f hf hmem => htable.apart f (hsub hf) e he (hv ▸ List.mem_cons_of_mem _ hmem))
    (hpre.imp (·.2) (·.2))
  exact ⟨s', t', by rw [hv, List.cons_append], by rw [hv, List.cons_append], hrest⟩

/-- **Decoding a text with words** gives what decoding the text itself gives. -/
theorem substitute_written (h : Written plain words s t) (htable : Marked mark table)
    (hfree : PrefixFree table) (hsub : words ⊆ table) :
    substitute table t = substitute table s := by
  induction hn : s.length using Nat.strong_induction_on generalizing s t with
  | _ n ih =>
      cases h with
      | nil => rfl
      | @copy a s t ha h =>
          rw [List.length_cons] at hn
          cases hword : wordAt table (a :: s) with
          | none =>
              have hnone : wordAt table (a :: t) = none := by
                refine wordAt_eq_none.mpr fun e he hpre => ?_
                obtain ⟨s', t', hs, -, -⟩ := h.split_word htable hsub he (.inr hpre)
                exact wordAt_eq_none.mp hword e he (hs ▸ List.prefix_append _ _)
              rw [substitute_other hword, substitute_other hnone, ih s.length (by omega) h rfl]
          | some e =>
              obtain ⟨he, rest, heq⟩ := of_wordAt hword
              obtain ⟨s', t', hs, ht, hrest⟩ :=
                h.split_word htable hsub he (.inl (heq ▸ List.prefix_append _ _))
              have hword' : wordAt table (e.1 ++ t') = some e :=
                hfree.wordAt_append he t'
              rw [hs] at hword ⊢
              rw [ht, substitute_word (htable.starts.ne_nil e he) hword,
                substitute_word (htable.starts.ne_nil e he) hword', ih s'.length ?_ hrest rfl]
              have hlen := congrArg List.length hs
              have hpos := List.length_pos_iff.mpr (htable.starts.ne_nil e he)
              rw [List.length_append, List.length_cons] at hlen
              omega
      | @word e s t he h =>
          rw [List.length_cons] at hn
          have hmark : e.2 ≠ mark := htable.put_ne (hsub he)
          rw [substitute_word (htable.starts.ne_nil e (hsub he)) (hfree.wordAt_append (hsub he) t),
            substitute_other (htable.starts.wordAt_cons hmark), ih s.length (by omega) h rfl]

/-- **A pass for the mark's own word** leaves a text in which the other characters may still be
written as their words. -/
theorem Written.replaceAll {own : List α} (h : Written plain ((own, mark) :: words) s t)
    (hplain : ¬ plain mark) (hstarts : Starts mark ((own, mark) :: words))
    (hfree : PrefixFree ((own, mark) :: words)) :
    Written (fun _ => True) words s (replaceAll own [mark] t) := by
  obtain ⟨v, hv, -⟩ := hstarts (own, mark) List.mem_cons_self
  have hne : own ≠ [] := by
    rw [show own = mark :: v from hv]
    exact List.cons_ne_nil _ _
  have hone : Starts mark [(own, mark)] := fun f hf =>
    hstarts f (List.mem_cons.mpr (.inl (List.mem_singleton.mp hf)))
  rw [replaceAll_eq (e := (own, mark)) hne]
  induction h with
  | nil => exact .nil
  | @copy a s t ha h ih =>
      have hnone : wordAt [(own, mark)] (a :: t) = none := by
        refine wordAt_singleton_eq_none.mpr fun hpre => ?_
        rw [hv, List.cons_prefix_cons] at hpre
        exact hplain (hpre.1 ▸ ha)
      rw [substitute_other hnone]
      exact ih.copy trivial
  | @word e s t he h ih =>
      by_cases hown : e = (own, mark)
      · subst hown
        rw [substitute_word hne (wordAt_singleton (own, mark) t)]
        exact ih.copy trivial
      · have hwords : e ∈ words := (List.mem_cons.mp he).resolve_left hown
        have hnone : wordAt [(own, mark)] (e.1 ++ t) = none := by
          refine wordAt_singleton_eq_none.mpr fun hpre => ?_
          rcases List.prefix_or_prefix_of_prefix hpre (List.prefix_append e.1 t) with hle | hle
          · exact hown (hfree _ List.mem_cons_self e he hle).symm
          · exact hown (hfree e he _ List.mem_cons_self hle)
        obtain ⟨w, hw, hmark⟩ := hstarts e he
        have hcopy : substitute [(own, mark)] (e.1 ++ t) =
            e.1 ++ substitute [(own, mark)] t := by
          rw [hw] at hnone ⊢
          exact hone.substitute_copied hmark hnone
        rw [hcopy]
        exact ih.word hwords

end Cmon.Library.Replacement
