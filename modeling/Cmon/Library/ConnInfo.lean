import Mathlib.Algebra.GroupWithZero.Nat
import Mathlib.Data.List.Basic

/-!
# Library — connection strings

The `conninfo` strings of libpq: `name=value`, with blanks between.  Blanks may also stand around
`=`.  A value is unquoted and ends at a blank, or stands between single quotes; a backslash takes
the next character as it is.

* `Plain`: the values that read back when they are written unquoted.
* `parse_unquoted`, `parse_quoted`: parameters with such values are read, the last one unquoted or
  between quotes.
* `weight_le_of_parse`, `weight_le_of_parse_quoted`: a text is at least as long as what is read
  from it, and where it is no longer, the values are plain.
-/

namespace Cmon.Library.ConnInfo

/-! ### The reader -/

/-- A name and a value. -/
abbrev Param := List Char × List Char

def isSpace (c : Char) : Bool := c = ' ' || ('\t' ≤ c && c ≤ '\r')

/-- Where the reader is: before a name, in a name, behind a name and a blank, behind `=`, in a value
and behind a backslash of it, between quotes and behind a backslash there. -/
inductive Mode where
  | before
  | name (n : List Char)
  | blank (n : List Char)
  | value (n : List Char)
  | plain (n v : List Char)
  | escape (n v : List Char)
  | quoted (n v : List Char)
  | quotedEscape (n v : List Char)
  deriving DecidableEq, Repr

/-- One character; `none` is an error. -/
def step : Mode × List Param → Char → Option (Mode × List Param)
  | (.before, rs), c =>
      if isSpace c then some (.before, rs)
      else if c = '=' then some (.value [], rs)
      else some (.name [c], rs)
  | (.name n, rs), c =>
      if c = '=' then some (.value n, rs)
      else if isSpace c then some (.blank n, rs)
      else some (.name (n ++ [c]), rs)
  | (.blank n, rs), c =>
      if isSpace c then some (.blank n, rs)
      else if c = '=' then some (.value n, rs)
      else none
  | (.value n, rs), c =>
      if isSpace c then some (.value n, rs)
      else if c = '\'' then some (.quoted n [], rs)
      else if c = '\\' then some (.escape n [], rs)
      else some (.plain n [c], rs)
  | (.plain n v, rs), c =>
      if isSpace c then some (.before, rs ++ [(n, v)])
      else if c = '\\' then some (.escape n v, rs)
      else some (.plain n (v ++ [c]), rs)
  | (.escape n v, rs), c => some (.plain n (v ++ [c]), rs)
  | (.quoted n v, rs), c =>
      if c = '\\' then some (.quotedEscape n v, rs)
      else if c = '\'' then some (.before, rs ++ [(n, v)])
      else some (.quoted n (v ++ [c]), rs)
  | (.quotedEscape n v, rs), c => some (.quoted n (v ++ [c]), rs)

/-- The end of the text. -/
def finish : Mode × List Param → Option (List Param)
  | (.before, rs) => some rs
  | (.name _, _) | (.blank _, _) | (.quoted _ _, _) | (.quotedEscape _ _, _) => none
  | (.value n, rs) => some (rs ++ [(n, [])])
  | (.plain n v, rs) | (.escape n v, rs) => some (rs ++ [(n, v)])

/-- The parameters of a text. -/
def parse (text : List Char) : Option (List Param) :=
  (text.foldlM step (.before, [])).bind finish

/-! ### Plain values -/

/-- The values that need no quotes: there is a character, no blank and no backslash, and the first
one is no quote. -/
def Plain (v : List Char) : Prop :=
  v ≠ [] ∧ v.head? ≠ some '\'' ∧ ∀ c ∈ v, isSpace c = false ∧ c ≠ '\\'

instance (v : List Char) : Decidable (Plain v) :=
  @instDecidableAnd _ _ _ (@instDecidableAnd _ _ _ (List.decidableBAll _ _))

/-- Names without blank and `=`. -/
def Name (n : List Char) : Prop := n ≠ [] ∧ ∀ c ∈ n, isSpace c = false ∧ c ≠ '='

instance (n : List Char) : Decidable (Name n) := @instDecidableAnd _ _ _ (List.decidableBAll _ _)

/-- Parameters with unquoted values, each with a blank behind it. -/
def fields (rs : List Param) : List Char := rs.flatMap fun r => r.1 ++ '=' :: r.2 ++ [' ']

variable {rs : List Param} {n v w : List Char}

theorem foldlM_cons_of {s s' : Mode × List Param} {c : Char} (h : step s c = some s')
    (t : List Char) : (c :: t).foldlM step s = t.foldlM step s' := by
  rw [List.foldlM_cons, h]
  rfl

theorem foldlM_name (h : ∀ c ∈ n, isSpace c = false ∧ c ≠ '=') (pre : List Char) :
    n.foldlM step (.name pre, rs) = some (.name (pre ++ n), rs) := by
  induction n generalizing pre with
  | nil =>
      rw [List.append_nil]
      rfl
  | cons c n ih =>
      obtain ⟨hs, he⟩ := h c List.mem_cons_self
      have hstep : step (.name pre, rs) c = some (.name (pre ++ [c]), rs) := by
        rw [step, if_neg he, if_neg (by simp [hs])]
      rw [foldlM_cons_of hstep, ih (fun d hd => h d (List.mem_cons_of_mem c hd)),
        List.append_assoc]
      rfl

theorem foldlM_name_eq (h : Name n) :
    (n ++ ['=']).foldlM step (.before, rs) = some (.value n, rs) := by
  cases n with
  | nil => exact absurd rfl h.1
  | cons c n =>
      obtain ⟨hs, he⟩ := h.2 c List.mem_cons_self
      have hstep : step (.before, rs) c = some (.name [c], rs) := by
        rw [step, if_neg (by simp [hs]), if_neg he]
      rw [List.cons_append, foldlM_cons_of hstep, List.foldlM_append,
        foldlM_name fun d hd => h.2 d (List.mem_cons_of_mem c hd)]
      rfl

theorem foldlM_plain (h : ∀ c ∈ v, isSpace c = false ∧ c ≠ '\\') (pre : List Char) :
    v.foldlM step (.plain n pre, rs) = some (.plain n (pre ++ v), rs) := by
  induction v generalizing pre with
  | nil =>
      rw [List.append_nil]
      rfl
  | cons c v ih =>
      obtain ⟨hs, he⟩ := h c List.mem_cons_self
      have hstep : step (.plain n pre, rs) c = some (.plain n (pre ++ [c]), rs) := by
        rw [step, if_neg (by simp [hs]), if_neg he]
      rw [foldlM_cons_of hstep, ih (fun d hd => h d (List.mem_cons_of_mem c hd)),
        List.append_assoc]
      rfl

/-- A plain value is read. -/
theorem foldlM_value (h : Plain v) :
    v.foldlM step (.value n, rs) = some (.plain n v, rs) := by
  cases v with
  | nil => exact absurd rfl h.1
  | cons c v =>
      obtain ⟨hs, he⟩ := h.2.2 c List.mem_cons_self
      have hq : c ≠ '\'' := fun hc => h.2.1 (congrArg some hc)
      have hstep : step (.value n, rs) c = some (.plain n [c], rs) := by
        rw [step, if_neg (by simp [hs]), if_neg hq, if_neg he]
      rw [foldlM_cons_of hstep]
      exact foldlM_plain (fun d hd => h.2.2 d (List.mem_cons_of_mem c hd)) [c]

theorem foldlM_quoted (h : ∀ c ∈ w, c ≠ '\'' ∧ c ≠ '\\') (pre : List Char) :
    w.foldlM step (.quoted n pre, rs) = some (.quoted n (pre ++ w), rs) := by
  induction w generalizing pre with
  | nil =>
      rw [List.append_nil]
      rfl
  | cons c w ih =>
      obtain ⟨hq, he⟩ := h c List.mem_cons_self
      have hstep : step (.quoted n pre, rs) c = some (.quoted n (pre ++ [c]), rs) := by
        rw [step, if_neg he, if_neg hq]
      rw [foldlM_cons_of hstep, ih (fun d hd => h d (List.mem_cons_of_mem c hd)),
        List.append_assoc]
      rfl

/-- Parameters with plain values are read. -/
theorem foldlM_fields (hn : ∀ r ∈ rs, Name r.1) (hv : ∀ r ∈ rs, Plain r.2) (pre : List Param) :
    (fields rs).foldlM step (.before, pre) = some (.before, pre ++ rs) := by
  induction rs generalizing pre with
  | nil => rw [List.append_nil]; rfl
  | cons r rs ih =>
      have hone : (r.1 ++ '=' :: r.2 ++ [' ']).foldlM step (.before, pre) =
          some (.before, pre ++ [r]) := by
        rw [show r.1 ++ '=' :: r.2 ++ [' '] = (r.1 ++ ['=']) ++ (r.2 ++ [' ']) by simp,
          List.foldlM_append, foldlM_name_eq (hn r List.mem_cons_self), Option.bind_eq_bind,
          Option.bind_some, List.foldlM_append, foldlM_value (hv r List.mem_cons_self)]
        rfl
      rw [fields, List.flatMap_cons, ← fields, List.foldlM_append, hone, Option.bind_eq_bind,
        Option.bind_some, ih (fun r hr => hn r (List.mem_cons_of_mem _ hr))
          (fun r hr => hv r (List.mem_cons_of_mem _ hr)), List.append_assoc]
      rfl

/-- Parameters, the last one unquoted at the end. -/
theorem parse_unquoted (hn : ∀ r ∈ rs, Name r.1) (hv : ∀ r ∈ rs, Plain r.2) (hname : Name n)
    (hlast : v = [] ∨ Plain v) :
    parse (fields rs ++ (n ++ ['=']) ++ v) = some (rs ++ [(n, v)]) := by
  rw [parse, List.foldlM_append, List.foldlM_append, foldlM_fields hn hv, Option.bind_eq_bind,
    Option.bind_some, foldlM_name_eq hname, Option.bind_some]
  rcases hlast with rfl | hplain
  · rfl
  · rw [foldlM_value hplain]
    rfl

/-- Parameters, the last one between quotes. -/
theorem parse_quoted (hn : ∀ r ∈ rs, Name r.1) (hv : ∀ r ∈ rs, Plain r.2) (hname : Name n)
    (hw : ∀ c ∈ w, c ≠ '\'' ∧ c ≠ '\\') :
    parse (fields rs ++ (n ++ ['=']) ++ '\'' :: w ++ ['\'']) = some (rs ++ [(n, w)]) := by
  have hopen : step (.value n, rs) '\'' = some (.quoted n [], rs) := rfl
  rw [parse, List.foldlM_append, List.foldlM_append, List.foldlM_append, foldlM_fields hn hv,
    Option.bind_eq_bind, Option.bind_some, foldlM_name_eq hname, Option.bind_some,
    List.nil_append, foldlM_cons_of hopen, foldlM_quoted hw]
  rfl

/-! ### What a text costs -/

/-- The characters of unquoted parameters, with `=` and a blank for each. -/
def weight (rs : List Param) : Nat := (rs.map fun r => r.1.length + r.2.length + 2).sum

/-- What has been read since the last parameter. -/
def Mode.weight : Mode → Nat
  | .before => 0
  | .name n => n.length
  | .blank n | .value n => n.length + 1
  | .plain n v => n.length + v.length + 1
  | .escape n v | .quoted n v => n.length + v.length + 2
  | .quotedEscape n v => n.length + v.length + 3

theorem weight_concat (rs : List Param) (n v : List Char) :
    weight (rs ++ [(n, v)]) = weight rs + (n.length + v.length + 2) := by
  simp [weight]

/-- The characters that the state accounts for. -/
def size (s : Mode × List Param) : Nat := weight s.2 + s.1.weight

/-- The values are plain, as far as they were read unquoted. -/
def Tight (s : Mode × List Param) : Prop :=
  (∀ r ∈ s.2, Plain r.2) ∧ ∀ n v, s.1 = .plain n v → Plain v

theorem plain_singleton {c : Char} (hs : isSpace c = false) (hq : c ≠ '\'') (he : c ≠ '\\') :
    Plain [c] :=
  ⟨List.cons_ne_nil _ _, by simpa using hq, fun d hd => by
    obtain rfl := List.mem_singleton.mp hd
    exact ⟨hs, he⟩⟩

theorem Plain.concat {c : Char} (h : Plain v) (hs : isSpace c = false) (he : c ≠ '\\') :
    Plain (v ++ [c]) := by
  obtain ⟨hne, hq, hall⟩ := h
  refine ⟨by simp, ?_, fun d hd => ?_⟩
  · rwa [List.head?_append_of_ne_nil _ hne]
  · rcases List.mem_append.mp hd with hd | hd
    · exact hall d hd
    · obtain rfl := List.mem_singleton.mp hd
      exact ⟨hs, he⟩

/-- **One character** accounts for one at most, and where it does for one, unquoted values stay
plain. -/
theorem size_step {s s' : Mode × List Param} {c : Char} (h : step s c = some s') :
    size s' ≤ size s + 1 ∧ (size s' = size s + 1 → Tight s → Tight s') := by
  obtain ⟨m, rs⟩ := s
  cases m with
  | before =>
      rw [step] at h
      split_ifs at h
      all_goals
        cases h
        exact ⟨by simp [size, Mode.weight], fun _ ht => ⟨ht.1, nofun⟩⟩
  | name n =>
      rw [step] at h
      split_ifs at h
      all_goals
        cases h
        exact ⟨by simp [size, Mode.weight, Nat.add_assoc], fun _ ht => ⟨ht.1, nofun⟩⟩
  | blank n =>
      rw [step] at h
      split_ifs at h
      all_goals
        cases h
        exact ⟨by simp [size, Mode.weight], fun _ ht => ⟨ht.1, nofun⟩⟩
  | value n =>
      rw [step] at h
      split_ifs at h with hs hq he
      · cases h
        exact ⟨by simp [size, Mode.weight], fun _ ht => ⟨ht.1, nofun⟩⟩
      · cases h
        exact ⟨by simp [size, Mode.weight, Nat.add_assoc], fun _ ht => ⟨ht.1, nofun⟩⟩
      · cases h
        exact ⟨by simp [size, Mode.weight, Nat.add_assoc], fun _ ht => ⟨ht.1, nofun⟩⟩
      · cases h
        refine ⟨by simp [size, Mode.weight, Nat.add_assoc], fun _ ht => ⟨ht.1, fun n' v' e => ?_⟩⟩
        cases e
        exact plain_singleton (by simpa using hs) hq he
  | plain n v =>
      rw [step] at h
      split_ifs at h with hs he
      · -- the blank behind the value
        cases h
        refine ⟨by simp [size, Mode.weight, weight_concat]; omega,
          fun _ ht => ⟨fun r hr => ?_, nofun⟩⟩
        rcases List.mem_append.mp hr with hr | hr
        · exact ht.1 r hr
        · obtain rfl := List.mem_singleton.mp hr
          exact ht.2 n v rfl
      · cases h
        exact ⟨by simp [size, Mode.weight, Nat.add_assoc], fun _ ht => ⟨ht.1, nofun⟩⟩
      · cases h
        refine ⟨by simp [size, Mode.weight]; omega, fun _ ht => ⟨ht.1, fun n' v' e => ?_⟩⟩
        cases e
        exact (ht.2 n v rfl).concat (by simpa using hs) he
  | escape n v =>
      -- the backslash is not accounted for any longer
      cases h
      refine ⟨by simp [size, Mode.weight]; omega, fun heq => absurd heq ?_⟩
      simp [size, Mode.weight]
      omega
  | quoted n v =>
      rw [step] at h
      split_ifs at h
      · cases h
        exact ⟨by simp [size, Mode.weight, Nat.add_assoc], fun _ ht => ⟨ht.1, nofun⟩⟩
      · cases h
        refine ⟨by simp [size, Mode.weight, weight_concat], fun heq => absurd heq ?_⟩
        simp [size, Mode.weight, weight_concat]
      · cases h
        exact ⟨by simp [size, Mode.weight]; omega, fun _ ht => ⟨ht.1, nofun⟩⟩
  | quotedEscape n v =>
      cases h
      exact ⟨by simp [size, Mode.weight]; omega, fun _ ht => ⟨ht.1, nofun⟩⟩

/-- A text accounts for its length at most. -/
theorem size_foldlM {text : List Char} {s s' : Mode × List Param}
    (h : text.foldlM step s = some s') :
    size s' ≤ size s + text.length ∧ (size s' = size s + text.length → Tight s → Tight s') := by
  induction text generalizing s with
  | nil =>
      cases h
      exact ⟨Nat.le_refl _, fun _ ht => ht⟩
  | cons c text ih =>
      rw [List.foldlM_cons] at h
      obtain ⟨s₁, hstep, hrest⟩ := Option.bind_eq_some_iff.mp h
      obtain ⟨hle, htight⟩ := size_step hstep
      obtain ⟨hle', htight'⟩ := ih hrest
      rw [List.length_cons]
      refine ⟨by omega, fun heq ht => ?_⟩
      exact htight' (by omega) (htight (by omega) ht)

theorem tight_start : Tight (.before, []) := ⟨nofun, nofun⟩

theorem concat_inj {rs' : List Param} {n' v' : List Char}
    (h : some (rs' ++ [(n', v')]) = some (rs ++ [(n, v)])) : rs' = rs ∧ n' = n ∧ v' = v := by
  obtain ⟨hrs, hlast⟩ := List.append_inj' (Option.some.inj h) rfl
  cases hlast
  exact ⟨hrs, rfl, rfl⟩

/-- **What is read of a text is not longer than it,** and if it is as long, the values are plain;
the last one may be empty. -/
theorem weight_le_of_parse {text : List Char} (h : parse text = some (rs ++ [(n, v)])) :
    weight rs + (n.length + v.length + 1) ≤ text.length ∧
      (weight rs + (n.length + v.length + 1) = text.length →
        (∀ r ∈ rs, Plain r.2) ∧ (v = [] ∨ Plain v)) := by
  obtain ⟨⟨m, rs'⟩, hrun, hfinish⟩ := Option.bind_eq_some_iff.mp h
  obtain ⟨hle, htight⟩ := size_foldlM hrun
  rw [show size (.before, []) = 0 from rfl, Nat.zero_add] at hle htight
  have htight := fun heq => htight heq tight_start
  cases m with
  | before =>
      cases hfinish
      rw [size, weight_concat] at hle
      exact ⟨by omega, fun heq => by omega⟩
  | name n' => cases hfinish
  | blank n' => cases hfinish
  | value n' =>
      obtain ⟨rfl, rfl, rfl⟩ := concat_inj hfinish
      rw [size, Mode.weight] at hle htight
      exact ⟨by simpa using hle, fun heq => ⟨(htight (by simpa using heq)).1, .inl rfl⟩⟩
  | plain n' v' =>
      obtain ⟨rfl, rfl, rfl⟩ := concat_inj hfinish
      rw [size, Mode.weight] at hle htight
      exact ⟨hle, fun heq => ⟨(htight heq).1, .inr ((htight heq).2 _ _ rfl)⟩⟩
  | escape n' v' =>
      obtain ⟨rfl, rfl, rfl⟩ := concat_inj hfinish
      have hle : weight rs' + (n'.length + v'.length + 2) ≤ text.length := hle
      exact ⟨by omega, fun heq => by omega⟩
  | quoted n' v' => cases hfinish
  | quotedEscape n' v' => cases hfinish

/-- The same for a text with a quote at its end, which is that of the last value. -/
theorem weight_le_of_parse_quoted {text : List Char}
    (h : parse (text ++ ['\'']) = some (rs ++ [(n, w)])) (hw : w.getLast? ≠ some '\'') :
    weight rs + (n.length + w.length + 2) ≤ text.length ∧
      (weight rs + (n.length + w.length + 2) = text.length → ∀ r ∈ rs, Plain r.2) := by
  rw [parse, List.foldlM_append] at h
  obtain ⟨s', hend, hfinish⟩ := Option.bind_eq_some_iff.mp h
  obtain ⟨⟨m, rs'⟩, hrun, hlast⟩ := Option.bind_eq_some_iff.mp hend
  rw [List.foldlM_cons] at hlast
  obtain ⟨s'', hstep, hnil⟩ := Option.bind_eq_some_iff.mp hlast
  cases hnil
  obtain ⟨hle, htight⟩ := size_foldlM hrun
  have hconcat : ∀ v' : List Char, (v' ++ ['\'']).getLast? = some '\'' := fun v' =>
    List.getLast?_concat
  cases m with
  | quoted n' v' =>
      cases hstep
      obtain ⟨rfl, rfl, rfl⟩ := concat_inj hfinish
      rw [show size (.before, []) = 0 from rfl, Nat.zero_add] at hle htight
      exact ⟨hle, fun heq => (htight heq tight_start).1⟩
  | plain n' v' =>
      -- the quote would be the last character of the value
      cases hstep
      obtain ⟨rfl, rfl, rfl⟩ := concat_inj hfinish
      exact absurd (hconcat v') hw
  | escape n' v' =>
      cases hstep
      obtain ⟨rfl, rfl, rfl⟩ := concat_inj hfinish
      exact absurd (hconcat v') hw
  | before =>
      cases hstep
      cases hfinish
  | name n' =>
      cases hstep
      cases hfinish
  | blank n' => cases hstep
  | value n' =>
      cases hstep
      cases hfinish
  | quotedEscape n' v' =>
      cases hstep
      cases hfinish

end Cmon.Library.ConnInfo
