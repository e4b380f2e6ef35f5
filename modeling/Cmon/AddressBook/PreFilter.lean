import Cmon.Library.SqlLike
import Cmon.AddressBook.Resolve

/-!
# Address book — the pre-filter of a look-up

The first statement of `resolve` selects the numbers that can match, by the last six characters of
the number that is looked up, and by its value when it is an internal number.  Compared with a
plain scan of the stored numbers (`Scan`).

* `meaning`: the condition a first statement puts on `canonical`, as the engines document `like`,
  `=`, `replace`, `regexp_replace` and `cast`; `none` for a text that is not read as one of them.
* `AddressBook.Documented`: the engine gives the rows that fulfil the condition, in some order.
* `AddressBook.finds_iff`: `resolve` finds a number exactly when the scan does, if and only if the
  statement keeps one of the numbers that match.
* `meaning_resolveSql`: the condition, by the number (`selected`).
* `selected_within`, `keeps_internal`: the last six characters have to be in the stored number; the
  value of an internal number keeps it.
-/

namespace Cmon
open Library SqlText

/-! ### What the statements mean -/

/-- The statements up to the comparison with a literal. -/
def compareHead : BookKind → String
  | .sqlite => "select cref, canonical from numbers where " ++
      "replace(replace(replace(replace(replace(canonical," ++ "'+', '')," ++ "'(', '')," ++
      "')', '')," ++ "'-', '')," ++ "' ', '')"
  | .psql => "select cref, canonical from numbers where " ++
      "regexp_replace(canonical, '[^[:digit:]]', '', 'g')"

def likeHead (kind : BookKind) : String := compareHead kind ++ " like "

def equalHead : String := compareHead .psql ++ " = "

/-- The statement in front of an integer, in an SQLite book. -/
def castHead : String :=
  "select cref, canonical from numbers where " ++ "cast(canonical as integer) = "

/-- `replace(s, c, '')`. -/
def removed (s : List Char) (c : Char) : List Char := s.filter (· ≠ c)

/-- The stored number as it is compared; `digit` is the class `[[:digit:]]` of PostgreSQL. -/
def stripped (digit : Char → Bool) (kind : BookKind) (canonical : String) : List Char :=
  match kind with
  | .sqlite => ['+', '(', ')', '-', ' '].foldl removed canonical.toList
  | .psql => canonical.toList.filter digit

/-- Equal characters: `like` of SQLite ignores the case of letters in ASCII. -/
def sameChar : BookKind → Char → Char → Bool
  | .sqlite, c, d => c.toLower == d.toLower
  | .psql, c, d => c == d

/-- The escape character of `like`, where there is one. -/
def escapeChar : BookKind → Option Char
  | .sqlite => none
  | .psql => some '\\'

/-- White space of SQLite. -/
def sqlBlank (c : Char) : Bool := c = ' ' || c = '\t' || c = '\n' || c = '\x0c' || c = '\r'

/-- The value of digits. -/
def digitsValue (ds : List Char) : Nat := Nat.ofDigitChars 10 ds 0

/-- The value of the digits at the beginning of a text. -/
def leadingValue (cs : List Char) : Nat := digitsValue (cs.takeWhile Char.isDigit)

/-- Digits of a value that SQLite can hold as an integer. -/
def unsignedInteger (ds : List Char) : Option Int :=
  if ds ≠ [] ∧ ds.all Char.isDigit ∧ digitsValue ds < 9223372036854775808 then
    some (digitsValue ds)
  else none

/-- An integer with white space around it, as a term of SQLite. -/
def sqlInteger (t : List Char) : Option Int :=
  match (t.dropWhile sqlBlank).rdropWhile sqlBlank with
  | '-' :: ds => (unsignedInteger ds).map (- ·)
  | ds => unsignedInteger ds

/-- The integer at the beginning of a text, as far as SQLite can hold it. -/
def leadingInteger : List Char → Int
  | '-' :: cs => -(min (leadingValue cs) 9223372036854775808 : Nat)
  | '+' :: cs => (min (leadingValue cs) 9223372036854775807 : Nat)
  | cs => (min (leadingValue cs) 9223372036854775807 : Nat)

/-- `cast(s as integer)`. -/
def castInteger (s : String) : Int := leadingInteger (s.toList.dropWhile isBlank)

/-- The literal behind `head`, when the statement is `head` and a literal. -/
def literalAfter (head sql : String) : Option (List Char) :=
  match lex sql.toList with
  | none => none
  | some toks =>
      match toks.getLast? with
      | some (.str w) => if toks = (lex head.toList).getD [] ++ [.str w] then some w else none
      | _ => none

/-- The text behind `head`. -/
def textAfter (head sql : String) : Option (List Char) :=
  if head.toList.isPrefixOf sql.toList then some (sql.toList.drop head.length) else none

/-- **The condition of a first statement.** -/
def meaning (digit : Char → Bool) (kind : BookKind) (sql : String) : Option (String → Bool) :=
  let likeCondition := fun w => (SqlLike.pattern (escapeChar kind) w).map fun p canonical =>
    SqlLike.holds (sameChar kind) p (stripped digit kind canonical)
  match kind with
  | .sqlite =>
      match textAfter castHead sql with
      | some t => (sqlInteger t).map fun n canonical => castInteger canonical == n
      | none => (literalAfter (likeHead kind) sql).bind likeCondition
  | .psql =>
      match literalAfter equalHead sql with
      | some w => some fun canonical => stripped digit kind canonical == w
      | none => (literalAfter (likeHead kind) sql).bind likeCondition

/-- **What the first statement selects**, by the number that is looked up: `none` where a character
of it ends the literal, or is no number for SQLite. -/
def selected (digit : Char → Bool) (kind : BookKind) (rp : GeneralPrefs) (strNumber : String) :
    Option (String → Bool) :=
  if isInternalPhone rp strNumber then
    match kind with
    | .sqlite => (sqlInteger (toUTF8 strNumber).toList).map fun n canonical =>
        castInteger canonical == n
    | .psql =>
        if NoQuote strNumber then
          some fun canonical => stripped digit .psql canonical == (toUTF8 strNumber).toList
        else none
  else if NoQuote (right6 strNumber) then
    (SqlLike.pattern (escapeChar kind) ('%' :: ((toUTF8 (right6 strNumber)).toList ++ ['%']))).map
      fun p canonical => SqlLike.holds (sameChar kind) p (stripped digit kind canonical)
  else none

/-- No number holds a NUL, which ends a text for some functions of SQLite. -/
def NoNul (numbers : List NumberRow) : Prop := ∀ r ∈ numbers, '\x00' ∉ r.canonical.toList

instance (numbers : List NumberRow) : Decidable (NoNul numbers) :=
  inferInstanceAs (Decidable (∀ r ∈ numbers, _))

/-! ### What the first statement means -/

theorem literalAfter_eq {head sql : String} {w : List Char}
    (h : lex sql.toList = some (tokensOf [fixed head, .lit w])) (head' : String) :
    literalAfter head' sql =
      if (lex head'.toList).getD [] = (lex head.toList).getD [] then some w else none := by
  have htoks : tokensOf [fixed head, .lit w] = (lex head.toList).getD [] ++ [.str w] := rfl
  rw [literalAfter, h, htoks]
  simp [eq_comm]

/-- No statement is one with `cast` that has another beginning. -/
theorem textAfter_of_head {head sql : String} {s : List Char} (h : sql.toList = head.toList ++ s)
    (hlen : castHead.length ≤ head.length) (hne : ¬ castHead.toList <+: head.toList) :
    textAfter castHead sql = none := by
  rw [textAfter, if_neg]
  rw [List.isPrefixOf_iff_prefix, h]
  intro hpre
  exact hne (List.prefix_of_prefix_length_le hpre (List.prefix_append ..)
    (by rwa [String.length_toList, String.length_toList]))

variable {rp : GeneralPrefs} {strNumber : String}

/-- **An external number**: `like` compares the last six characters. -/
theorem meaning_like (digit : Char → Bool) (kind : BookKind)
    (hi : isInternalPhone rp strNumber = false) (hq : NoQuote (right6 strNumber)) :
    meaning digit kind (resolveSql kind rp strNumber) =
      (SqlLike.pattern (escapeChar kind) ('%' :: ((toUTF8 (right6 strNumber)).toList ++ ['%']))).map
        fun p canonical => SqlLike.holds (sameChar kind) p (stripped digit kind canonical) := by
  have hread : lex (resolveSql kind rp strNumber).toList =
      some (tokensOf [fixed (likeHead kind), like (toUTF8 (right6 strNumber))]) := by
    have h := resolve_read_iff kind rp strNumber utcPlatform
    simp only [Query.intended, Query.Safe, hi, Bool.false_eq_true, if_false] at h
    unfold likeHead compareHead
    cases kind <;> exact h.mpr hq
  have hlike := literalAfter_eq hread
  cases kind with
  | sqlite =>
      have hcast : textAfter castHead (resolveSql .sqlite rp strNumber) = none := by
        have hsql : resolveSql .sqlite rp strNumber =
            compareHead .sqlite ++ " like '%" ++ toUTF8 (right6 strNumber) ++ "%'" := by
          unfold resolveSql
          rw [hi]
          rfl
        have htext : (resolveSql .sqlite rp strNumber).toList = (compareHead .sqlite).toList ++
            (" like '%".toList ++ ((toUTF8 (right6 strNumber)).toList ++ "%'".toList)) := by
          rw [hsql, String.toList_append, String.toList_append, String.toList_append,
            List.append_assoc, List.append_assoc]
        exact textAfter_of_head htext (by decide +kernel) (by decide +kernel)
      simp only [meaning, hcast, hlike, if_true, Option.bind_some]
  | psql =>
      have hequal : literalAfter equalHead (resolveSql .psql rp strNumber) = none := by
        have hne : (lex equalHead.toList).getD [] ≠ (lex (likeHead .psql).toList).getD [] := by
          decide +kernel
        rw [hlike, if_neg hne]
      simp only [meaning, hequal, hlike, if_true, Option.bind_some]

/-- **An internal number in a PostgreSQL book**: the digits of the stored number are compared with
the text of the number. -/
theorem meaning_equal (digit : Char → Bool) (hi : isInternalPhone rp strNumber = true)
    (hq : NoQuote strNumber) :
    meaning digit .psql (resolveSql .psql rp strNumber) =
      some fun canonical => stripped digit .psql canonical == (toUTF8 strNumber).toList := by
  have hread : lex (resolveSql .psql rp strNumber).toList =
      some (tokensOf [fixed equalHead, equal (toUTF8 strNumber)]) := by
    have h := resolve_read_iff .psql rp strNumber utcPlatform
    simp only [Query.intended, Query.Safe, hi, if_true, true_and] at h
    unfold equalHead compareHead
    exact h.mpr hq
  simp only [meaning, literalAfter_eq hread, if_true]

/-- **An internal number in an SQLite book**: the value of the stored number is compared with the
number that the text is. -/
theorem meaning_cast (digit : Char → Bool) (hi : isInternalPhone rp strNumber = true) :
    meaning digit .sqlite (resolveSql .sqlite rp strNumber) =
      (sqlInteger (toUTF8 strNumber).toList).map fun n canonical => castInteger canonical == n := by
  have htext : (resolveSql .sqlite rp strNumber).toList =
      castHead.toList ++ (toUTF8 strNumber).toList := by
    rw [← String.toList_append]
    unfold resolveSql
    rw [hi]
    rfl
  have hafter : textAfter castHead (resolveSql .sqlite rp strNumber) =
      some (toUTF8 strNumber).toList := by
    have hpre : castHead.toList.isPrefixOf (castHead.toList ++ (toUTF8 strNumber).toList) = true :=
      List.isPrefixOf_iff_prefix.mpr (List.prefix_append ..)
    simp only [textAfter, htext, hpre, if_true, ← String.length_toList, List.drop_left]
  simp only [meaning, hafter]

/-- The statement means what the number selects. -/
theorem meaning_resolveSql {digit : Char → Bool} {kind : BookKind} {cond : String → Bool}
    (h : selected digit kind rp strNumber = some cond) :
    meaning digit kind (resolveSql kind rp strNumber) = some cond := by
  unfold selected at h
  by_cases hi : isInternalPhone rp strNumber = true
  · rw [if_pos hi] at h
    cases kind with
    | sqlite =>
        rw [meaning_cast digit hi]
        exact h
    | psql =>
        split_ifs at h with hq
        rw [meaning_equal digit hi hq]
        exact h
  · rw [if_neg hi] at h
    split_ifs at h with hq
    rw [meaning_like digit kind (Bool.eq_false_iff.mpr hi) hq, h]

/-- Without a wildcard among the last six characters, they have to be in the stored number. -/
theorem selected_within (digit : Char → Bool) (kind : BookKind)
    (hi : isInternalPhone rp strNumber = false) (hq : NoQuote (right6 strNumber))
    (hplain : ∀ c ∈ (toUTF8 (right6 strNumber)).toList, SqlLike.Plain (escapeChar kind) c) :
    ∃ cond, selected digit kind rp strNumber = some cond ∧
      ∀ canonical, cond canonical = true ↔ ∃ v, v <:+: stripped digit kind canonical ∧
        (toUTF8 (right6 strNumber)).toList.Forall₂ (sameChar kind · · = true) v := by
  have hesc : escapeChar kind ≠ some '%' := by cases kind <;> decide
  unfold selected
  rw [if_neg (Bool.eq_false_iff.mp hi), if_pos hq, SqlLike.pattern_within hesc hplain]
  exact ⟨_, rfl, fun canonical => SqlLike.holds_within _ _⟩

/-! ### The value of an internal number -/

/-- A blank is no digit. -/
theorem isDigit_of_isBlank {c : Char} (h : isBlank c = true) : c.isDigit = false := by
  have hlt : c.toNat < 48 := by
    rcases Bool.or_eq_true_iff.mp h with h | h
    · rw [of_decide_eq_true h]
      decide
    · have hle : c ≤ '\r' := of_decide_eq_true (Bool.and_eq_true_iff.mp h).2
      exact Nat.lt_of_le_of_lt (show c.toNat ≤ 13 from hle) (by decide)
  rw [Bool.eq_false_iff]
  exact fun hd => absurd (Char.isDigit_iff_toNat.mp hd).1 (Nat.not_le.mpr hlt)

theorem isBlank_of_sqlBlank {c : Char} (h : sqlBlank c = true) : isBlank c = true := by
  simp only [sqlBlank, Bool.or_eq_true, decide_eq_true_eq] at h
  rcases h with (((rfl | rfl) | rfl) | rfl) | rfl <;> decide

/-- Blanks behind an integer do not count. -/
theorem leadingValue_append (cs : List Char) {bs : List Char} (hb : ∀ c ∈ bs, isBlank c = true) :
    leadingValue (cs ++ bs) = leadingValue cs := by
  have htake : (cs ++ bs).takeWhile Char.isDigit = cs.takeWhile Char.isDigit := by
    induction cs with
    | nil =>
        cases bs with
        | nil => rfl
        | cons c bs => simp [isDigit_of_isBlank (hb c (.head _))]
    | cons c cs ih => simp only [List.cons_append, List.takeWhile_cons, ih]
  rw [leadingValue, htake, leadingValue]

theorem leadingInteger_unsigned {cs : List Char} (hm : cs.head? ≠ some '-')
    (hp : cs.head? ≠ some '+') :
    leadingInteger cs = (min (leadingValue cs) 9223372036854775807 : Nat) := by
  unfold leadingInteger
  split
  · exact absurd rfl hm
  · exact absurd rfl hp
  · rfl

theorem leadingInteger_append (cs : List Char) {bs : List Char}
    (hb : ∀ c ∈ bs, isBlank c = true) : leadingInteger (cs ++ bs) = leadingInteger cs := by
  by_cases hm : cs.head? = some '-'
  · obtain ⟨cs, rfl⟩ := List.head?_eq_some_iff.mp hm
    simp only [List.cons_append, leadingInteger, leadingValue_append cs hb]
  · by_cases hp : cs.head? = some '+'
    · obtain ⟨cs, rfl⟩ := List.head?_eq_some_iff.mp hp
      simp only [List.cons_append, leadingInteger, leadingValue_append cs hb]
    · -- no blank is a sign
      have hsign : ∀ c, isBlank c = false → cs.head? ≠ some c → (cs ++ bs).head? ≠ some c := by
        intro c hc hhead
        cases cs with
        | nil => exact fun hbs => by cases hc.symm.trans (hb c (List.mem_of_head? hbs))
        | cons d cs => exact hhead
      rw [leadingInteger_unsigned hm hp, leadingInteger_unsigned (hsign _ (by decide) hm)
        (hsign _ (by decide) hp), leadingValue_append cs hb]

/-- The value of a number does not depend on the blanks around it. -/
theorem castInteger_eq (s : String) : castInteger s = leadingInteger (trim s).toList := by
  rw [castInteger, toList_trim]
  nth_rewrite 1 [← List.rdropWhile_append_rtakeWhile (p := isBlank)
    (l := s.toList.dropWhile isBlank)]
  exact leadingInteger_append _ fun c hc => List.mem_rtakeWhile_imp hc

/-- What SQLite reads as an integer begins with no blank, and is the integer at its beginning. -/
theorem unsignedInteger_spec {ds : List Char} {n : Int} (h : unsignedInteger ds = some n) :
    (∃ c cs, ds = c :: cs ∧ c.isDigit = true) ∧ (leadingValue ds : Int) = n ∧
      leadingValue ds < 9223372036854775808 := by
  rw [unsignedInteger] at h
  split_ifs at h with hds
  obtain ⟨hne, hall, hlt⟩ := hds
  have htake : ds.takeWhile Char.isDigit = ds :=
    List.takeWhile_eq_self_iff.mpr fun c hc => List.all_eq_true.mp hall c hc
  rw [leadingValue, htake]
  refine ⟨?_, Option.some.inj h, hlt⟩
  cases ds with
  | nil => exact absurd rfl hne
  | cons c cs => exact ⟨c, cs, rfl, List.all_eq_true.mp hall c (.head _)⟩

/-- A text that is an integer has this value. -/
theorem castInteger_of_sqlInteger {s : String} {n : Int} (h : sqlInteger s.toList = some n) :
    castInteger s = n := by
  rw [sqlInteger] at h
  generalize hcore : (s.toList.dropWhile sqlBlank).rdropWhile sqlBlank = core at h
  have hvalue : leadingInteger core = n ∧ ∃ c cs, core = c :: cs ∧ isBlank c = false := by
    split at h
    · rename_i ds
      obtain ⟨m, hm, rfl⟩ := Option.map_eq_some_iff.mp h
      obtain ⟨-, hval, hlt⟩ := unsignedInteger_spec hm
      refine ⟨?_, '-', ds, rfl, by decide⟩
      rw [leadingInteger, Nat.min_eq_left (Nat.le_of_lt hlt), hval]
    · obtain ⟨⟨c, cs, rfl, hc⟩, hval, hlt⟩ := unsignedInteger_spec h
      refine ⟨?_, c, cs, rfl, ?_⟩
      · rw [leadingInteger_unsigned ?_ ?_, Nat.min_eq_left (Nat.le_of_lt_succ hlt), hval]
        · rintro ⟨⟩; cases hc
        · rintro ⟨⟩; cases hc
      · cases hb : isBlank c with
        | false => rfl
        | true => cases hc.symm.trans (isDigit_of_isBlank hb)
  obtain ⟨hvalue, c, cs, hcs, hblank⟩ := hvalue
  have hsplit : s.toList = s.toList.takeWhile sqlBlank ++
      (core ++ (s.toList.dropWhile sqlBlank).rtakeWhile sqlBlank) := by
    rw [← hcore, List.rdropWhile_append_rtakeWhile, List.takeWhile_append_dropWhile]
  have hfront : s.toList.dropWhile isBlank =
      core ++ (s.toList.dropWhile sqlBlank).rtakeWhile sqlBlank := by
    rw [hsplit, List.dropWhile_append_of_pos fun c hc =>
      isBlank_of_sqlBlank (List.mem_takeWhile_imp hc), ← hsplit, hcs, List.cons_append,
      List.dropWhile_cons_of_neg (Bool.eq_false_iff.mp hblank)]
  rw [castInteger, hfront, leadingInteger_append _ fun c hc =>
    isBlank_of_sqlBlank (List.mem_rtakeWhile_imp hc), hvalue]

namespace AddressBook

/-- What the engine documents: it gives the rows that fulfil the condition, in some order; and rows
of the table only, unless the number of an internal phone is more than a number. -/
structure Documented (b : AddressBook) (u : PhoneLib) (digit : Char → Bool) : Prop where
  fulfil : ∀ sql cond numbers, meaning digit b.kind sql = some cond → NoNul numbers →
    ∃ rows, b.select sql numbers = some rows ∧ rows.Perm (numbers.filter (cond ·.canonical))
  stored : ∀ rp strNumber numbers rows, isInternalPhone rp strNumber = false ∨
    isNumber u (trim strNumber) = true →
      b.select (resolveSql b.kind rp strNumber) numbers = some rows → rows ⊆ numbers

/-! ### The scan -/

variable (b : AddressBook) (u : PhoneLib) (rp : GeneralPrefs) (digit : Char → Bool)
  (strNumber : String)

/-- A plain scan finds a number that matches. -/
def Scan : Prop := ∃ r ∈ b.db.numbers, isMatch u rp strNumber r.canonical = true

instance : Decidable (b.Scan u rp strNumber) :=
  inferInstanceAs (Decidable (∃ r ∈ b.db.numbers, _))

/-- The condition on the numbers of the book, when the documentation says what it is. -/
def condition : Option (String → Bool) :=
  if NoNul b.db.numbers then selected digit b.kind rp strNumber else none

/-- The statement selects the number: by the condition, or, where the text has no documented
meaning, by what the engine makes of it. -/
def Selects (r : NumberRow) : Prop :=
  match b.condition rp digit strNumber with
  | some cond => cond r.canonical = true
  | none => r ∈ (b.select (resolveSql b.kind rp strNumber) b.db.numbers).getD []

/-- When a stored number matches, the book is open and the statement selects one that matches. -/
def Keeps : Prop :=
  b.Scan u rp strNumber → b.ok = true ∧
    ∃ r ∈ b.db.numbers, isMatch u rp strNumber r.canonical = true ∧
      b.Selects rp digit strNumber r

/-- The number is found when one of the rows that are selected matches. -/
theorem resolve_true_iff (c : Contact) :
    (b.resolve u rp none strNumber c).1 = true ↔ b.ok = true ∧
      ∃ r ∈ (b.select (resolveSql b.kind rp strNumber) b.db.numbers).getD [],
        isMatch u rp strNumber r.canonical = true := by
  have hfound : (b.resolve u rp none strNumber c).1 = true ↔
      (b.matched u rp none strNumber).isSome = true := by
    rw [resolve_eq]
    cases b.matched u rp none strNumber <;> simp
  rw [hfound, matched, List.find?_isSome, fetched]
  cases hok : b.ok <;> simp [ResolveFault.fetch?]

variable {b u digit}

/-- A number that can match is no internal one, or it is a number. -/
theorem number_of_isMatch {nr : String} (h : isMatch u rp strNumber nr = true) :
    isInternalPhone rp strNumber = false ∨ isNumber u (trim strNumber) = true := by
  cases hi : isInternalPhone rp strNumber with
  | false => exact .inl rfl
  | true =>
      rw [isMatch, if_pos (show isInternalNumber rp (trim strNumber) = true from hi),
        Bool.and_eq_true] at h
      exact .inr h.1

/-- A number that matches is among the rows when it is stored and selected. -/
theorem mem_select_iff (hb : b.Documented u digit) {r : NumberRow}
    (hmatch : isMatch u rp strNumber r.canonical = true) :
    r ∈ (b.select (resolveSql b.kind rp strNumber) b.db.numbers).getD [] ↔
      r ∈ b.db.numbers ∧ b.Selects rp digit strNumber r := by
  have hstored : r ∈ (b.select (resolveSql b.kind rp strNumber) b.db.numbers).getD [] →
      r ∈ b.db.numbers := by
    intro hr
    cases hrows : b.select (resolveSql b.kind rp strNumber) b.db.numbers with
    | none =>
        rw [hrows] at hr
        cases hr
    | some rows =>
        rw [hrows] at hr
        exact hb.stored rp strNumber _ rows (number_of_isMatch rp strNumber hmatch) hrows hr
  rw [Selects]
  cases hcond : b.condition rp digit strNumber with
  | none => exact ⟨fun hr => ⟨hstored hr, hr⟩, fun hr => hr.2⟩
  | some cond =>
      rw [condition] at hcond
      split_ifs at hcond with hnul
      obtain ⟨rows, hrows, hperm⟩ := hb.fulfil _ cond b.db.numbers (meaning_resolveSql hcond) hnul
      rw [hrows, Option.getD_some]
      exact hperm.mem_iff.trans List.mem_filter

/-- **When the pre-filter agrees with the scan**: `resolve` finds a number exactly when a plain
scan over all stored numbers does, if and only if the statement selects one that matches, when
there is one. -/
theorem finds_iff (hb : b.Documented u digit) (c : Contact) :
    ((b.resolve u rp none strNumber c).1 = true ↔ b.Scan u rp strNumber) ↔
      b.Keeps u rp digit strNumber := by
  rw [resolve_true_iff]
  constructor
  · intro h hscan
    obtain ⟨hok, r, hr, hmatch⟩ := h.mpr hscan
    obtain ⟨hmem, hsel⟩ := (mem_select_iff rp strNumber hb hmatch).mp hr
    exact ⟨hok, r, hmem, hmatch, hsel⟩
  · intro h
    constructor
    · rintro ⟨-, r, hr, hmatch⟩
      exact ⟨r, ((mem_select_iff rp strNumber hb hmatch).mp hr).1, hmatch⟩
    · intro hscan
      obtain ⟨hok, r, hmem, hmatch, hsel⟩ := h hscan
      exact ⟨hok, r, (mem_select_iff rp strNumber hb hmatch).mpr ⟨hmem, hsel⟩, hmatch⟩

/-- There is no NUL among the blanks around a text. -/
theorem noNul_of_trim {s : String} (h : '\x00' ∉ (trim s).toList) : '\x00' ∉ s.toList := by
  have hsplit : s.toList = s.toList.takeWhile isBlank ++
      ((trim s).toList ++ (s.toList.dropWhile isBlank).rtakeWhile isBlank) := by
    rw [toList_trim, List.rdropWhile_append_rtakeWhile, List.takeWhile_append_dropWhile]
  intro hnul
  rw [hsplit, List.mem_append, List.mem_append] at hnul
  rcases hnul with hnul | hnul | hnul
  · exact absurd (List.mem_takeWhile_imp hnul) (by decide)
  · exact h hnul
  · exact absurd (List.mem_rtakeWhile_imp hnul) (by decide)

/-- **The value of an internal number keeps it**: in an open SQLite book the pre-filter drops no
match of a number that SQLite reads as an integer. -/
theorem keeps_internal {n : Int} (hkind : b.kind = .sqlite) (hok : b.ok = true)
    (hnul : NoNul b.db.numbers) (hstr : ∀ s, u.ofCString s = s)
    (hi : isInternalPhone rp strNumber = true)
    (hn : sqlInteger (toUTF8 strNumber).toList = some n) : b.Keeps u rp digit strNumber := by
  have hcond : b.condition rp digit strNumber =
      some fun canonical => castInteger canonical == n := by
    rw [condition, if_pos hnul, hkind, selected, if_pos hi, hn]
    rfl
  rintro ⟨r, hr, hmatch⟩
  refine ⟨hok, r, hr, hmatch, ?_⟩
  rw [Selects, hcond]
  have hcanonical : trim strNumber = r.canonical := by
    rw [isMatch, if_pos (show isInternalNumber rp (trim strNumber) = true from hi),
      Bool.and_eq_true, beq_iff_eq, hstr, cString_of_noNul (hnul r hr)] at hmatch
    exact hmatch.2
  have hnumber : toUTF8 strNumber = strNumber :=
    cString_of_noNul (noNul_of_trim (hcanonical ▸ hnul r hr))
  rw [hnumber] at hn
  refine beq_iff_eq.mpr ?_
  rw [← hcanonical, castInteger_eq, trim_trim, ← castInteger_eq]
  exact castInteger_of_sqlInteger hn

end AddressBook

/-! ### Numbers that are not found -/

/-- A book whose engine does what is documented, with one number. -/
def documentedBook (kind : BookKind) (canonical : String) : AddressBook where
  kind
  ok := true
  db := ⟨[⟨1, { Contact.create.texts with sn := "Bob" }⟩], [⟨1, 1, .home, canonical, ""⟩], 2, 2⟩
  select sql numbers :=
    (meaning Char.isDigit kind sql).map fun cond => numbers.filter (cond ·.canonical)

theorem documented (kind : BookKind) (canonical : String) (u : PhoneLib) :
    (documentedBook kind canonical).Documented u Char.isDigit := by
  constructor
  · intro sql cond numbers hmeaning _
    refine ⟨numbers.filter (cond ·.canonical), ?_, .refl _⟩
    have hsome : meaning Char.isDigit kind sql = some cond := hmeaning
    show (meaning Char.isDigit kind sql).map _ = _
    rw [hsome]
    rfl
  · intro rp strNumber numbers rows _ hrows
    obtain ⟨cond, -, rfl⟩ := Option.map_eq_some_iff.mp hrows
    exact List.filter_sublist.subset

/-- What is found in the book. -/
theorem resolve_documentedBook (kind : BookKind) (canonical : String) {u : PhoneLib}
    {rp : GeneralPrefs} {strNumber : String} {kept : Bool}
    (h : (selected Char.isDigit kind rp strNumber).map (· canonical) = some kept) (c : Contact) :
    ((documentedBook kind canonical).resolve u rp none strNumber c).1 = true ↔
      kept = true ∧ isMatch u rp strNumber canonical = true := by
  obtain ⟨cond, hcond, rfl⟩ := Option.map_eq_some_iff.mp h
  have hselect : (documentedBook kind canonical).select (resolveSql kind rp strNumber)
      (documentedBook kind canonical).db.numbers =
        some ([⟨1, 1, .home, canonical, ""⟩].filter (cond ·.canonical)) := by
    show (meaning Char.isDigit kind _).map _ = _
    rw [meaning_resolveSql hcond]
    rfl
  rw [AddressBook.resolve_true_iff, show (documentedBook kind canonical).kind = kind from rfl,
    hselect]
  cases hk : cond canonical <;> simp [documentedBook, hk]

theorem keeps_bob :
    (documentedBook .sqlite "+49 30 123456").Keeps germanLib .initial Char.isDigit
      "+4930123456" := by
  have hkept : (selected Char.isDigit .sqlite .initial "+4930123456").map (· "+49 30 123456") =
      some true := by decide +kernel
  have hcond : (documentedBook .sqlite "+49 30 123456").condition .initial Char.isDigit
      "+4930123456" = selected Char.isDigit .sqlite .initial "+4930123456" :=
    if_pos (by decide)
  have hmatch : isMatch germanLib .initial "+4930123456" "+49 30 123456" = true := by
    decide +kernel
  obtain ⟨cond, hsome, hkept⟩ := Option.map_eq_some_iff.mp hkept
  intro _
  refine ⟨rfl, ⟨1, 1, .home, "+49 30 123456", ""⟩, .head _, hmatch, ?_⟩
  rw [AddressBook.Selects, hcond, hsome]
  exact hkept

/-- The number `+49 30 123456` is found, where a scan finds it. -/
theorem finds_bob :
    ((documentedBook .sqlite "+49 30 123456").resolve germanLib .initial none "+4930123456"
        Contact.create).1 = true ↔
      (documentedBook .sqlite "+49 30 123456").Scan germanLib .initial "+4930123456" :=
  (AddressBook.finds_iff .initial "+4930123456"
    (documented .sqlite "+49 30 123456" germanLib) Contact.create).mpr keeps_bob

theorem not_found {kind : BookKind}
    (h : (selected Char.isDigit kind .initial "+4912345").map (· "012345") = some false) :
    ¬ (((documentedBook kind "012345").resolve germanLib .initial none "+4912345"
          Contact.create).1 = true ↔
        (documentedBook kind "012345").Scan germanLib .initial "+4912345") := by
  rw [resolve_documentedBook kind _ h]
  intro hiff
  exact Bool.false_ne_true (hiff.mpr ⟨_, .head _, by decide +kernel⟩).1

/-- The number `012345`, in its international form, is not found in a book that has it: its last
six characters are those of the area code and of the country code. -/
theorem short_number_dropped :
    ¬ (((documentedBook .sqlite "012345").resolve germanLib .initial none "+4912345"
          Contact.create).1 = true ↔
        (documentedBook .sqlite "012345").Scan germanLib .initial "+4912345") ∧
      ¬ (((documentedBook .psql "012345").resolve germanLib .initial none "+4912345"
          Contact.create).1 = true ↔
        (documentedBook .psql "012345").Scan germanLib .initial "+4912345") :=
  ⟨not_found (by decide +kernel), not_found (by decide +kernel)⟩

end Cmon
