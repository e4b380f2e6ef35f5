import Mathlib.Data.List.Basic

/-!
# Library — SQL text

The tokens of an SQL text, as a state machine over its characters: words and numbers, quoted
identifiers, string literals (a doubled quote is a quote), symbols; white space and comments are
dropped.  `lex` is `none` when the text ends inside a literal, a quoted identifier or a comment.

A *piece* of a text is a part that is fixed or a string that is put between quotes as it is.
`tokensOf ps` is what the text is meant to say: the tokens of its fixed parts, and one literal with
the string as its content for each string.

* `lex_text_iff`: the text of a list of pieces says what it is meant to say exactly when no
  string in it contains a quote.
* `lex_bare`: a string that is put into a text without quotes is never read as a literal with
  that content.
-/

namespace Cmon.Library.SqlText

inductive Token where
  | word (s : List Char)
  | ident (s : List Char)
  | str (s : List Char)
  | sym (c : Char)
  deriving DecidableEq, Repr

/-- Where the machine is: between tokens, or inside one; `quote` is behind a quote in a literal,
which ends it unless another follows. -/
inductive Mode where
  | plain
  | word (s : List Char)
  | ident (close : Char) (s : List Char)
  | str (s : List Char)
  | quote (s : List Char)
  | dash
  | slash
  | line
  | block
  | star
  deriving DecidableEq, Repr

structure State where
  done : List Token
  mode : Mode
  deriving DecidableEq, Repr

def isWord (c : Char) : Bool := c.isAlphanum || c = '_' || c = '$' || 128 ≤ c.toNat

def isSpace (c : Char) : Bool := c = ' ' || ('\t' ≤ c && c ≤ '\r')

/-- The first character of a token. -/
def start (done : List Token) (c : Char) : State :=
  if c = '\'' then ⟨done, .str []⟩
  else if c = '"' || c = '`' then ⟨done, .ident c []⟩
  else if c = '[' then ⟨done, .ident ']' []⟩
  else if c = '-' then ⟨done, .dash⟩
  else if c = '/' then ⟨done, .slash⟩
  else if isWord c then ⟨done, .word [c]⟩
  else if isSpace c then ⟨done, .plain⟩
  else ⟨done ++ [.sym c], .plain⟩

def step (s : State) (c : Char) : State :=
  match s.mode with
  | .plain => start s.done c
  | .word w => if isWord c then ⟨s.done, .word (w ++ [c])⟩ else start (s.done ++ [.word w]) c
  | .ident close w =>
      if c = close then ⟨s.done ++ [.ident w], .plain⟩ else ⟨s.done, .ident close (w ++ [c])⟩
  | .str w => if c = '\'' then ⟨s.done, .quote w⟩ else ⟨s.done, .str (w ++ [c])⟩
  | .quote w => if c = '\'' then ⟨s.done, .str (w ++ [c])⟩ else start (s.done ++ [.str w]) c
  | .dash => if c = '-' then ⟨s.done, .line⟩ else start (s.done ++ [.sym '-']) c
  | .slash => if c = '*' then ⟨s.done, .block⟩ else start (s.done ++ [.sym '/']) c
  | .line => if c = '\n' then ⟨s.done, .plain⟩ else s
  | .block => if c = '*' then ⟨s.done, .star⟩ else s
  | .star => if c = '/' then ⟨s.done, .plain⟩ else if c = '*' then s else ⟨s.done, .block⟩

/-- The tokens at the end of a text. -/
def finish (s : State) : Option (List Token) :=
  match s.mode with
  | .plain | .line => some s.done
  | .word w => some (s.done ++ [.word w])
  | .quote w => some (s.done ++ [.str w])
  | .dash => some (s.done ++ [.sym '-'])
  | .slash => some (s.done ++ [.sym '/'])
  | .ident _ _ | .str _ | .block | .star => none

def scan (s : State) (cs : List Char) : State := cs.foldl step s

def lex (cs : List Char) : Option (List Token) := finish (scan ⟨[], .plain⟩ cs)

/-! ### The machine -/

@[simp] theorem scan_nil (s : State) : scan s [] = s := rfl

@[simp] theorem scan_cons (s : State) (c : Char) (cs : List Char) :
    scan s (c :: cs) = scan (step s c) cs := rfl

theorem scan_append (s : State) (as bs : List Char) : scan s (as ++ bs) = scan (scan s as) bs :=
  List.foldl_append ..

/-- The state with more tokens in front. -/
def State.after (ts : List Token) (s : State) : State := ⟨ts ++ s.done, s.mode⟩

theorem start_after (ts done : List Token) (c : Char) :
    start (ts ++ done) c = (start done c).after ts := by
  simp only [start, State.after]
  split_ifs <;> simp

theorem step_after (ts : List Token) (s : State) (c : Char) :
    step (s.after ts) c = (step s c).after ts := by
  obtain ⟨done, mode⟩ := s
  cases mode <;> simp only [step, State.after, List.append_assoc]
  case plain => exact start_after ts done c
  all_goals
    split_ifs <;> first | rfl | exact start_after ts _ c

theorem scan_after (ts : List Token) (cs : List Char) (s : State) :
    scan (s.after ts) cs = (scan s cs).after ts := by
  induction cs generalizing s with
  | nil => rfl
  | cons c cs ih => rw [scan_cons, step_after, ih, scan_cons]

theorem finish_after (ts : List Token) (s : State) :
    finish (s.after ts) = (finish s).map (ts ++ ·) := by
  obtain ⟨done, mode⟩ := s
  cases mode <;> simp [finish, State.after]

/-- The tokens read so far stay. -/
theorem finish_scan_plain (ts : List Token) (cs : List Char) :
    finish (scan ⟨ts, .plain⟩ cs) = (lex cs).map (ts ++ ·) := by
  have h := scan_after ts cs ⟨[], .plain⟩
  rw [State.after, List.append_nil] at h
  rw [h, finish_after, lex]

theorem exists_more {ts toks : List Token} {mode : Mode} {cs : List Char}
    (h : finish (scan ⟨ts, mode⟩ cs) = some toks) : ∃ more, toks = ts ++ more := by
  have hs : (⟨ts, mode⟩ : State) = State.after ts ⟨[], mode⟩ := by simp [State.after]
  rw [hs, scan_after, finish_after] at h
  obtain ⟨more, -, rfl⟩ := Option.map_eq_some_iff.mp h
  exact ⟨more, rfl⟩

/-- The text ends between two tokens. -/
def EndsPlain (cs : List Char) : Prop := (scan ⟨[], .plain⟩ cs).mode = .plain

instance (cs : List Char) : Decidable (EndsPlain cs) := inferInstanceAs (Decidable (_ = _))

/-- A text that ends between two tokens is read by itself. -/
theorem lex_append {as : List Char} (h : EndsPlain as) (bs : List Char) :
    lex (as ++ bs) = (lex bs).map ((lex as).getD [] ++ ·) := by
  rw [EndsPlain] at h
  generalize has : scan ⟨[], .plain⟩ as = s at h
  obtain ⟨done, mode⟩ := s
  obtain rfl : mode = .plain := h
  have hlex : lex as = some done := by rw [lex, has]; rfl
  rw [lex, scan_append, has, finish_scan_plain, hlex, Option.getD_some]

theorem EndsPlain.append {as bs : List Char} (has : EndsPlain as) (hbs : EndsPlain bs) :
    EndsPlain (as ++ bs) := by
  rw [EndsPlain] at *
  generalize h : scan ⟨[], .plain⟩ as = s at has
  obtain ⟨done, mode⟩ := s
  obtain rfl : mode = .plain := has
  have hdone := scan_after done bs ⟨[], .plain⟩
  rw [State.after, List.append_nil] at hdone
  rw [scan_append, h, hdone]
  exact hbs

theorem EndsPlain.isSome {as bs : List Char} (has : EndsPlain as) (hbs : (lex bs).isSome = true) :
    (lex (as ++ bs)).isSome = true := by
  rw [lex_append has, Option.isSome_map]
  exact hbs

/-! ### Literals -/

/-- The text of a literal with the content `w`, without the quotes around it. -/
def escape (w : List Char) : List Char := w.flatMap fun c => if c = '\'' then [c, c] else [c]

@[simp] theorem escape_nil : escape [] = [] := rfl

theorem escape_quote (w : List Char) : escape ('\'' :: w) = '\'' :: '\'' :: escape w := rfl

theorem escape_cons {c : Char} (h : c ≠ '\'') (w : List Char) : escape (c :: w) = c :: escape w := by
  simp [escape, h]

/-- A literal without a quote in it is read as it is. -/
theorem scan_clean (ts : List Token) {w : List Char} (h : '\'' ∉ w) (acc rest : List Char) :
    scan ⟨ts, .str acc⟩ (w ++ '\'' :: rest) = scan ⟨ts, .quote (acc ++ w)⟩ rest := by
  induction w generalizing acc with
  | nil => simp [step]
  | cons c w ih =>
      obtain ⟨hc, hw⟩ := not_or.mp (mt List.mem_cons.mpr h)
      rw [List.cons_append, scan_cons, show step ⟨ts, .str acc⟩ c = ⟨ts, .str (acc ++ [c])⟩ from
        if_neg (Ne.symm hc), ih hw, List.append_assoc]
      rfl

/-- Behind the quote that ends it, a literal is a token. -/
theorem scan_quote (ts : List Token) (w : List Char) {rest : List Char}
    (h : rest.head? ≠ some '\'') :
    finish (scan ⟨ts, .quote w⟩ rest) = finish (scan ⟨ts ++ [.str w], .plain⟩ rest) := by
  cases rest with
  | nil => rfl
  | cons c rest =>
      have hc : c ≠ '\'' := fun e => h (congrArg some e)
      rw [scan_cons, scan_cons, show step ⟨ts, .quote w⟩ c = start (ts ++ [.str w]) c from if_neg hc]
      rfl

/-- What is read as a literal is one: its text is the escaped content and a quote.  Behind a quote
the literal goes on when that quote was half of an escaped one. -/
theorem str_quote_sound {ts toks : List Token} (x : List Char) :
    (∀ acc, finish (scan ⟨ts, .str acc⟩ x) = some toks → ∃ c x' more,
      toks = ts ++ .str (acc ++ c) :: more ∧ x = escape c ++ '\'' :: x') ∧
    ∀ acc, finish (scan ⟨ts, .quote acc⟩ x) = some toks → ∃ c x' more,
      toks = ts ++ .str (acc ++ c) :: more ∧ '\'' :: x = escape c ++ '\'' :: x' := by
  induction x with
  | nil =>
      refine ⟨fun acc h => (nomatch h), fun acc h => ?_⟩
      have htoks : some (ts ++ [Token.str acc]) = some toks := h
      exact ⟨[], [], [], by rw [List.append_nil]; exact (Option.some.inj htoks).symm, rfl⟩
  | cons d x ih =>
      obtain ⟨ihstr, ihquote⟩ := ih
      refine ⟨fun acc h => ?_, fun acc h => ?_⟩
      · by_cases hd : d = '\''
        · subst hd
          exact ihquote acc h
        · rw [scan_cons, show step ⟨ts, .str acc⟩ d = ⟨ts, .str (acc ++ [d])⟩ from if_neg hd] at h
          obtain ⟨c, x', more, rfl, rfl⟩ := ihstr _ h
          exact ⟨d :: c, x', more, by simp, by rw [escape_cons hd]; rfl⟩
      · by_cases hd : d = '\''
        · subst hd
          rw [scan_cons, show step ⟨ts, .quote acc⟩ '\'' = ⟨ts, .str (acc ++ ['\''])⟩ from rfl] at h
          obtain ⟨c, x', more, rfl, rfl⟩ := ihstr _ h
          exact ⟨'\'' :: c, x', more, by simp, by rw [escape_quote]; rfl⟩
        · have hq : (d :: x).head? ≠ some '\'' := fun e => hd (Option.some.inj e)
          rw [scan_quote ts acc hq] at h
          obtain ⟨more, rfl⟩ := exists_more h
          exact ⟨[], d :: x, more, by simp, rfl⟩

theorem str_sound {toks : List Token} {x : List Char}
    (h : lex ('\'' :: x) = some toks) :
    ∃ c x' more, toks = .str c :: more ∧ x = escape c ++ '\'' :: x' :=
  (str_quote_sound x).1 [] h

/-! ### Unescaped text that passes for escaped text -/

/-- The string ends, and not with a quote. -/
def EndsClean (w : List Char) : Prop := ∃ v c, w = v ++ [c] ∧ c ≠ '\''

theorem EndsClean.tail {c : Char} {w : List Char} (h : EndsClean (c :: w)) :
    (w = [] ∧ c ≠ '\'') ∨ EndsClean w := by
  obtain ⟨v, d, e, hd⟩ := h
  cases v with
  | nil =>
      obtain ⟨rfl, rfl⟩ := List.cons.inj e
      exact .inl ⟨rfl, hd⟩
  | cons a v => exact .inr ⟨v, d, (List.cons.inj e).2, hd⟩

/-- With a quote ahead the escaped text cannot be caught up with. -/
theorem escape_ahead {k : Nat} {w rest rest' : List Char} (hw : EndsClean w) :
    w ++ '\'' :: rest ≠ List.replicate (k + 1) '\'' ++ (escape w ++ '\'' :: rest') := by
  induction w generalizing k with
  | nil =>
      obtain ⟨v, c, e, -⟩ := hw
      simp at e
  | cons c w ih =>
      intro h
      rw [List.replicate_succ, List.cons_append, List.cons_append] at h
      obtain ⟨rfl, h⟩ := List.cons.inj h
      rcases hw.tail with ⟨-, hc⟩ | hw'
      · exact hc rfl
      · -- a quote of the string takes one of those ahead and puts two behind them
        refine ih (k := k + 1) hw' (h.trans ?_)
        rw [escape_quote, List.replicate_succ', List.replicate_succ']
        simp

theorem count_escape (w : List Char) : (escape w).count '\'' = 2 * w.count '\'' := by
  induction w with
  | nil => rfl
  | cons c w ih =>
      by_cases hc : c = '\''
      · subst hc
        rw [escape_quote, List.count_cons_self, List.count_cons_self, ih, List.count_cons_self]
        omega
      · rw [escape_cons hc, List.count_cons_of_ne hc, List.count_cons_of_ne hc, ih]

/-- A string that is its own escaped text has no quote in it. -/
theorem clean_of_escape {w rest rest' : List Char} (hw : EndsClean w ∨ '\'' ∉ rest)
    (h : w ++ '\'' :: rest = escape w ++ '\'' :: rest') : '\'' ∉ w := by
  rcases hw with hw | hrest
  · induction w with
    | nil => exact List.not_mem_nil
    | cons c w ih =>
        by_cases hc : c = '\''
        · subst hc
          rw [escape_quote, List.cons_append, List.cons_append] at h
          rcases hw.tail with ⟨-, hc⟩ | hw'
          · exact absurd rfl hc
          · exact absurd (List.cons.inj h).2 (escape_ahead (k := 0) hw')
        · rw [escape_cons hc, List.cons_append, List.cons_append] at h
          rcases hw.tail with ⟨rfl, -⟩ | hw'
          · simpa using Ne.symm hc
          · exact fun hm => (List.mem_cons.mp hm).elim (fun e => hc e.symm)
              (ih (List.cons.inj h).2 hw')
  · -- the escaped text has twice the quotes, and none of `rest` can make up for them
    have hcount := congrArg (List.count '\'') h
    rw [List.count_append, List.count_append, List.count_cons_self, List.count_cons_self,
      count_escape, List.count_eq_zero_of_not_mem hrest] at hcount
    exact List.count_eq_zero.mp (by omega)

/-! ### Pieces -/

/-- A part of a text: as it stands, or a string between quotes. -/
inductive Piece where
  | fixed (s : List Char)
  | lit (w : List Char)
  deriving DecidableEq, Repr

/-- The text of the pieces. -/
def text : List Piece → List Char
  | [] => []
  | .fixed s :: ps => s ++ text ps
  | .lit w :: ps => '\'' :: (w ++ '\'' :: text ps)

/-- What the pieces are meant to say. -/
def tokensOf : List Piece → List Token
  | [] => []
  | .fixed s :: ps => (lex s).getD [] ++ tokensOf ps
  | .lit w :: ps => .str w :: tokensOf ps

/-- The pieces can be told apart: a fixed part ends between two tokens, or is the last; behind a
string there is no quote; and a string that ends with a quote is followed by no further one. -/
def Joined : List Piece → Prop
  | [] => True
  | .fixed s :: ps =>
      (EndsPlain s ∨ ps = [] ∧ (lex s).isSome = true) ∧ Joined ps
  | .lit w :: ps =>
      (text ps).head? ≠ some '\'' ∧ (EndsClean w ∨ '\'' ∉ text ps) ∧ Joined ps

/-- No string of the pieces has a quote in it. -/
def Clean (ps : List Piece) : Prop := ∀ w, .lit w ∈ ps → '\'' ∉ w

@[simp] theorem clean_nil : Clean [] := fun _ hw => absurd hw List.not_mem_nil

@[simp] theorem clean_fixed (s : List Char) (ps : List Piece) :
    Clean (.fixed s :: ps) ↔ Clean ps := by
  simp [Clean]

@[simp] theorem clean_lit (w : List Char) (ps : List Piece) :
    Clean (.lit w :: ps) ↔ '\'' ∉ w ∧ Clean ps := by
  simp [Clean]

@[simp] theorem clean_append (ps qs : List Piece) : Clean (ps ++ qs) ↔ Clean ps ∧ Clean qs := by
  constructor
  · intro h
    exact ⟨fun w hw => h w (List.mem_append_left _ hw), fun w hw => h w (List.mem_append_right _ hw)⟩
  · rintro ⟨hps, hqs⟩ w hw
    exact (List.mem_append.mp hw).elim (hps w) (hqs w)

@[simp] theorem text_append (ps qs : List Piece) : text (ps ++ qs) = text ps ++ text qs := by
  induction ps with
  | nil => rfl
  | cons p ps ih => cases p <;> simp [text, ih]

/-- Whatever can be told apart can still be told apart behind these pieces. -/
def Closed (ps : List Piece) : Prop := ∀ qs, Joined qs → Joined (ps ++ qs)

theorem closed_nil : Closed [] := fun _ h => h

theorem Closed.append {ps qs : List Piece} (hps : Closed ps) (hqs : Closed qs) :
    Closed (ps ++ qs) := by
  intro rs hrs
  rw [List.append_assoc]
  exact hps _ (hqs rs hrs)

theorem closed_fixed {s : List Char} (h : EndsPlain s) :
    Closed [.fixed s] :=
  fun _ hqs => ⟨.inl h, hqs⟩

/-- A string that does not end with a quote, and a fixed part that does not begin with one. -/
theorem closed_lit {w s : List Char} {c : Char} (hw : EndsClean w) (hc : c ≠ '\'')
    (h : EndsPlain (c :: s)) : Closed [.lit w, .fixed (c :: s)] :=
  fun _ hqs => ⟨fun e => hc (Option.some.inj e), .inl hw, .inl h, hqs⟩

/-- A string without a quote is read as a literal. -/
theorem lex_lit {w : List Char} (hw : '\'' ∉ w) {cs : List Char} (hcs : cs.head? ≠ some '\'') :
    lex ('\'' :: (w ++ '\'' :: cs)) = (lex cs).map (.str w :: ·) := by
  show finish (scan ⟨[], .str []⟩ (w ++ '\'' :: cs)) = _
  rw [scan_clean [] hw, scan_quote [] _ hcs, finish_scan_plain]
  rfl

/-- **The text of the pieces says what it is meant to say exactly when no string has a quote in
it.** -/
theorem lex_text_iff {ps : List Piece} (hj : Joined ps) :
    lex (text ps) = some (tokensOf ps) ↔ Clean ps := by
  induction ps with
  | nil => exact iff_of_true rfl clean_nil
  | cons p ps ih =>
      cases p with
      | fixed s =>
          obtain ⟨hs, hj⟩ := hj
          rw [clean_fixed, ← ih hj, text, tokensOf]
          rcases hs with hs | ⟨rfl, hs⟩
          · rw [lex_append hs]
            cases lex (text ps) <;> simp
          · obtain ⟨toks, htoks⟩ := Option.isSome_iff_exists.mp hs
            simp only [text, tokensOf, List.append_nil, htoks, Option.getD_some]
            exact iff_of_true trivial rfl
      | lit w =>
          obtain ⟨hhead, hend, hj⟩ := hj
          rw [clean_lit, ← ih hj, text, tokensOf]
          constructor
          · -- the literal that is read is escaped text, and here it is the string itself
            intro h
            obtain ⟨c, x', more, htoks, hx⟩ := str_sound h
            obtain ⟨hc, -⟩ := List.cons.inj htoks
            obtain rfl := Token.str.inj hc
            have hw := clean_of_escape hend hx
            rw [lex_lit hw hhead] at h
            refine ⟨hw, ?_⟩
            cases hl : lex (text ps) with
            | none => rw [hl] at h; cases h
            | some toks =>
                rw [hl] at h
                exact congrArg some (List.cons.inj (Option.some.inj h)).2
          · rintro ⟨hw, h⟩
            rw [lex_lit hw hhead, h]
            rfl

/-! ### Strings without quotes around them -/

/-- No literal is longer than the text that was read, the quotes included. -/
def Within (n : Nat) (s : State) : Prop :=
  (∀ w, .str w ∈ s.done → w.length + 2 ≤ n) ∧
    (∀ w, s.mode = .str w → w.length + 1 ≤ n) ∧ ∀ w, s.mode = .quote w → w.length + 2 ≤ n

theorem within_start {n : Nat} {done : List Token} (h : ∀ w, .str w ∈ done → w.length + 2 ≤ n)
    (c : Char) : Within (n + 1) (start done c) := by
  have h' : ∀ w, .str w ∈ done → w.length + 2 ≤ n + 1 := fun w hw => Nat.le_succ_of_le (h w hw)
  rw [start]
  split_ifs <;> refine ⟨?_, ?_, ?_⟩ <;> simp_all

theorem Within.step {n : Nat} {s : State} (h : Within n s) (c : Char) :
    Within (n + 1) (step s c) := by
  obtain ⟨done, mode⟩ := s
  obtain ⟨hdone, hstr, hquote⟩ := h
  have hmore : ∀ t : Token, (∀ w, t = .str w → w.length + 2 ≤ n) →
      ∀ w, .str w ∈ done ++ [t] → w.length + 2 ≤ n := by
    intro t ht w hw
    rcases List.mem_append.mp hw with hw | hw
    · exact hdone w hw
    · exact ht w (List.mem_singleton.mp hw).symm
  have hdone' : ∀ w, .str w ∈ done → w.length + 2 ≤ n + 1 := fun w hw =>
    Nat.le_succ_of_le (hdone w hw)
  cases mode with
  | plain => exact within_start hdone c
  | word w =>
      by_cases hc : isWord c
      · simp only [SqlText.step, hc, if_true]
        exact ⟨hdone', by simp, by simp⟩
      · simp only [SqlText.step, hc]
        exact within_start (hmore _ (by simp)) c
  | ident close w =>
      have hi := hmore (.ident w) (by simp)
      simp only [SqlText.step]
      split_ifs
      · exact ⟨fun v hv => Nat.le_succ_of_le (hi v hv), by simp, by simp⟩
      · exact ⟨hdone', by simp, by simp⟩
  | str w =>
      have hw := hstr w rfl
      simp only [SqlText.step]
      split_ifs
      · exact ⟨hdone', by simp, by simpa using hw⟩
      · exact ⟨hdone', by simpa using hw, by simp⟩
  | quote w =>
      -- the quote before `c` has ended the literal, unless `c` is its second half
      have hw := hquote w rfl
      by_cases hc : c = '\''
      · simp only [SqlText.step, hc, if_true]
        exact ⟨hdone', by simp; omega, by simp⟩
      · simp only [SqlText.step, hc, if_false]
        exact within_start (hmore _ (by rintro v ⟨⟩; exact hw)) c
  | dash =>
      by_cases hc : c = '-'
      · simp only [SqlText.step, hc, if_true]
        exact ⟨hdone', by simp, by simp⟩
      · simp only [SqlText.step, hc, if_false]
        exact within_start (hmore _ (by simp)) c
  | slash =>
      by_cases hc : c = '*'
      · simp only [SqlText.step, hc, if_true]
        exact ⟨hdone', by simp, by simp⟩
      · simp only [SqlText.step, hc, if_false]
        exact within_start (hmore _ (by simp)) c
  | line | block | star =>
      simp only [SqlText.step]
      split_ifs <;> exact ⟨hdone', by simp, by simp⟩

theorem within_scan {n : Nat} {s : State} (h : Within n s) (cs : List Char) :
    Within (n + cs.length) (scan s cs) := by
  induction cs generalizing n s with
  | nil => exact h
  | cons c cs ih =>
      rw [scan_cons, List.length_cons, Nat.add_comm cs.length, ← Nat.add_assoc]
      exact ih (h.step c)

/-- A literal is shorter than the text it stands in. -/
theorem length_of_str_mem {cs : List Char} {toks : List Token} (h : lex cs = some toks)
    {w : List Char} (hw : .str w ∈ toks) : w.length + 2 ≤ cs.length := by
  have hin : Within cs.length (scan ⟨[], .plain⟩ cs) := by
    simpa using within_scan (n := 0) (s := ⟨[], .plain⟩) ⟨by simp, by simp, by simp⟩ cs
  rw [lex] at h
  generalize scan ⟨[], .plain⟩ cs = s at h hin
  obtain ⟨done, mode⟩ := s
  obtain ⟨hdone, -, hquote⟩ := hin
  cases mode <;> simp only [finish, Option.some.injEq, reduceCtorEq] at h <;> subst h
  case quote v =>
    rcases List.mem_append.mp hw with hw | hw
    · exact hdone w hw
    · obtain rfl := Token.str.inj (List.mem_singleton.mp hw)
      exact hquote w rfl
  all_goals
    refine hdone w ?_
    simpa using hw

/-- **A string that is put behind a fixed part without quotes is not read as a literal with that
content.** -/
theorem lex_bare {s : List Char} (h : EndsPlain s) (w : List Char) :
    lex (s ++ w) ≠ some ((lex s).getD [] ++ [.str w]) := by
  intro hlex
  rw [lex_append h] at hlex
  obtain ⟨toks, htoks, e⟩ := Option.map_eq_some_iff.mp hlex
  obtain rfl := List.append_cancel_left e
  have hlen := length_of_str_mem htoks (List.mem_singleton_self _)
  omega

end Cmon.Library.SqlText
