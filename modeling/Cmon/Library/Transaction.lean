import Mathlib.Data.Option.Basic

/-!
# Library — transactions beside a memory

A program that updates a store inside a transaction, and its own memory outside any: when a
statement fails, the transaction is rolled back and the memory is not.

`Tx σ μ α` is the body of such a transaction, over a store `σ` and a memory `μ`.  A statement
(`stmt`) fails when the store refuses it, and at one more place that is chosen from outside: the
*fuse* of the running body says how many statements are still carried out before one fails,
`none` when no failure is in store.  `transact` runs a body and commits; the commit is one more
statement.  On a failure the store is what `restore` makes of the store at the start and the
store at the failure: `fun s _ => s` for a store that is rolled back completely.

`Takes` is the behaviour of a body that the store does not refuse: the number of statements it
takes, what it returns, and that a shorter fuse makes it fail.  `Keeps` is an invariant of store
and memory that survives every run, failed ones included.  `Triple` is what holds of the store
after a run that does not fail, refusals or not.  `Turns` is for a body whose memory a
failure leaves in one of two ways, by whether it comes before or after a certain statement.
-/

namespace Cmon.Library

/-- A body under way.  The fuse is the number of statements still carried out before one fails;
`none`: no statement fails. -/
structure TxState (σ μ : Type) where
  store : σ
  mem : μ
  fuse : Option Nat

/-- A body that returns a value, or stops at a failed statement. -/
def Tx (σ μ α : Type) := TxState σ μ → Option α × TxState σ μ

namespace Tx
variable {σ μ α β : Type}

instance : Monad (Tx σ μ) where
  pure a := fun t => (some a, t)
  bind p f := fun t =>
    match p t with
    | (some a, t') => f a t'
    | (none, t') => (none, t')

/-- One statement: `none` when the store refuses it. -/
def stmt (f : σ → Option (α × σ)) : Tx σ μ α := fun t =>
  match t.fuse with
  | some 0 => (none, t)
  | fuse =>
      match f t.store with
      | none => (none, t)
      | some (a, s) => (some a, { t with store := s, fuse := fuse.map (· - 1) })

def read (f : σ → α) : Tx σ μ α := stmt fun s => some (f s, s)

def write (f : σ → σ) : Tx σ μ Unit := stmt fun s => some ((), f s)

def getMem : Tx σ μ μ := fun t => (some t.mem, t)

/-- A change of the memory: no statement, and it does not fail. -/
def modMem (g : μ → μ) : Tx σ μ Unit := fun t => (some (), { t with mem := g t.mem })

/-- A part of a body that runs under a condition. -/
def when (c : Bool) (p : Tx σ μ Unit) : Tx σ μ Unit := if c then p else pure ()

/-- The commit changes nothing that the statements have not changed. -/
def commit : Tx σ μ Unit := write id

/-- Run a body and commit.  The first component says whether the transaction succeeded. -/
def transact (restore : σ → σ → σ) (body : Tx σ μ Unit) (fuse : Option Nat) (s : σ) (m : μ) :
    Bool × σ × μ :=
  match (body >>= fun _ => commit) ⟨s, m, fuse⟩ with
  | (some _, t) => (true, t.store, t.mem)
  | (none, t) => (false, restore s t.store, t.mem)

/-! ### Equations -/

theorem bind_some {p : Tx σ μ α} {f : α → Tx σ μ β} {t t' : TxState σ μ} {a : α}
    (h : p t = (some a, t')) : (p >>= f) t = f a t' := by
  show (match p t with | (some a, t') => f a t' | (none, t') => (none, t')) = _
  rw [h]

theorem bind_none {p : Tx σ μ α} {f : α → Tx σ μ β} {t t' : TxState σ μ}
    (h : p t = (none, t')) : (p >>= f) t = (none, t') := by
  show (match p t with | (some a, t') => f a t' | (none, t') => (none, t')) = _
  rw [h]

/-- A body either stops in its first part or goes on from where that part ended. -/
theorem bind_cases (p : Tx σ μ α) (f : α → Tx σ μ β) (t : TxState σ μ) :
    (∃ t', p t = (none, t') ∧ (p >>= f) t = (none, t')) ∨
      ∃ a t', p t = (some a, t') ∧ (p >>= f) t = f a t' := by
  rcases h : p t with ⟨_ | a, t'⟩
  · exact .inl ⟨t', rfl, bind_none h⟩
  · exact .inr ⟨a, t', rfl, bind_some h⟩

/-! ### Invariants of store and memory -/

/-- `I` survives every run of `p`, a failed one included. -/
def Keeps (I : σ → μ → Prop) (p : Tx σ μ α) : Prop :=
  ∀ t, I t.store t.mem → I (p t).2.store (p t).2.mem

namespace Keeps
variable {I : σ → μ → Prop}

theorem pure (a : α) : Keeps I (Pure.pure a : Tx σ μ α) := fun _ h => h

theorem bind {p : Tx σ μ α} {f : α → Tx σ μ β} (hp : Keeps I p) (hf : ∀ a, Keeps I (f a)) :
    Keeps I (p >>= f) := by
  intro t ht
  have h := hp t ht
  rcases bind_cases p f t with ⟨t', e, e'⟩ | ⟨a, t', e, e'⟩
  · rw [e'] ; rwa [e] at h
  · rw [e']; rw [e] at h; exact hf a t' h

theorem stmt {f : σ → Option (α × σ)} (h : ∀ s m a s', I s m → f s = some (a, s') → I s' m) :
    Keeps I (Tx.stmt f) := by
  intro t ht
  rw [Tx.stmt]
  split
  · exact ht
  · split
    · exact ht
    · rename_i e; exact h _ _ _ _ ht e

theorem read (f : σ → α) : Keeps I (Tx.read f) :=
  stmt fun _ _ _ _ h e => by cases e; exact h

theorem write {f : σ → σ} (h : ∀ s m, I s m → I (f s) m) : Keeps I (Tx.write f) :=
  stmt fun _ _ _ _ hs e => by cases e; exact h _ _ hs

theorem getMem : Keeps I (Tx.getMem : Tx σ μ μ) := fun _ h => h

theorem when (c : Bool) {p : Tx σ μ Unit} (h : Keeps I p) : Keeps I (Tx.when c p) := by
  cases c
  · exact pure ()
  · exact h

theorem modMem {g : μ → μ} (h : ∀ s m, I s m → I s (g m)) : Keeps I (Tx.modMem g) :=
  fun _ ht => h _ _ ht

end Keeps

/-- What every run of the body keeps holds of the store and memory the transaction ends with,
the store before `restore` is applied. -/
theorem transact_keeps {I : σ → μ → Prop} {body : Tx σ μ Unit} (h : Keeps I body)
    (restore : σ → σ → σ) (fuse : Option Nat) {s : σ} {m : μ} (hI : I s m) :
    ∃ ok s' m', transact restore body fuse s m = (ok, if ok then s' else restore s s', m') ∧
      I s' m' := by
  have hc : Keeps I (body >>= fun _ => (commit : Tx σ μ Unit)) :=
    h.bind fun _ => Keeps.write fun _ _ hs => hs
  have hk := hc ⟨s, m, fuse⟩ hI
  rw [transact]
  rcases e : (body >>= fun _ => (commit : Tx σ μ Unit)) ⟨s, m, fuse⟩ with ⟨_ | u, t⟩
  · rw [e] at hk; exact ⟨false, t.store, t.mem, rfl, hk⟩
  · rw [e] at hk; exact ⟨true, t.store, t.mem, rfl, hk⟩

/-! ### Runs that do not fail -/

/-- A run of `p` from a store with `P`, when it does not fail and returns `a`, ends with a store
with `Q a`. -/
def Triple (P : σ → Prop) (p : Tx σ μ α) (Q : α → σ → Prop) : Prop :=
  ∀ t a t', P t.store → p t = (some a, t') → Q a t'.store

namespace Triple
variable {P : σ → Prop} {Q : α → σ → Prop}

theorem pure {a : α} (h : ∀ s, P s → Q a s) : Triple P (Pure.pure a : Tx σ μ α) Q := by
  rintro t _ _ ht ⟨⟩
  exact h _ ht

theorem bind {R : α → σ → Prop} {Q : β → σ → Prop} {p : Tx σ μ α} {f : α → Tx σ μ β}
    (hp : Triple P p R) (hf : ∀ a, Triple (R a) (f a) Q) : Triple P (p >>= f) Q := by
  intro t b t' ht e
  rcases bind_cases p f t with ⟨t₁, -, e'⟩ | ⟨a, t₁, e₁, e'⟩
  · rw [e'] at e
    cases e
  · exact hf a t₁ b t' (hp t a t₁ ht e₁) (e' ▸ e)

theorem stmt {f : σ → Option (α × σ)} (h : ∀ s a s', P s → f s = some (a, s') → Q a s') :
    Triple P (Tx.stmt f : Tx σ μ α) Q := by
  intro t a t' ht e
  rw [Tx.stmt] at e
  split at e
  · cases e
  · split at e
    · cases e
    · rename_i e₁
      cases e
      exact h _ _ _ ht e₁

theorem read {f : σ → α} (h : ∀ s, P s → Q (f s) s) : Triple P (Tx.read f : Tx σ μ α) Q :=
  stmt fun _ _ _ hs e => by cases e; exact h _ hs

theorem write {f : σ → σ} {Q : Unit → σ → Prop} (h : ∀ s, P s → Q () (f s)) :
    Triple P (Tx.write f : Tx σ μ Unit) Q :=
  stmt fun _ _ _ hs e => by cases e; exact h _ hs

theorem modMem (g : μ → μ) : Triple P (Tx.modMem g) fun _ => P := by
  rintro t _ _ ht ⟨⟩
  exact ht

theorem getMem : Triple P (Tx.getMem : Tx σ μ μ) fun _ => P := by
  rintro t _ _ ht ⟨⟩
  exact ht

end Triple

/-- What a committed transaction leaves in the store. -/
theorem transact_triple {P : σ → Prop} {Q : Unit → σ → Prop} {body : Tx σ μ Unit}
    (h : Triple P body Q) {restore : σ → σ → σ} {fuse : Option Nat} {s : σ} {m : μ} (hs : P s)
    (hok : (transact restore body fuse s m).1 = true) :
    Q () (transact restore body fuse s m).2.1 := by
  have hc : Triple P (body >>= fun _ => (commit : Tx σ μ Unit)) Q :=
    h.bind fun _ => .write fun _ hq => hq
  rw [transact] at hok ⊢
  rcases e : (body >>= fun _ => (commit : Tx σ μ Unit)) ⟨s, m, fuse⟩ with ⟨_ | u, t⟩
  · rw [e] at hok
    cases hok
  · exact hc _ _ _ hs e

/-! ### Bodies the store does not refuse -/

/-- From `(s, m)` the body takes `n` statements, returns `a` and ends at `(s', m')`; a fuse
shorter than `n` makes it fail. -/
structure Takes (p : Tx σ μ α) (s : σ) (m : μ) (n : Nat) (a : α) (s' : σ) (m' : μ) : Prop where
  free : p ⟨s, m, none⟩ = (some a, ⟨s', m', none⟩)
  enough : ∀ k, p ⟨s, m, some (n + k)⟩ = (some a, ⟨s', m', some k⟩)
  short : ∀ k, k < n → (p ⟨s, m, some k⟩).1 = none

namespace Takes

theorem pure (a : α) (s : σ) (m : μ) : Takes (Pure.pure a : Tx σ μ α) s m 0 a s m where
  free := rfl
  enough k := by rw [Nat.zero_add]; rfl
  short k h := absurd h (Nat.not_lt_zero k)

theorem stmt {f : σ → Option (α × σ)} {s s' : σ} {a : α} (h : f s = some (a, s')) (m : μ) :
    Takes (Tx.stmt f) s m 1 a s' m where
  free := by simp [Tx.stmt, h]
  enough k := by rw [Nat.add_comm]; simp [Tx.stmt, h]
  short k hk := by obtain rfl : k = 0 := by omega
                   rfl

theorem read (f : σ → α) (s : σ) (m : μ) : Takes (Tx.read f) s m 1 (f s) s m :=
  stmt rfl m

theorem write (f : σ → σ) (s : σ) (m : μ) : Takes (Tx.write f) s m 1 () (f s) m :=
  stmt rfl m

theorem getMem (s : σ) (m : μ) : Takes (Tx.getMem : Tx σ μ μ) s m 0 m s m where
  free := rfl
  enough k := by rw [Nat.zero_add]; rfl
  short k h := absurd h (Nat.not_lt_zero k)

theorem modMem (g : μ → μ) (s : σ) (m : μ) : Takes (Tx.modMem g) s m 0 () s (g m) where
  free := rfl
  enough k := by rw [Nat.zero_add]; rfl
  short k h := absurd h (Nat.not_lt_zero k)

theorem bind {p : Tx σ μ α} {f : α → Tx σ μ β} {s s₁ s' : σ} {m m₁ m' : μ} {n k : Nat} {a : α}
    {b : β} (hp : Takes p s m n a s₁ m₁) (hf : Takes (f a) s₁ m₁ k b s' m') :
    Takes (p >>= f) s m (n + k) b s' m' where
  free := by rw [bind_some hp.free, hf.free]
  enough j := by rw [Nat.add_assoc, bind_some (hp.enough (k + j)), hf.enough]
  short j hj := by
    by_cases h : j < n
    · rcases e : p ⟨s, m, some j⟩ with ⟨_ | a', t⟩
      · rw [bind_none e]
      · exact absurd (hp.short j h) (by rw [e]; simp)
    · obtain ⟨i, rfl⟩ := Nat.exists_eq_add_of_le (Nat.le_of_not_lt h)
      rw [bind_some (hp.enough i)]
      exact hf.short i (by omega)

theorem when (c : Bool) {p : Tx σ μ Unit} {s s' : σ} {m : μ} {n : Nat} (h : Takes p s m n () s' m) :
    Takes (Tx.when c p) s m (if c then n else 0) () (if c then s' else s) m := by
  cases c
  · exact pure () s m
  · exact h

end Takes

/-- With no failure in store the transaction commits what the body made. -/
theorem transact_free {restore : σ → σ → σ} {body : Tx σ μ Unit} {s s' : σ} {m m' : μ} {n : Nat}
    (h : Takes body s m n () s' m') : transact restore body none s m = (true, s', m') := by
  have hc := h.bind (f := fun _ => (commit : Tx σ μ Unit)) (Takes.write id s' m')
  simp only [transact, hc.free, id]

/-- A failure after the commit is none. -/
theorem transact_enough {restore : σ → σ → σ} {body : Tx σ μ Unit} {s s' : σ} {m m' : μ}
    {n k : Nat} (h : Takes body s m n () s' m') (hk : n + 1 ≤ k) :
    transact restore body (some k) s m = (true, s', m') := by
  have hc := h.bind (f := fun _ => (commit : Tx σ μ Unit)) (Takes.write id s' m')
  obtain ⟨j, rfl⟩ := Nat.exists_eq_add_of_le hk
  simp only [transact, hc.enough j, id]

/-- A transaction whose failure, if there is one, comes after the commit. -/
theorem transact_done {restore : σ → σ → σ} {body : Tx σ μ Unit} {s s' : σ} {m m' : μ} {n : Nat}
    {fuse : Option Nat} (h : Takes body s m n () s' m') (hf : ∀ k, fuse = some k → n + 1 ≤ k) :
    transact restore body fuse s m = (true, s', m') := by
  cases fuse with
  | none => exact transact_free h
  | some k => exact transact_enough h (hf k rfl)

/-- A failure at one of the `n` statements or at the commit makes the transaction fail. -/
theorem transact_short {restore : σ → σ → σ} {body : Tx σ μ Unit} {s s' : σ} {m m' : μ}
    {n k : Nat} (h : Takes body s m n () s' m') (hk : k < n + 1) :
    (transact restore body (some k) s m).1 = false := by
  have hc := h.bind (f := fun _ => (commit : Tx σ μ Unit)) (Takes.write id s' m')
  have hs := hc.short k hk
  rw [transact]
  rcases e : (body >>= fun _ => (commit : Tx σ μ Unit)) ⟨s, m, some k⟩ with ⟨_ | u, t⟩
  · rfl
  · rw [e] at hs; cases hs

/-- A transaction commits what the body made, or fails. -/
theorem transact_cases (restore : σ → σ → σ) {body : Tx σ μ Unit} {s s' : σ} {m m' : μ} {n : Nat}
    (h : Takes body s m n () s' m') (fuse : Option Nat) :
    transact restore body fuse s m = (true, s', m') ∨ (transact restore body fuse s m).1 = false := by
  cases fuse with
  | none => exact .inl (transact_free h)
  | some k =>
      by_cases hk : k < n + 1
      · exact .inr (transact_short h hk)
      · exact .inl (transact_enough h (Nat.le_of_not_lt hk))

/-- With a complete rollback a failed transaction leaves the store as it was. -/
theorem transact_rolledBack {body : Tx σ μ Unit} {fuse : Option Nat} {s : σ} {m : μ}
    (h : (transact (fun s _ => s) body fuse s m).1 = false) :
    (transact (fun s _ => s) body fuse s m).2.1 = s := by
  revert h
  rw [transact]
  rcases (body >>= fun _ => (commit : Tx σ μ Unit)) ⟨s, m, fuse⟩ with ⟨_ | u, t⟩
  · intro _; rfl
  · intro h; cases h

/-! ### Where a body turns -/

/-- From `(s, m)`, the first `n` statements leave the memory as `I` says when one of them fails,
and after them it is as `J` says, however the body ends. -/
structure Turns (p : Tx σ μ α) (s : σ) (m : μ) (n : Nat) (I J : μ → Prop) : Prop where
  before : ∀ k, k < n → (p ⟨s, m, some k⟩).1 = none ∧ I (p ⟨s, m, some k⟩).2.mem
  after : ∀ k, n ≤ k → J (p ⟨s, m, some k⟩).2.mem

namespace Turns
variable {I J : μ → Prop}

theorem start {p : Tx σ μ α} {s : σ} {m : μ} (h : ∀ k, J (p ⟨s, m, some k⟩).2.mem) :
    Turns p s m 0 I J :=
  ⟨fun k hk => absurd hk (Nat.not_lt_zero k), fun k _ => h k⟩

/-- The body turns behind a part that keeps `I`. -/
theorem later {p : Tx σ μ α} {f : α → Tx σ μ β} {s s' : σ} {m m' : μ} {n k : Nat} {a : α}
    (hp : Takes p s m n a s' m') (hI : Keeps (fun _ m => I m) p) (hm : I m)
    (hf : Turns (f a) s' m' k I J) : Turns (p >>= f) s m (n + k) I J := by
  constructor
  · intro j hj
    by_cases h : j < n
    · have hkept := hI ⟨s, m, some j⟩ hm
      rcases e : p ⟨s, m, some j⟩ with ⟨_ | a', t⟩
      · rw [bind_none e]
        rw [e] at hkept
        exact ⟨rfl, hkept⟩
      · exact absurd (hp.short j h) (by rw [e]; simp)
    · obtain ⟨i, rfl⟩ := Nat.exists_eq_add_of_le (Nat.le_of_not_lt h)
      rw [bind_some (hp.enough i)]
      exact hf.before i (by omega)
  · intro j hj
    obtain ⟨i, rfl⟩ := Nat.exists_eq_add_of_le hj
    rw [Nat.add_assoc, bind_some (hp.enough (k + i))]
    exact hf.after (k + i) (Nat.le_add_right _ _)

/-- The body turns in its first part, and `J` survives the rest. -/
theorem bind {p : Tx σ μ α} {f : α → Tx σ μ β} {s : σ} {m : μ} {n : Nat} (hp : Turns p s m n I J)
    (hJ : ∀ a, Keeps (fun _ m => J m) (f a)) : Turns (p >>= f) s m n I J := by
  constructor
  · intro k hk
    obtain ⟨hnone, hI⟩ := hp.before k hk
    rcases e : p ⟨s, m, some k⟩ with ⟨_ | a, t⟩
    · rw [bind_none e]
      rw [e] at hI
      exact ⟨rfl, hI⟩
    · rw [e] at hnone
      cases hnone
  · intro k hk
    have h := hp.after k hk
    rcases e : p ⟨s, m, some k⟩ with ⟨_ | a, t⟩
    · rw [bind_none e]
      rwa [e] at h
    · rw [bind_some e]
      rw [e] at h
      exact hJ a t h

end Turns

/-- A failure before the turn. -/
theorem transact_before {I J : μ → Prop} {restore : σ → σ → σ} {body : Tx σ μ Unit} {s : σ} {m : μ}
    {n k : Nat} (h : Turns body s m n I J) (hk : k < n) :
    I (transact restore body (some k) s m).2.2 := by
  obtain ⟨hnone, hI⟩ := (h.bind (f := fun _ => (commit : Tx σ μ Unit)) fun _ =>
    Keeps.write fun _ _ hs => hs).before k hk
  rw [transact]
  rcases e : (body >>= fun _ => (commit : Tx σ μ Unit)) ⟨s, m, some k⟩ with ⟨_ | u, t⟩
  · rwa [e] at hI
  · rw [e] at hnone
    cases hnone

/-- A failure after the turn, or none. -/
theorem transact_after {I J : μ → Prop} {restore : σ → σ → σ} {body : Tx σ μ Unit} {s : σ} {m : μ}
    {n k : Nat} (h : Turns body s m n I J) (hk : n ≤ k) :
    J (transact restore body (some k) s m).2.2 := by
  have hJ := (h.bind (f := fun _ => (commit : Tx σ μ Unit)) fun _ =>
    Keeps.write fun _ _ hs => hs).after k hk
  rw [transact]
  rcases e : (body >>= fun _ => (commit : Tx σ μ Unit)) ⟨s, m, some k⟩ with ⟨_ | u, t⟩
  · rwa [e] at hJ
  · rwa [e] at hJ

end Tx
end Cmon.Library
