import Mathlib.Logic.Function.Basic
import Cmon.Library.Transaction

/-!
# Schema — opening a database file

The constructor of `CDBBackend` and `CSQLiteAddressbook::initSchema`.  Both probe the tables they
need with a `select` each, and on any exception of a probe drop the tables and create them anew,
in one transaction.  They differ in their tables (`Opening`), and in that `initSchema` does not
roll back a transaction that fails: it stays open and is undone when the connection ends, so that
nothing of it is ever in the file.

* `Opening.run`: an opening, with the failures it meets (`OpenFaults`).
* `opening_keeps_iff`: the rows of a valid file are kept exactly when the probes succeed, or the
  tables cannot be created anew, or there was nothing in them.
-/

namespace Cmon
open Library

/-- A value of a column. -/
inductive Cell where
  | null
  | int (n : Int)
  | text (s : String)
  deriving DecidableEq, Repr

abbrev Row := List Cell

/-- A database file: the rows of its tables, and the indexes with their tables. -/
structure File where
  tables : String → Option (List Row)
  indexes : List (String × String)

/-- The statements of the two scripts. -/
inductive SchemaStmt where
  | begin
  | dropTable (name : String)
  | createTable (name : String)
  | insertConfig (value : Int) (kind : String)
  | dropIndex (name : String)
  | createIndex (name table : String)

namespace SchemaStmt

/-- The effect of a statement; `none` when the database refuses it.  The `drop` statements are
`drop … if exists`. -/
def exec : SchemaStmt → File → Option File
  | begin, f => some f
  | dropTable t, f => some ⟨Function.update f.tables t none, f.indexes.filter (·.2 ≠ t)⟩
  | createTable t, f =>
      if (f.tables t).isSome then none
      else some { f with tables := Function.update f.tables t (some []) }
  | insertConfig value kind, f =>
      (f.tables "config").map fun rows => { f with
        tables := Function.update f.tables "config" (some (rows ++ [[.int value, .text kind]])) }
  | dropIndex i, f => some { f with indexes := f.indexes.filter (·.1 ≠ i) }
  | createIndex i t, f =>
      if (f.tables t).isNone ∨ i ∈ f.indexes.map (·.1) then none
      else some { f with indexes := (i, t) :: f.indexes }

def execAll : List SchemaStmt → File → Option File
  | [], f => some f
  | st :: sts, f => (st.exec f).bind (execAll sts)

/-- The statements as the body of a transaction. -/
def script : List SchemaStmt → Tx File Unit Unit
  | [] => pure ()
  | st :: sts => do
      Tx.stmt fun f => (st.exec f).map ((), ·)
      script sts

theorem script_takes {sts : List SchemaStmt} {f f' : File} (h : execAll sts f = some f') :
    Tx.Takes (script sts) f () sts.length () f' () := by
  induction sts generalizing f with
  | nil =>
      obtain rfl := Option.some.inj h
      exact .pure () f ()
  | cons st sts ih =>
      obtain ⟨f₁, h₁, h₂⟩ := Option.bind_eq_some_iff.mp h
      rw [List.length_cons, Nat.add_comm]
      exact (Tx.Takes.stmt (by rw [h₁]; rfl) ()).bind (ih h₂)

end SchemaStmt

/-- How a kind of file is opened: the tables that are probed, the script that creates them anew,
and the rows the tables then have. -/
structure Opening where
  probes : List String
  script : List SchemaStmt
  fresh : List (String × List Row)

/-- `CDBBackend::CDBBackend`. -/
def cdbBackend : Opening where
  probes := ["config", "calls"]
  script := [.begin,
    .dropTable "config", .createTable "config",
    .insertConfig 1 "nextcallid", .insertConfig 1 "schema",
    .dropTable "calls", .createTable "calls",
    .dropTable "resolver", .createTable "resolver"]
  fresh := [("config", [[.int 1, .text "nextcallid"], [.int 1, .text "schema"]]),
    ("calls", []), ("resolver", [])]

/-- `CSQLiteAddressbook::initSchema`. -/
def initSchema : Opening where
  probes := ["config", "contacts", "numbers"]
  script := [.begin,
    .dropTable "config", .createTable "config",
    .insertConfig 1 "nxtcid", .insertConfig 1 "nxtnid", .insertConfig 1 "schema",
    .dropIndex "contacts_idx_001", .dropTable "contacts", .createTable "contacts",
    .createIndex "contacts_idx_001" "contacts",
    .dropIndex "numbers_idx_001", .dropTable "numbers", .createTable "numbers",
    .createIndex "numbers_idx_001" "numbers"]
  fresh := [("config", [[.int 1, .text "nxtcid"], [.int 1, .text "nxtnid"],
    [.int 1, .text "schema"]]), ("contacts", []), ("numbers", [])]

/-- The failures an opening meets: whether the file can be opened at all, the probe that throws,
and the statement of the script that fails, the commit being the last. -/
structure OpenFaults where
  opens : Bool
  probe : Option Nat
  recreate : Option Nat

/-- What an opening leaves in the file, and `m_is_ok`. -/
structure Opened where
  file : File
  isOk : Bool

namespace Opening

/-- The `select`s succeed on the tables from the `i`-th on. -/
def probe (x : OpenFaults) (f : File) : Nat → List String → Bool
  | _, [] => true
  | i, t :: ts => (f.tables t).isSome && x.probe ≠ some i && probe x f (i + 1) ts

/-- The opening.  Where the session cannot be opened, `CDBBackend` rolls back in its handler what was
never begun, and only the file is meant by the result. -/
def run (o : Opening) (x : OpenFaults) (f : File) : Opened :=
  if !x.opens then ⟨f, false⟩
  else if probe x f 0 o.probes then ⟨f, true⟩
  else
    let r := Tx.transact (fun f _ => f) (SchemaStmt.script o.script) x.recreate f ()
    ⟨r.2.1, r.1⟩

/-- A valid schema: the tables that are probed are there. -/
def Valid (o : Opening) (f : File) : Prop := ∀ t ∈ o.probes, (f.tables t).isSome = true

/-- One of the probes throws. -/
def ProbeFails (o : Opening) (x : OpenFaults) : Prop :=
  ∃ i, x.probe = some i ∧ i < o.probes.length

/-- A statement of the script, or its commit, fails. -/
def RecreateFails (o : Opening) (x : OpenFaults) : Prop :=
  ∃ k, x.recreate = some k ∧ k < o.script.length + 1

/-- The tables hold no row that a new file does not hold. -/
def NothingStored (o : Opening) (f : File) : Prop :=
  ∀ t new rows, o.fresh.lookup t = some new → f.tables t = some rows → ∀ row ∈ rows, row ∈ new

end Opening

/-- Every row of `f` is in `f'`. -/
def KeepsRows (f f' : File) : Prop :=
  ∀ t rows, f.tables t = some rows → ∃ rows', f'.tables t = some rows' ∧ ∀ row ∈ rows, row ∈ rows'

theorem KeepsRows.refl (f : File) : KeepsRows f f := fun _ rows h => ⟨rows, h, fun _ hr => hr⟩

/-! ### The scripts -/

/-- The script of `o` runs through on every file, and leaves the fresh tables and the others. -/
def Opening.Recreates (o : Opening) : Prop :=
  ∀ f, ∃ f', SchemaStmt.execAll o.script f = some f' ∧
    ∀ t, f'.tables t = ((o.fresh.lookup t).map some).getD (f.tables t)

theorem cdbBackend_recreates : cdbBackend.Recreates := by
  intro f
  refine ⟨_, rfl, fun t => ?_⟩
  by_cases hconfig : t = "config"
  · subst hconfig; rfl
  · by_cases hcalls : t = "calls"
    · subst hcalls; rfl
    · by_cases hresolver : t = "resolver"
      · subst hresolver; rfl
      · simp [cdbBackend, List.lookup_cons, beq_eq_false_iff_ne.mpr hconfig,
          beq_eq_false_iff_ne.mpr hcalls, beq_eq_false_iff_ne.mpr hresolver, Function.update,
          hconfig, hcalls, hresolver]

theorem initSchema_recreates : initSchema.Recreates := by
  intro f
  have h : ∃ f', SchemaStmt.execAll initSchema.script f = some f' := by
    simp [initSchema, SchemaStmt.execAll, SchemaStmt.exec]
  obtain ⟨f', h⟩ := h
  refine ⟨f', h, fun t => ?_⟩
  simp [initSchema, SchemaStmt.execAll, SchemaStmt.exec] at h
  subst h
  by_cases hconfig : t = "config"
  · subst hconfig; rfl
  · by_cases hcontacts : t = "contacts"
    · subst hcontacts; rfl
    · by_cases hnumbers : t = "numbers"
      · subst hnumbers; rfl
      · simp [initSchema, List.lookup_cons, beq_eq_false_iff_ne.mpr hconfig,
          beq_eq_false_iff_ne.mpr hcontacts,
          beq_eq_false_iff_ne.mpr hnumbers, Function.update, hconfig, hcontacts, hnumbers]

/-! ### What an opening keeps -/

namespace Opening
variable {o : Opening} {x : OpenFaults} {f : File}

theorem probe_iff {i : Nat} {ts : List String} (hv : ∀ t ∈ ts, (f.tables t).isSome = true) :
    probe x f i ts = true ↔ ∀ j, x.probe = some j → ¬ (i ≤ j ∧ j < i + ts.length) := by
  induction ts generalizing i with
  | nil =>
      simp only [probe, List.length_nil, true_iff]
      intro j _ h
      omega
  | cons t ts ih =>
      have hrest := ih (i := i + 1) fun t ht => hv t (.tail _ ht)
      simp only [probe, hv t (.head _), Bool.true_and, Bool.and_eq_true, decide_eq_true_eq, hrest,
        List.length_cons]
      constructor
      · rintro ⟨hne, h⟩ j hj hlt
        have hij : i ≠ j := fun e => hne (e ▸ hj)
        exact h j hj (by omega)
      · intro h
        refine ⟨fun hj => h i hj (by omega), fun j hj hlt => h j hj (by omega)⟩

/-- On a valid file the probes succeed unless one throws. -/
theorem probe_eq (hv : o.Valid f) : probe x f 0 o.probes = true ↔ ¬ o.ProbeFails x := by
  rw [probe_iff hv]
  constructor
  · rintro h ⟨i, hi, hlt⟩
    exact h i hi (by omega)
  · intro h j hj hlt
    exact h ⟨j, hj, by omega⟩

/-- The cases of an opening: nothing happens to the file, or the tables are created anew. -/
theorem run_cases (hr : o.Recreates) (hv : o.Valid f) :
    (x.opens = false ∨ ¬ o.ProbeFails x ∨ o.RecreateFails x) ∧ (o.run x f).file = f ∨
      ¬ (x.opens = false ∨ ¬ o.ProbeFails x ∨ o.RecreateFails x) ∧
        ∀ t, (o.run x f).file.tables t = ((o.fresh.lookup t).map some).getD (f.tables t) := by
  obtain ⟨f', hf', htables⟩ := hr f
  have htakes := SchemaStmt.script_takes hf'
  rw [run]
  cases hopen : x.opens with
  | false => exact .inl ⟨.inl rfl, rfl⟩
  | true =>
      rw [Bool.not_true, if_neg Bool.false_ne_true]
      by_cases hp : o.ProbeFails x
      · rw [if_neg fun h => (probe_eq hv).mp h hp]
        by_cases hx : o.RecreateFails x
        · obtain ⟨k, hk, hlt⟩ := hx
          refine .inl ⟨.inr (.inr ⟨k, hk, hlt⟩), ?_⟩
          rw [hk]
          exact Tx.transact_rolledBack (Tx.transact_short htakes hlt)
        · refine .inr ⟨by simp [hp, hx], fun t => ?_⟩
          have hdone : Tx.transact (fun f _ => f) (SchemaStmt.script o.script) x.recreate f () =
              (true, f', ()) :=
            Tx.transact_done htakes fun k hk => Nat.le_of_not_lt fun hlt => hx ⟨k, hk, hlt⟩
          rw [hdone]
          exact htables t
      · rw [if_pos ((probe_eq hv).mpr hp)]
        exact .inl ⟨.inr (.inl hp), rfl⟩

theorem keepsRows_iff (hr : o.Recreates) (hv : o.Valid f) :
    KeepsRows f (o.run x f).file ↔
      x.opens = false ∨ ¬ o.ProbeFails x ∨ o.RecreateFails x ∨ o.NothingStored f := by
  rcases run_cases (x := x) hr hv with ⟨hc, hsame⟩ | ⟨hc, hnew⟩
  · rw [hsame]
    refine iff_of_true (.refl f) ?_
    rcases hc with h | h | h
    · exact .inl h
    · exact .inr (.inl h)
    · exact .inr (.inr (.inl h))
  · constructor
    · -- a table of the script holds afterwards what the script puts into it
      intro h
      refine .inr (.inr (.inr fun t new rows hfresh hrows => ?_))
      obtain ⟨rows', hrows', hmem⟩ := h t rows hrows
      rw [hnew, hfresh] at hrows'
      exact Option.some.inj hrows' ▸ hmem
    · rintro (h | h | h | h)
      · exact absurd (.inl h) hc
      · exact absurd (.inr (.inl h)) hc
      · exact absurd (.inr (.inr h)) hc
      · intro t rows hrows
        rw [hnew]
        cases hfresh : o.fresh.lookup t with
        | none => exact ⟨rows, hrows, fun _ hr => hr⟩
        | some new => exact ⟨new, rfl, h t new rows hfresh hrows⟩

end Opening

/-- **Opening a valid file keeps its rows exactly when no probe throws, or creating the tables
anew fails, or the tables hold nothing.** -/
theorem opening_keeps_iff {o : Opening} (ho : o = cdbBackend ∨ o = initSchema) {f : File}
    (hv : o.Valid f) (x : OpenFaults) :
    KeepsRows f (o.run x f).file ↔
      x.opens = false ∨ ¬ o.ProbeFails x ∨ o.RecreateFails x ∨ o.NothingStored f := by
  rcases ho with rfl | rfl
  · exact Opening.keepsRows_iff cdbBackend_recreates hv
  · exact Opening.keepsRows_iff initSchema_recreates hv

/-- A journal with one call. -/
def oneCall : File where
  tables t :=
    if t = "config" then some [[.int 2, .text "nextcallid"], [.int 1, .text "schema"]]
    else if t = "calls" then some [[.int 1, .int 1, .int 3, .text "2012-11-18T21:38:42", .text "",
      .int 0, .text "110", .text "", .text "22", .text ""]]
    else if t = "resolver" then some []
    else none
  indexes := []

theorem opening_keeps_iff_oneCall :
    KeepsRows oneCall (cdbBackend.run ⟨true, none, none⟩ oneCall).file ↔
      true = false ∨ ¬ cdbBackend.ProbeFails ⟨true, none, none⟩ ∨
        cdbBackend.RecreateFails ⟨true, none, none⟩ ∨ cdbBackend.NothingStored oneCall :=
  opening_keeps_iff (.inl rfl) (by unfold Opening.Valid; decide) ⟨true, none, none⟩

/-- The first probe finds the file locked, the lock is gone a moment later: the call is lost. -/
theorem locked_probe_drops_calls :
    ¬ KeepsRows oneCall (cdbBackend.run ⟨true, some 0, none⟩ oneCall).file := by
  intro h
  obtain ⟨rows', hrows', hmem⟩ := h "calls" _ rfl
  have hempty : (cdbBackend.run ⟨true, some 0, none⟩ oneCall).file.tables "calls" = some [] := rfl
  rw [hempty] at hrows'
  obtain rfl := Option.some.inj hrows'
  exact absurd (hmem _ (.head _)) List.not_mem_nil

end Cmon
