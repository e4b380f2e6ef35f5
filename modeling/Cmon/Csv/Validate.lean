import Cmon.Csv.Columns

/-!
# CSV — the check before an import

`CImportCSVDialog::DoValidate` marks the lines in which `isPossibleNumber` rejects a number.  Its
result is `false` whatever it finds.

* `CsvImportCtrl.marks_doValidate`: the marks are right.
* `CsvImportView.validates_iff`: the result, and with it the warning, is right if and only if there
  is a line to mark.
-/

namespace Cmon
open Library

/-! ### The source -/

/-- `CPhone::NT_GENERAL` and `CPhone::NT_MAX`. -/
def ntGeneral : Nat := 0
def ntMax : Nat := 7

/-- `CPhone::getNumberTypeName`. -/
def getNumberTypeName : Nat → String
  | 0 => "General"
  | 1 => "Mobile"
  | 2 => "Work"
  | 3 => "Home"
  | 4 => "Pager"
  | 5 => "Fax"
  | _ => "Other"

/-- The choices of the dialog. -/
def importColumns : List String :=
  ["Title", "First Name", "Middle Name", "Last Name", "Nickname", "Sorted Name", "Organization",
    "Email"] ++ (List.range ntMax).map fun i => "Tel" ++ getNumberTypeName i

namespace CsvImportCtrl

/-- `getChoice`. -/
def getChoice (s : CsvImportCtrl) (col : Nat) : Nat :=
  if col < s.columnCount then s.selections.getD col 0 else 0

/-- `OnGetItemText`. -/
def itemText (s : CsvImportCtrl) (item column : Nat) : String :=
  (s.lines.getD item []).getD column ""

/-- `setLineInvalid`. -/
def setLineInvalid (s : CsvImportCtrl) (line : Nat) (invalid : Bool) : CsvImportCtrl :=
  { s with invalidLines := s.invalidLines.set line invalid }

section
variable (isPossibleNumber : String → Bool)

/-- The loop over the columns, with `invalid` as it is. -/
def lineInvalid (s : CsvImportCtrl) (line : Nat) : List Nat → Bool → Bool
  | [], invalid => invalid
  | col :: cols, invalid =>
      let choice := s.getChoice col
      if choice ≥ 9 + ntGeneral ∧ choice < 9 + ntMax then
        let strData := s.itemText line col
        if strData.length ≠ 0 then
          if !isPossibleNumber strData then true else s.lineInvalid line cols false
        else s.lineInvalid line cols invalid
      else s.lineInvalid line cols invalid

/-- The loop over the first `n` lines. -/
def validateLines (s : CsvImportCtrl) (n : Nat) : CsvImportCtrl :=
  (List.range n).foldl (fun s line => s.setLineInvalid line
    (s.lineInvalid isPossibleNumber line (List.range s.columnCount) false)) s

/-- `DoValidate`. -/
def doValidate (s : CsvImportCtrl) : Bool × CsvImportCtrl :=
  let rc := false
  (rc, s.validateLines isPossibleNumber s.lines.length)

/-- `hasChoices` of `OnImport`. -/
def hasChoices (s : CsvImportCtrl) : Bool :=
  (List.range s.columnCount).any fun col => s.getChoice col ≠ 0

/-- `OnImport` up to the import: whether it warns, and the control. -/
def onImport (s : CsvImportCtrl) : Bool × CsvImportCtrl :=
  if s.hasChoices then
    let (rc, s) := s.doValidate isPossibleNumber
    (!rc, s)
  else (false, s)

/-- Some column that is assigned to a telephone number has a number that is rejected. -/
def Rejected (s : CsvImportCtrl) (row : List String) : Prop :=
  ∃ col < s.columnCount, ∃ choice strData, s.selections[col]? = some choice ∧
    9 ≤ choice ∧ choice < 16 ∧ row[col]? = some strData ∧ strData ≠ "" ∧
    isPossibleNumber strData = false

/-- The lines with a number that is rejected are marked, and no others. -/
def Marked (s : CsvImportCtrl) (marks : List Bool) : Prop :=
  marks.length = s.lines.length ∧
    ∀ (i : Nat) (row : List String), s.lines[i]? = some row →
      (marks[i]? = some true ↔ s.Rejected isPossibleNumber row)

/-- **What the check is for.** -/
structure Validates (s : CsvImportCtrl) : Prop where
  marks : s.Marked isPossibleNumber (s.doValidate isPossibleNumber).2.invalidLines
  result : (s.doValidate isPossibleNumber).1 = true ↔
    true ∉ (s.doValidate isPossibleNumber).2.invalidLines
  warning : s.hasChoices = true → ((s.onImport isPossibleNumber).1 = true ↔
    true ∈ (s.onImport isPossibleNumber).2.invalidLines)

end

/-! ### The marks -/

section
variable {isPossibleNumber : String → Bool} {s : CsvImportCtrl}

/-- The text of a column of a line is a number that is rejected. -/
def rejects (isPossibleNumber : String → Bool) (s : CsvImportCtrl) (line col : Nat) : Bool :=
  (9 ≤ s.getChoice col && s.getChoice col < 16) && (s.itemText line col ≠ "" &&
    !isPossibleNumber (s.itemText line col))

theorem lineInvalid_eq (line : Nat) (cols : List Nat) :
    s.lineInvalid isPossibleNumber line cols false =
      cols.any (rejects isPossibleNumber s line) := by
  induction cols with
  | nil => rfl
  | cons col cols ih =>
      rw [lineInvalid, List.any_cons, ih, rejects]
      have hlen : (s.itemText line col).length ≠ 0 ↔ s.itemText line col ≠ "" := by
        rw [ne_eq, ne_eq, String.length_eq_zero_iff]
      simp only [ntGeneral, ntMax, hlen]
      by_cases hchoice : 9 ≤ s.getChoice col ∧ s.getChoice col < 16
      · by_cases hdata : s.itemText line col = ""
        · simp [hdata]
        · cases isPossibleNumber (s.itemText line col) <;> simp [hchoice, hdata]
      · rw [if_neg hchoice]
        rw [Decidable.not_and_iff_or_not] at hchoice
        rcases hchoice with hchoice | hchoice <;> simp [hchoice]

theorem getChoice_eq (hc : s.columnCount ≤ s.selections.length) {col choice : Nat}
    (hcol : col < s.columnCount) : s.getChoice col = choice ↔ s.selections[col]? = some choice := by
  rw [getElem?_selections hc hcol, getChoice, if_pos hcol, Option.some_inj]

/-- What is marked. -/
theorem lineInvalid_iff (hc : s.columnCount ≤ s.selections.length) {line : Nat}
    {row : List String} (hrow : s.lines[line]? = some row) :
    s.lineInvalid isPossibleNumber line (List.range s.columnCount) false = true ↔
      s.Rejected isPossibleNumber row := by
  have htext : ∀ col, s.itemText line col = (row[col]?).getD "" := by
    intro col
    rw [itemText, List.getD_eq_getElem?_getD, List.getD_eq_getElem?_getD, hrow]
    rfl
  rw [lineInvalid_eq, List.any_eq_true]
  constructor
  · rintro ⟨col, hcol, hrej⟩
    rw [List.mem_range] at hcol
    rw [rejects, htext] at hrej
    cases hdata : row[col]? with
    | none => simp [hdata] at hrej
    | some strData =>
        simp [hdata] at hrej
        exact ⟨col, hcol, _, strData, (getChoice_eq hc hcol).mp rfl, hrej.1.1, hrej.1.2, hdata,
          hrej.2.1, hrej.2.2⟩
  · rintro ⟨col, hcol, choice, strData, hsel, hge, hlt, hdata, hne, hrej⟩
    refine ⟨col, List.mem_range.mpr hcol, ?_⟩
    rw [rejects, (getChoice_eq hc hcol).mpr hsel, htext, hdata]
    simp [hge, hlt, hne, hrej]

theorem validateLines_spec (isPossibleNumber : String → Bool) (s : CsvImportCtrl) {n : Nat}
    (hn : n ≤ s.invalidLines.length) :
    ∃ marks, s.validateLines isPossibleNumber n = { s with invalidLines := marks } ∧
      marks.length = s.invalidLines.length ∧ ∀ i < n, marks[i]? =
        some (s.lineInvalid isPossibleNumber i (List.range s.columnCount) false) := by
  induction n with
  | zero => exact ⟨_, rfl, rfl, nofun⟩
  | succ n ih =>
      obtain ⟨marks, hfold, hlen, hmarks⟩ := ih (Nat.le_of_succ_le hn)
      -- the marks are not read
      have hread : ∀ cols invalid,
          ({ s with invalidLines := marks } : CsvImportCtrl).lineInvalid isPossibleNumber n cols
            invalid = s.lineInvalid isPossibleNumber n cols invalid := by
        intro cols
        induction cols with
        | nil => exact fun _ => rfl
        | cons col cols ih =>
            intro invalid
            rw [lineInvalid, lineInvalid, ih, ih]
            rfl
      refine ⟨marks.set n (s.lineInvalid isPossibleNumber n (List.range s.columnCount) false), ?_,
        by rw [List.length_set, hlen], fun i hi => ?_⟩
      · rw [validateLines, List.range_succ, List.foldl_append, ← validateLines, hfold]
        show setLineInvalid _ n (lineInvalid _ _ n _ false) = _
        rw [hread]
        rfl
      · rcases Nat.lt_succ_iff_lt_or_eq.mp hi with hlt | rfl
        · rw [List.getElem?_set_ne (Nat.ne_of_gt hlt), hmarks i hlt]
        · rw [List.getElem?_set_self (by omega)]

/-- **The marks are right.** -/
theorem marks_doValidate (isPossibleNumber : String → Bool)
    (hc : s.columnCount ≤ s.selections.length)
    (hm : s.invalidLines.length = s.lines.length) :
    ∃ marks, (s.doValidate isPossibleNumber).2 = { s with invalidLines := marks } ∧
      s.Marked isPossibleNumber marks := by
  obtain ⟨marks, hfold, hlen, hmarks⟩ :=
    validateLines_spec isPossibleNumber s (Nat.le_of_eq hm.symm)
  refine ⟨marks, hfold, hlen.trans hm, fun i row hrow => ?_⟩
  rw [hmarks i (List.getElem?_eq_some_iff.mp hrow).1, Option.some_inj]
  exact lineInvalid_iff hc hrow

/-- A line is marked when there is one to mark. -/
theorem Marked.true_mem_iff {marks : List Bool} (h : s.Marked isPossibleNumber marks) :
    true ∈ marks ↔ ∃ row ∈ s.lines, s.Rejected isPossibleNumber row := by
  constructor
  · intro hmem
    obtain ⟨i, hi⟩ := List.mem_iff_getElem?.mp hmem
    have hlt := (List.getElem?_eq_some_iff.mp hi).1
    have hrow := List.getElem?_eq_getElem (h.1 ▸ hlt)
    exact ⟨_, List.mem_of_getElem? hrow, (h.2 i _ hrow).mp hi⟩
  · rintro ⟨row, hmem, hrej⟩
    obtain ⟨i, hi⟩ := List.mem_iff_getElem?.mp hmem
    exact List.mem_of_getElem? ((h.2 i row hi).mpr hrej)

/-- **When the check is right.** -/
theorem validates_iff_rejected (isPossibleNumber : String → Bool)
    (hc : s.columnCount ≤ s.selections.length) (hm : s.invalidLines.length = s.lines.length) :
    s.Validates isPossibleNumber ↔ ∃ row ∈ s.lines, s.Rejected isPossibleNumber row := by
  obtain ⟨marks, hctrl, hmarked⟩ := marks_doValidate isPossibleNumber hc hm
  have hmarks : (s.doValidate isPossibleNumber).2.invalidLines = marks :=
    congrArg invalidLines hctrl
  have hrc : ¬ (s.doValidate isPossibleNumber).1 = true := Bool.false_ne_true
  rw [← hmarked.true_mem_iff]
  constructor
  · intro h
    by_contra hnone
    exact hrc (h.result.mpr (hmarks ▸ hnone))
  · intro hmem
    exact {
      marks := hmarks ▸ hmarked
      result := iff_of_false hrc fun h => h (hmarks ▸ hmem)
      warning := fun hhas => by
        have himport : s.onImport isPossibleNumber = (true, (s.doValidate isPossibleNumber).2) := by
          rw [onImport, if_pos hhas]
          rfl
        rw [himport]
        exact iff_of_true rfl (hmarks ▸ hmem) }

end

end CsvImportCtrl

/-! ### The dialog -/

/-- What is done in the dialog. -/
inductive ImportAction where
  | control (e : CsvEvent)
  | onImport

namespace CsvImportView
variable (isPossibleNumber : String → Bool)

def dialogStep (v : CsvImportView) : ImportAction → Option CsvImportView
  | .control e => v.step e
  | .onImport => some { v with ctrl := (v.ctrl.onImport isPossibleNumber).2 }

/-- `CImportCSVDialog`: its constructor, and what is done then. -/
def dialog (actions : List ImportAction) : Option CsvImportView :=
  actions.foldlM (dialogStep isPossibleNumber) (create.setChoices importColumns)

variable {isPossibleNumber}

theorem Valid.onImport {v : CsvImportView} (h : Valid v) :
    Valid { v with ctrl := (v.ctrl.onImport isPossibleNumber).2 } := by
  obtain ⟨marks, hctrl, hmarked⟩ :=
    CsvImportCtrl.marks_doValidate isPossibleNumber h.covered h.marks
  rw [CsvImportCtrl.onImport]
  split
  · show Valid { v with ctrl := (v.ctrl.doValidate isPossibleNumber).2 }
    rw [hctrl]
    exact ⟨h.covered, h.valid, hmarked.1⟩
  · exact h

theorem foldlM_dialogStep (isPossibleNumber : String → Bool) {v : CsvImportView} (h : Valid v)
    (actions : List ImportAction) :
    ∃ v', actions.foldlM (dialogStep isPossibleNumber) v = some v' ∧ Valid v' := by
  induction actions generalizing v with
  | nil => exact ⟨v, rfl, h⟩
  | cons a actions ih =>
      obtain ⟨v₁, hstep, hvalid⟩ : ∃ v₁, v.dialogStep isPossibleNumber a = some v₁ ∧ Valid v₁ := by
        cases a with
        | control e =>
            obtain ⟨v₁, hstep, hvalid, -⟩ := step_valid h e
            exact ⟨v₁, hstep, hvalid⟩
        | onImport => exact ⟨_, rfl, h.onImport⟩
      obtain ⟨v', hrun, hvalid'⟩ := ih hvalid
      refine ⟨v', ?_, hvalid'⟩
      rw [List.foldlM_cons, hstep]
      exact hrun

/-- **The check of every table and every assignment** marks what it should, and its result and the
warning are right if and only if some line has a number that is rejected. -/
theorem validates_iff (isPossibleNumber : String → Bool) (actions : List ImportAction) :
    ∃ v, dialog isPossibleNumber actions = some v ∧
      (v.ctrl.Validates isPossibleNumber ↔
        ∃ row ∈ v.ctrl.lines, v.ctrl.Rejected isPossibleNumber row) := by
  have hcreate : Valid (create.setChoices importColumns) :=
    ⟨Nat.le_refl 0, nofun, rfl⟩
  obtain ⟨v, hrun, hvalid⟩ := foldlM_dialogStep isPossibleNumber hcreate actions
  exact ⟨v, hrun, CsvImportCtrl.validates_iff_rejected _ hvalid.covered hvalid.marks⟩

/-- A table with a number that is possible, in a column assigned to it. -/
def possibleTable : List ImportAction :=
  [.control (.loadFile (some "Alice,030 123\n".toList) ⟨',', true, '"', 0⟩),
    .control (.columnPopup 1809 1)]

/-- The dialog warns of it, and marks no line. -/
theorem warning_unmarked :
    (dialog (fun _ => true) possibleTable).map (fun v => ((v.ctrl.doValidate fun _ => true).1,
        (v.ctrl.onImport fun _ => true).1, (v.ctrl.onImport fun _ => true).2.invalidLines)) =
      some (false, true, [false]) ∧
    ¬ ∀ v, dialog (fun _ => true) possibleTable = some v → v.ctrl.Validates fun _ => true := by
  have hrun : (dialog (fun _ => true) possibleTable).map (fun v =>
      ((v.ctrl.doValidate fun _ => true).1, (v.ctrl.onImport fun _ => true).1,
        (v.ctrl.onImport fun _ => true).2.invalidLines)) = some (false, true, [false]) := by
    decide +kernel
  refine ⟨hrun, fun h => ?_⟩
  cases hv : dialog (fun _ => true) possibleTable with
  | none => simp [hv] at hrun
  | some v =>
      have hmarks : (v.ctrl.doValidate fun _ => true).2.invalidLines = [false] := by
        have hdone : (dialog (fun _ => true) possibleTable).map (fun v =>
            (v.ctrl.doValidate fun _ => true).2.invalidLines) = some [false] := by
          decide +kernel
        rw [hv] at hdone
        exact Option.some.inj hdone
      refine Bool.false_ne_true ((h v hv).result.mpr ?_)
      rw [hmarks]
      decide

end CsvImportView
end Cmon
