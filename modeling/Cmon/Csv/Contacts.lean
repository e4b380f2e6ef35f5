import Cmon.AddressBook.Contact
import Cmon.Csv.Validate

/-!
# CSV — the contacts of an import

`CImportCSVDialog::OnImport` makes a contact of each line and gives it a name for the display when
the line has none; `CContactDialog::updateSN` suggests such names in the dialog.

* `updateSN_eq_nil`, `empty_notMem_updateSN`: when there are suggestions, and that none is empty.
* `suggested_iff`: the name is the dialog's first suggestion if and only if there is a last name,
  or no first name either.
-/

namespace Cmon
open Library

/-! ### The source -/

/-- The enumerators of `CPhone::TNumberType` below `NT_MAX`, in their order. -/
def numberTypes : List NumberType := [.general, .cell, .work, .home, .pager, .fax, .other]

namespace CsvImportCtrl

/-- `OnImport`, a column of a line. -/
def importColumn (s : CsvImportCtrl) (line : Nat) (c : Contact) (col : Nat) : Contact :=
  let choice := s.getChoice col
  let strData := s.itemText line col
  match choice with
  | 1 => c.setTitle strData
  | 2 => c.setFN strData
  | 3 => c.setMN strData
  | 4 => c.setLN strData
  | 5 => c.setNN strData
  | 6 => c.setSN strData
  | 7 => c.setOrganization strData
  | 8 => c.setEmail strData
  | _ =>
      if choice ≥ 9 + ntGeneral ∧ choice < 9 + ntMax then
        if strData.length ≠ 0 then
          let phone := Phone.create (numberTypes.getD (choice - 9) .other)
          { c with phones := c.phones ++ [phone.setNumber strData] }
        else c
      else c

end CsvImportCtrl

/-- `OnImport`, `// construct SN field, if empty`. -/
def constructSN (c : Contact) : Contact :=
  if c.texts.sn = "" then
    if c.texts.ln ≠ "" then
      let strName := c.texts.ln
      let strName :=
        if c.texts.fn ≠ "" then
          let strName := strName ++ ", " ++ c.texts.fn
          if c.texts.mn ≠ "" then strName ++ " " ++ c.texts.mn else strName
        else
          if c.texts.mn ≠ "" then strName ++ ", " ++ c.texts.mn else strName
      c.setSN strName
    else c
  else c

namespace CsvImportCtrl

/-- `OnImport`, the contact of a line. -/
def importContact (s : CsvImportCtrl) (line : Nat) : Contact :=
  constructSN ((List.range s.columnCount).foldl (s.importColumn line) .create)

/-- `OnImport`, the contacts that are handed to the address book. -/
def importContacts (s : CsvImportCtrl) : List Contact :=
  (List.range s.lines.length).map s.importContact

end CsvImportCtrl

/-- `CContactDialog::updateSN`: `m_Names`. -/
def updateSN (strFN strMN strLN : String) : List String :=
  if strFN ≠ "" ∨ strMN ≠ "" ∨ strLN ≠ "" then
    let names :=
      if strLN ≠ "" then
        if strFN ≠ "" then
          let strName := strLN ++ ", " ++ strFN
          [if strMN ≠ "" then strName ++ " " ++ strMN else strName]
        else
          [if strMN ≠ "" then strLN ++ ", " ++ strMN else strLN]
      else []
    if strFN ≠ "" then
      let strName := if strMN ≠ "" then strFN ++ " " ++ strMN else strFN
      names ++ [if strLN ≠ "" then strName ++ " " ++ strLN else strName]
    else names
  else []

/-! ### The name for the display -/

variable {c : Contact}

/-- The texts that the name is made of stay. -/
theorem constructSN_names (c : Contact) : (constructSN c).texts.fn = c.texts.fn ∧
    (constructSN c).texts.mn = c.texts.mn ∧ (constructSN c).texts.ln = c.texts.ln := by
  rw [constructSN]
  split_ifs <;> exact ⟨rfl, rfl, rfl⟩

/-- With a last name, the first suggestion is constructed. -/
theorem constructSN_of_last (hsn : c.texts.sn = "") (hln : c.texts.ln ≠ "") :
    (updateSN c.texts.fn c.texts.mn c.texts.ln).head? = some (constructSN c).texts.sn := by
  rw [constructSN, updateSN, if_pos hsn, if_pos hln, if_pos (.inr (.inr hln)), if_pos hln]
  by_cases hfn : c.texts.fn ≠ ""
  · simp only [if_pos hfn]
    rfl
  · simp only [if_neg hfn]
    rfl

/-- Without one, nothing is constructed. -/
theorem constructSN_of_no_last (hln : c.texts.ln = "") : constructSN c = c := by
  rw [constructSN, if_neg (not_not.mpr hln), ite_self]

/-- There is no suggestion without a first and a last name. -/
theorem updateSN_eq_nil {strFN strMN strLN : String} :
    updateSN strFN strMN strLN = [] ↔ strLN = "" ∧ strFN = "" := by
  by_cases hln : strLN = ""
  · by_cases hfn : strFN = ""
    · simp [updateSN, hln, hfn]
    · simp [updateSN, hln, hfn]
  · by_cases hfn : strFN = ""
    · simp [updateSN, hln, hfn]
    · simp [updateSN, hln, hfn]

/-- No suggestion is empty. -/
theorem empty_notMem_updateSN (strFN strMN strLN : String) : "" ∉ updateSN strFN strMN strLN := by
  by_cases hln : strLN = ""
  · by_cases hfn : strFN = ""
    · simp [updateSN, hln, hfn]
    · by_cases hmn : strMN = "" <;> simp [updateSN, hln, hfn, hmn, Ne.symm hfn]
  · by_cases hfn : strFN = ""
    · by_cases hmn : strMN = "" <;> simp [updateSN, hln, hfn, hmn, Ne.symm hln]
    · by_cases hmn : strMN = "" <;> simp [updateSN, hln, hfn, hmn]

/-- **The name is the dialog's first suggestion**, and empty only when there is none. -/
def Suggested (c : Contact) : Prop :=
  c.texts.sn = (updateSN c.texts.fn c.texts.mn c.texts.ln).head?.getD "" ∧
    (c.texts.sn = "" → updateSN c.texts.fn c.texts.mn c.texts.ln = [])

theorem suggested_constructSN (hsn : c.texts.sn = "") :
    Suggested (constructSN c) ↔ c.texts.ln ≠ "" ∨ c.texts.fn = "" := by
  obtain ⟨hfn, hmn, hln⟩ := constructSN_names c
  rw [Suggested, hfn, hmn, hln]
  by_cases hlast : c.texts.ln = ""
  · rw [constructSN_of_no_last hlast, hsn, hlast]
    simp only [forall_const]
    rw [updateSN_eq_nil]
    constructor
    · exact fun h => .inr h.2.2
    · intro h
      have hnil : updateSN c.texts.fn c.texts.mn "" = [] :=
        updateSN_eq_nil.mpr ⟨rfl, h.resolve_left (not_not.mpr rfl)⟩
      refine ⟨?_, updateSN_eq_nil.mp hnil⟩
      rw [hnil]
      rfl
  · have hfirst := constructSN_of_last hsn hlast
    refine iff_of_true ⟨by rw [hfirst]; rfl, fun hempty => ?_⟩ (.inl hlast)
    rw [hempty] at hfirst
    exact absurd (List.mem_of_head? hfirst) (empty_notMem_updateSN _ _ _)

/-- The contact of a line whose columns give no name for the display. -/
theorem suggested_importContact (s : CsvImportCtrl) (line : Nat)
    (hsn : ((List.range s.columnCount).foldl (s.importColumn line) Contact.create).texts.sn = "") :
    Suggested (s.importContact line) ↔
      (s.importContact line).texts.ln ≠ "" ∨ (s.importContact line).texts.fn = "" := by
  obtain ⟨hfn, -, hln⟩ :=
    constructSN_names ((List.range s.columnCount).foldl (s.importColumn line) .create)
  rw [CsvImportCtrl.importContact, hfn, hln]
  exact suggested_constructSN hsn

/-- **When an import names contacts as the dialog does**: when there is a last name, or no first
name. -/
theorem suggested_iff (strFN strMN strLN : String) :
    (∀ c : Contact, c.texts.fn = strFN → c.texts.mn = strMN → c.texts.ln = strLN →
      c.texts.sn = "" → Suggested (constructSN c)) ↔ strLN ≠ "" ∨ strFN = "" := by
  constructor
  · intro hall
    let c : Contact :=
      { Contact.create with
        texts := { Contact.create.texts with fn := strFN, mn := strMN, ln := strLN } }
    exact (suggested_constructSN (c := c) rfl).mp (hall c rfl rfl rfl rfl)
  · rintro h c rfl rfl rfl hsn
    exact (suggested_constructSN hsn).mpr h

/-! ### A contact without a last name -/

/-- The first line of a file with a first name only. -/
def aliceOnly : CsvImportCtrl :=
  { CsvImportCtrl.create with lines := [["Alice"]], selections := [2], columnCount := 1 }

/-- The import leaves her without a name for the display, the dialog suggests one. -/
theorem first_name_not_shown :
    (aliceOnly.importContact 0).texts.fn = "Alice" ∧ (aliceOnly.importContact 0).texts.sn = "" ∧
      updateSN "Alice" "" "" = ["Alice"] ∧ ¬ Suggested (aliceOnly.importContact 0) := by
  refine ⟨rfl, rfl, rfl, fun h => ?_⟩
  exact absurd (h.2 rfl) (List.cons_ne_nil _ _)

end Cmon
