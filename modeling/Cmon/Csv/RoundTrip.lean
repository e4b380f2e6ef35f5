import Mathlib.Data.List.GetD
import Cmon.Csv.Contacts
import Cmon.Csv.Export

/-!
# CSV — the contacts of an export, imported

An exported file is loaded, each of the exported fields is selected for its own column, and each
column of numbers for a type of number or for none.

* `lines_doExport`: the rows of an export whose texts are readable.
* `itemText_doExport`: the text in each of its columns, and none behind them.
* `importContacts_doExport`: the contacts are the exported ones, as far as the file has them.
-/

namespace Cmon

/-- The text as a file with one kind of line end has it. -/
def unified (t : String) : String := String.ofList (unifyEnds t.toList)

/-- The field that the import selects for each column of an export: the first nine are those of
the header, the others have numbers.  There is no field for an image. -/
def assignment (types : Nat → Option NumberType) : Nat → Nat
  | 0 => 2
  | 1 => 3
  | 2 => 4
  | 3 => 5
  | 4 => 1
  | 5 => 6
  | 6 => 8
  | 7 => 7
  | 8 => 0
  | j + 9 => (types j).elim 0 fun t => 9 + numberTypes.idxOf t

/-- The phone of a number in the column of the type. -/
def restoredPhone (number : String) (t : NumberType) : Phone :=
  ⟨0, false, t, trim (unified number), ""⟩

/-- The contact that comes back: its texts but for the image, and its numbers in their order, those
whose column is selected; a type is that of the column. -/
def restored (types : Nat → Option NumberType) (c : Contact) : Contact :=
  (constructSN
    { dbKey := 0
      dirty := false
      texts :=
        { fn := unified c.texts.fn, mn := unified c.texts.mn, ln := unified c.texts.ln,
          nn := unified c.texts.nn, sn := unified c.texts.sn, title := unified c.texts.title,
          organization := unified c.texts.organization, email := unified c.texts.email,
          image := "" }
      phones := c.phones.zipIdx.filterMap fun (ph, j) =>
        if unified ph.number = "" then none else (types j).map (restoredPhone ph.number) }).bare

/-! ### The rows -/

theorem contents_of_readable {ts : List String} (h : ∀ t ∈ ts, Readable t.toList) :
    Contents ts (ts.map fun t => unifyEnds t.toList) :=
  List.forall₂_map_right_iff.mpr (List.forall₂_same.mpr fun t ht => (h t ht).content_eq)

/-- The row of a record: a last cell that is empty is not shown. -/
def recordRow (r : String × List String) : List String :=
  (shown (unifyEnds r.1.toList) (r.2.map fun t => unifyEnds t.toList)).map String.ofList

theorem readLine_readable {r : String × List String} (h : ∀ t ∈ r.1 :: r.2, Readable t.toList)
    (rest : List Char) :
    ∃ l, readLine exportParams [] [] false (recordText r ++ rest) = l ∧ l.rc = true ∧
      columns l.line 0 l.delimPos = recordRow r ∧ l.rest = rest := by
  obtain ⟨hfirst, hothers⟩ := List.forall_mem_cons.mp h
  refine ⟨_, readLine_record hfirst.content_eq (contents_of_readable hothers), rfl, ?_, rfl⟩
  have hcols := columns_positions [] (unifyEnds r.1.toList)
    (r.2.map fun t => unifyEnds t.toList)
  rw [List.nil_append, List.length_nil, Nat.zero_add] at hcols
  exact hcols

/-- The rows of records, behind lines that are skipped. -/
theorem readLines_readable {records : List (String × List String)}
    (h : ∀ r ∈ records, ∀ t ∈ r.1 :: r.2, Readable t.toList) :
    (readLines exportParams 0 [] [] (records.flatMap recordText)).1 = records.map recordRow := by
  induction records with
  | nil =>
      have hrc : (readLine exportParams [] [] false []).rc = false := by rw [readLine]; rfl
      rw [readLines_rows, List.flatMap_nil]
      simp only [hrc, Bool.false_eq_true, if_false, List.map_nil]
  | cons r records ih =>
      obtain ⟨hr, hrecords⟩ := List.forall_mem_cons.mp h
      obtain ⟨l, hl, hrc, hcols, hrest⟩ := readLine_readable hr (records.flatMap recordText)
      rw [List.map_cons, ← ih hrecords, ← hcols, readLines_rows, List.flatMap_cons, hl]
      simp only [hrc, if_true, Int.le_refl, hrest, List.nil_append, List.length_nil, Nat.zero_add,
        List.map_id']

/-- The texts of the header are readable. -/
theorem readable_header (numTel : Nat) :
    ∀ t ∈ (headerRecord numTel).1 :: (headerRecord numTel).2, Readable t.toList := by
  have hfixed : ∀ t ∈ ["FN", "MN", "LN", "NN", "Title", "SN", "Email", "Organization", "Image"],
      t.toList.all Char.isAlphanum = true := by decide
  intro t ht
  refine readable_of_alphanum ?_
  rw [headerRecord, ← List.cons_append, List.mem_append] at ht
  rcases ht with ht | ht
  · exact hfixed t ht
  · obtain ⟨i, -, rfl⟩ := List.mem_map.mp ht
    exact telName_alphanum i

namespace CsvImportCtrl
variable {cs : List Contact} {s : CsvImportCtrl}

/-- **The rows of an export.** -/
theorem lines_doExport (h : ∀ c ∈ cs, ∀ t ∈ exportCells (numTel cs) c, Readable t.toList) :
    (s.loadFile (some (doExport cs)) exportParams).2.lines =
      cs.map fun c => recordRow (exportRecord (numTel cs) c) := by
  obtain ⟨l, hl, hrc, -, hrest⟩ := readLine_readable (readable_header (numTel cs))
    ((cs.map (exportRecord (numTel cs))).flatMap recordText)
  have hrecord : ∀ r ∈ cs.map (exportRecord (numTel cs)), ∀ t ∈ r.1 :: r.2, Readable t.toList :=
    List.forall_mem_map.mpr h
  have hrecords := readLines_readable hrecord
  show (readLines exportParams 1 s.line [] (doExport cs)).1 = _
  rw [readLines_rows, doExport_eq, hl]
  simp only [hrc, if_true, hrest]
  rw [List.map_map] at hrecords
  exact hrecords

end CsvImportCtrl

/-! ### The columns -/

/-- The cells are the columns, and nothing is behind them. -/
theorem getD_shown (x : List Char) (xs : List (List Char)) (col : Nat) :
    (shown x xs).getD col [] = (x :: xs).getD col [] := by
  rcases shown_or x xs with h | h
  · rw [h]
  · rw [h]
    rcases Nat.lt_or_ge col (shown x xs).length with hlt | hge
    · rw [List.getD_append _ _ _ _ hlt]
    · rw [List.getD_append_right _ _ _ _ hge, List.getD_eq_default _ _ hge]
      cases col - (shown x xs).length <;> rfl

theorem length_shown (x : List Char) (xs : List (List Char)) :
    (shown x xs).length ≤ xs.length + 1 ∧ xs.length ≤ (shown x xs).length := by
  have hlen : (x :: xs).length = xs.length + 1 := rfl
  rcases shown_or x xs with h | h
  · rw [← h, hlen]
    exact ⟨Nat.le_refl _, Nat.le_succ _⟩
  · rw [h, List.length_append, List.length_singleton] at hlen
    omega

theorem getD_recordRow (r : String × List String) (col : Nat) :
    (recordRow r).getD col "" = unified ((r.1 :: r.2).getD col "") := by
  have hcells : (unifyEnds r.1.toList :: r.2.map fun t => unifyEnds t.toList).getD col [] =
      unifyEnds ((r.1 :: r.2).getD col "").toList :=
    List.getD_map (l := r.1 :: r.2) (d := "") fun t : String => unifyEnds t.toList
  rw [unified, ← hcells, ← getD_shown]
  exact List.getD_map (l := shown _ _) (d := ([] : List Char)) String.ofList

/-- The greatest of numbers. -/
theorem foldl_max_le_iff {l : List Nat} {a n : Nat} :
    l.foldl max a ≤ n ↔ a ≤ n ∧ ∀ i ∈ l, i ≤ n := by
  induction l generalizing a with
  | nil => exact (and_iff_left fun i hi => by cases hi).symm
  | cons i l ih => rw [List.foldl_cons, ih, List.forall_mem_cons, Nat.max_le, and_assoc]

theorem length_recordRow (r : String × List String) :
    (recordRow r).length ≤ r.2.length + 1 ∧ r.2.length ≤ (recordRow r).length := by
  have h := length_shown (unifyEnds r.1.toList) (r.2.map fun t => unifyEnds t.toList)
  rw [List.length_map] at h
  rw [recordRow, List.length_map]
  exact h

theorem length_exportCells (numTel : Nat) (c : Contact) :
    (exportRecord numTel c).2.length = 8 + numTel := by
  have hfixed : (exportRecord numTel c).2 = _ ++ _ := rfl
  rw [hfixed, List.length_append, List.length_map, List.length_range]
  rfl

namespace CsvImportCtrl
variable {cs : List Contact} {s : CsvImportCtrl}

/-- The text of a column. -/
theorem itemText_doExport (h : ∀ c ∈ cs, ∀ t ∈ exportCells (numTel cs) c, Readable t.toList)
    {line : Nat} {c : Contact} (hline : cs[line]? = some c) (col : Nat) :
    (s.loadFile (some (doExport cs)) exportParams).2.itemText line col =
      unified ((exportCells (numTel cs) c).getD col "") := by
  have hrow : (cs.map fun c => recordRow (exportRecord (numTel cs) c))[line]? =
      some (recordRow (exportRecord (numTel cs) c)) := by
    rw [List.getElem?_map, hline]
    rfl
  rw [itemText, lines_doExport h, List.getD_eq_getElem?_getD (i := line), hrow, Option.getD_some,
    getD_recordRow]
  rfl

/-- There is no text behind the columns. -/
theorem itemText_behind {line col : Nat} {file : List Char} {pr : CsvParams}
    (h : (s.loadFile (some file) pr).2.columnCount ≤ col) :
    (s.loadFile (some file) pr).2.itemText line col = "" := by
  set loaded := (s.loadFile (some file) pr).2
  have hcount : loaded.columnCount = (loaded.lines.map List.length).foldl max 0 := rfl
  rw [itemText]
  refine List.getD_eq_default _ _ (Nat.le_trans ?_ h)
  rcases Nat.lt_or_ge line loaded.lines.length with hlt | hge
  · rw [List.getD_eq_getElem _ _ hlt, hcount]
    exact (foldl_max_le_iff.mp (Nat.le_refl _)).2 _
      (List.mem_map_of_mem (List.getElem_mem hlt))
  · rw [List.getD_eq_default _ _ hge]
    exact Nat.zero_le _

/-- There are columns for the cells, or for all but the last one when it is empty. -/
theorem columnCount_doExport
    (h : ∀ c ∈ cs, ∀ t ∈ exportCells (numTel cs) c, Readable t.toList) (hne : cs ≠ []) :
    8 + numTel cs ≤ (s.loadFile (some (doExport cs)) exportParams).2.columnCount ∧
      (s.loadFile (some (doExport cs)) exportParams).2.columnCount ≤ 9 + numTel cs := by
  have hcount : (s.loadFile (some (doExport cs)) exportParams).2.columnCount =
      ((s.loadFile (some (doExport cs)) exportParams).2.lines.map List.length).foldl max 0 := rfl
  rw [hcount, lines_doExport h, List.map_map]
  obtain ⟨c, hc⟩ := List.exists_mem_of_ne_nil cs hne
  have hlen := fun c => length_exportCells (numTel cs) c ▸
    length_recordRow (exportRecord (numTel cs) c)
  constructor
  · refine Nat.le_trans (hlen c).2 ((foldl_max_le_iff.mp (Nat.le_refl _)).2 _ ?_)
    exact List.mem_map_of_mem (f := List.length ∘ fun c => recordRow _) hc
  · refine foldl_max_le_iff.mpr ⟨Nat.zero_le _, List.forall_mem_map.mpr fun c _ => ?_⟩
    have hle := (hlen c).1
    rw [Function.comp_apply]
    omega

end CsvImportCtrl

/-! ### The contacts -/

/-- The phone that the import makes of a cell. -/
def importPhone (strData : String) (type : Option NumberType) : Option Phone :=
  if strData = "" then none else type.map fun t => (Phone.create t).setNumber strData

/-- What the import makes of a column of an export. -/
def importCell (types : Nat → Option NumberType) (cell : Nat → String) (c : Contact) :
    Nat → Contact
  | 0 => c.setFN (cell 0)
  | 1 => c.setMN (cell 1)
  | 2 => c.setLN (cell 2)
  | 3 => c.setNN (cell 3)
  | 4 => c.setTitle (cell 4)
  | 5 => c.setSN (cell 5)
  | 6 => c.setEmail (cell 6)
  | 7 => c.setOrganization (cell 7)
  | 8 => c
  | j + 9 => { c with phones := c.phones ++ (importPhone (cell (j + 9)) (types j)).toList }

variable {types : Nat → Option NumberType} {cell : Nat → String}

/-- The column of a type of number. -/
theorem importColumn_phone {s : CsvImportCtrl} {line col : Nat} {t : NumberType} (c : Contact)
    (h : s.getChoice col = 9 + numberTypes.idxOf t) :
    s.importColumn line c col =
      { c with phones := c.phones ++ (importPhone (s.itemText line col) (some t)).toList } := by
  have htype : numberTypes.getD (9 + numberTypes.idxOf t - 9) .other = t ∧
      numberTypes.idxOf t < ntMax := by
    cases t <;> decide
  have hchoice : 9 + numberTypes.idxOf t ≥ 9 + ntGeneral ∧ 9 + numberTypes.idxOf t < 9 + ntMax :=
    ⟨Nat.le_add_right _ _, Nat.add_lt_add_left htype.2 9⟩
  have hmatch : s.importColumn line c col =
      if 9 + numberTypes.idxOf t ≥ 9 + ntGeneral ∧ 9 + numberTypes.idxOf t < 9 + ntMax then
        if (s.itemText line col).length ≠ 0 then
          { c with phones := c.phones ++ [(Phone.create (numberTypes.getD
            (9 + numberTypes.idxOf t - 9) .other)).setNumber (s.itemText line col)] }
        else c
      else c := by
    rw [CsvImportCtrl.importColumn, h]
    cases t <;> rfl
  rw [hmatch, if_pos hchoice, htype.1, importPhone]
  by_cases hempty : s.itemText line col = ""
  · rw [if_neg (not_not.mpr (String.length_eq_zero_iff.mpr hempty)), if_pos hempty,
      Option.toList_none, List.append_nil]
  · rw [if_pos (mt String.length_eq_zero_iff.mp hempty), if_neg hempty]
    rfl

/-- The columns of an export, as they are selected. -/
theorem importColumn_eq {s : CsvImportCtrl} {line col : Nat} (c : Contact)
    (h : s.getChoice col = assignment types col) :
    s.importColumn line c col = importCell types (s.itemText line) c col := by
  match col with
  | 0 | 1 | 2 | 3 | 4 | 5 | 6 | 7 | 8 =>
      rw [CsvImportCtrl.importColumn, h]
      rfl
  | j + 9 =>
      cases hj : types j with
      | none =>
          have hzero : s.getChoice (j + 9) = 0 := by rw [h, assignment, hj]; rfl
          have hphone : importPhone (s.itemText line (j + 9)) none = none := ite_self _
          rw [CsvImportCtrl.importColumn, hzero, importCell, hj, hphone, Option.toList_none,
            List.append_nil]
          rfl
      | some t =>
          rw [importColumn_phone (t := t) c (by rw [h, assignment, hj]; rfl), importCell, hj]

/-- An empty cell behind those of the texts. -/
theorem importCell_empty (c : Contact) {col : Nat} (hcol : 8 ≤ col) (hempty : cell col = "") :
    importCell types cell c col = c := by
  obtain ⟨j, rfl⟩ := Nat.exists_eq_add_of_le' hcol
  cases j with
  | zero => rfl
  | succ j =>
      rw [importCell, importPhone, if_pos hempty, Option.toList_none, List.append_nil]

theorem foldl_importCell_empty (c : Contact) {cols : List Nat}
    (h : ∀ col ∈ cols, 8 ≤ col ∧ cell col = "") :
    cols.foldl (importCell types cell) c = c := by
  induction cols with
  | nil => rfl
  | cons col cols ih =>
      obtain ⟨⟨hcol, hempty⟩, hcols⟩ := List.forall_mem_cons.mp h
      rw [List.foldl_cons, importCell_empty c hcol hempty, ih hcols]

/-- The columns of numbers. -/
theorem foldl_importCell_phones (c : Contact) (js : List Nat) :
    (js.map (9 + ·)).foldl (importCell types cell) c =
      { c with phones := c.phones ++ js.filterMap fun j => importPhone (cell (j + 9)) (types j) } :=
    by
  induction js generalizing c with
  | nil => rw [List.filterMap_nil, List.append_nil]; rfl
  | cons j js ih =>
      have hphones :
          c.phones ++ (j :: js).filterMap (fun j => importPhone (cell (j + 9)) (types j)) =
          (c.phones ++ (importPhone (cell (j + 9)) (types j)).toList) ++
            js.filterMap fun j => importPhone (cell (j + 9)) (types j) := by
        rw [List.append_assoc, List.filterMap_cons]
        cases importPhone (cell (j + 9)) (types j) <;> rfl
      rw [List.map_cons, List.foldl_cons, Nat.add_comm 9 j, ih, importCell, hphones]

/-- The columns of texts. -/
theorem foldl_importCell_texts : (List.range 9).foldl (importCell types cell) .create =
    (((((((Contact.create.setFN (cell 0)).setMN (cell 1)).setLN (cell 2)).setNN (cell 3)).setTitle
      (cell 4)).setSN (cell 5)).setEmail (cell 6)).setOrganization (cell 7) := rfl

/-- A selection from a list, by the places of its elements. -/
theorem filterMap_range_length {α β : Type} (f : α → Nat → Option β) (l : List α) :
    (List.range l.length).filterMap (fun j => l[j]?.bind fun a => f a j) =
      l.zipIdx.filterMap fun (a, j) => f a j := by
  induction l using List.reverseRecOn with
  | nil => rfl
  | append_singleton l a ih =>
      have hbefore : (List.range l.length).filterMap
          (fun j => (l ++ [a])[j]?.bind fun a => f a j) =
          (List.range l.length).filterMap fun j => l[j]?.bind fun a => f a j := by
        refine List.filterMap_congr fun j hj => ?_
        rw [List.getElem?_append_left (List.mem_range.mp hj)]
      rw [List.length_append, List.length_singleton, List.range_succ, List.filterMap_append,
        hbefore, ih, List.zipIdx_append, List.filterMap_append, Nat.zero_add]
      simp only [List.filterMap_cons, List.filterMap_nil, List.getElem?_concat_length,
        Option.bind_some, List.zipIdx_cons, List.zipIdx_nil]

/-- There is nothing at the places behind a list. -/
theorem filterMap_range {α β : Type} (f : α → Nat → Option β) {l : List α} {n : Nat}
    (h : l.length ≤ n) :
    (List.range n).filterMap (fun j => l[j]?.bind fun a => f a j) =
      l.zipIdx.filterMap fun (a, j) => f a j := by
  obtain ⟨d, rfl⟩ := Nat.exists_eq_add_of_le h
  have hbehind : ((List.range d).map (l.length + ·)).filterMap
      (fun j => l[j]?.bind fun a => f a j) = [] := by
    refine List.filterMap_eq_nil_iff.mpr (List.forall_mem_map.mpr fun j _ => ?_)
    rw [List.getElem?_eq_none (Nat.le_add_right _ _), Option.bind_none]
  rw [List.range_add, List.filterMap_append, hbehind, List.append_nil, filterMap_range_length]

theorem bare_constructSN (c : Contact) : (constructSN c).bare = (constructSN c.bare).bare := by
  have htexts : c.bare.texts = c.texts := rfl
  rw [constructSN, constructSN, htexts]
  split_ifs <;> simp [Contact.bare, Contact.setSN, Function.comp_def, Phone.bare]

/-- The phone of a cell, without its flag. -/
theorem bare_importPhone (number : String) (type : Option NumberType) :
    (importPhone (unified number) type).map (·.bare) =
      if unified number = "" then none else type.map (restoredPhone number) := by
  rw [importPhone]
  split_ifs
  · rfl
  · cases type <;> rfl

/-- The number in a column. -/
theorem getD_exportCells {numTel j : Nat} (c : Contact) (hj : j < numTel) :
    (exportCells numTel c).getD (j + 9) "" = (c.phones[j]?.map (·.number)).getD "" := by
  have hcells : (exportCells numTel c).getD (j + 9) "" =
      ((List.range numTel).map fun j => (c.phones[j]?.map (·.number)).getD "").getD j "" := rfl
  rw [hcells, List.getD_eq_getElem?_getD, List.getElem?_map, List.getElem?_range hj]
  rfl

/-- The phones of the cells of a contact. -/
theorem importPhone_cells {numTel : Nat} {c : Contact} (hnum : c.phones.length ≤ numTel) :
    ((List.range numTel).filterMap fun j =>
      importPhone (unified ((exportCells numTel c).getD (j + 9) "")) (types j)).map (·.bare) =
      c.phones.zipIdx.filterMap fun (ph, j) =>
        if unified ph.number = "" then none else (types j).map (restoredPhone ph.number) := by
  rw [List.map_filterMap, ← filterMap_range
    (fun ph j => if unified ph.number = "" then none else (types j).map (restoredPhone ph.number))
    hnum]
  refine List.filterMap_congr fun j hj => ?_
  rw [getD_exportCells c (List.mem_range.mp hj), bare_importPhone]
  cases c.phones[j]? <;> rfl

/-- The contact that the import makes of the cells of a contact. -/
def importCells (types : Nat → Option NumberType) (numTel : Nat) (c : Contact) : Contact :=
  constructSN ((List.range (9 + numTel)).foldl
    (importCell types fun col => unified ((exportCells numTel c).getD col "")) .create)

theorem length_le_numTel {cs : List Contact} {c : Contact} (hc : c ∈ cs) :
    c.phones.length ≤ numTel cs :=
  (foldl_max_le_iff.mp (Nat.le_refl _)).2 _ (List.mem_map_of_mem hc)

/-- **The contact of the cells of a contact.** -/
theorem bare_importCells {numTel : Nat} {c : Contact} (hnum : c.phones.length ≤ numTel) :
    (importCells types numTel c).bare = restored types c := by
  have hbare : ∀ (c : Contact) (phones : List Phone),
      ({ c with phones := c.phones ++ phones } : Contact).bare =
        { c.bare with phones := c.bare.phones ++ phones.map (·.bare) } := by
    intro c phones
    simp only [Contact.bare, List.map_append]
  rw [importCells, bare_constructSN, List.range_add, List.foldl_append, foldl_importCell_phones,
    hbare, foldl_importCell_texts, importPhone_cells hnum]
  rfl

namespace CsvImportCtrl
variable {cs : List Contact} {s : CsvImportCtrl}

/-- The contact of a line that has the cells of a contact. -/
theorem importContact_cells {s : CsvImportCtrl} {line numTel : Nat} {c : Contact}
    (htext : s.itemText line = fun col => unified ((exportCells numTel c).getD col ""))
    (hsel : ∀ col < s.columnCount, s.getChoice col = assignment types col)
    (hcount : 8 + numTel ≤ s.columnCount ∧ s.columnCount ≤ 9 + numTel)
    (hbehind : ∀ col, s.columnCount ≤ col → s.itemText line col = "") :
    s.importContact line = importCells types numTel c := by
  obtain ⟨d, hd⟩ := Nat.exists_eq_add_of_le hcount.2
  have hcolumns : (List.range s.columnCount).foldl (s.importColumn line) .create =
      (List.range s.columnCount).foldl (importCell types (s.itemText line)) .create :=
    List.foldl_ext _ _ _ fun c col hcol => importColumn_eq c (hsel col (List.mem_range.mp hcol))
  have hcells : (List.range (9 + numTel)).foldl (importCell types (s.itemText line)) .create =
      (List.range s.columnCount).foldl (importCell types (s.itemText line)) .create := by
    rw [hd, List.range_add, List.foldl_append, foldl_importCell_empty]
    refine List.forall_mem_map.mpr fun i _ => ⟨?_, hbehind _ (Nat.le_add_right _ _)⟩
    omega
  rw [importContact, hcolumns, ← hcells, htext]
  rfl

/-- **The contacts of an export.** -/
theorem importContacts_cells (hread : ∀ c ∈ cs, ∀ t ∈ exportCells (numTel cs) c, Readable t.toList)
    {sel : List Nat} (hsel : ∀ col < (s.loadFile (some (doExport cs)) exportParams).2.columnCount,
      sel.getD col 0 = assignment types col) :
    { (s.loadFile (some (doExport cs)) exportParams).2 with selections := sel }.importContacts =
      cs.map (importCells types (numTel cs)) := by
  have hlen : (s.loadFile (some (doExport cs)) exportParams).2.lines.length = cs.length := by
    rw [lines_doExport hread, List.length_map]
  rw [importContacts]
  refine List.ext_getElem? fun line => ?_
  rw [List.getElem?_map, List.getElem?_map, hlen]
  rcases Nat.lt_or_ge line cs.length with hlt | hge
  · have hline : cs[line]? = some cs[line] := List.getElem?_eq_getElem hlt
    rw [List.getElem?_range hlt, hline]
    refine congrArg some (importContact_cells ?_ ?_ ?_ ?_)
    · exact funext fun col => itemText_doExport hread hline col
    · intro col hcol
      rw [getChoice, if_pos hcol]
      exact hsel col hcol
    · exact columnCount_doExport hread (List.ne_nil_of_mem (List.getElem_mem hlt))
    · exact fun col hcol => itemText_behind hcol
  · rw [List.getElem?_eq_none hge, List.getElem?_eq_none (by rwa [List.length_range])]
    rfl

/-- **An export that is imported**: whatever the control has loaded before, when the texts of the
contacts are readable and the columns are selected as the header says, the import gives the
contacts in their order as `restored` has them: their texts but for the image, a display name that
is constructed where there was none, and the numbers that have a text and whose columns are
selected for a type, trimmed. -/
theorem importContacts_doExport (s : CsvImportCtrl) (cs : List Contact) (sel : List Nat)
    (types : Nat → Option NumberType)
    (hread : ∀ c ∈ cs, ∀ t ∈ exportCells (numTel cs) c, Readable t.toList)
    (hsel : ∀ col < (s.loadFile (some (doExport cs)) exportParams).2.columnCount,
      sel.getD col 0 = assignment types col) :
    ({ (s.loadFile (some (doExport cs)) exportParams).2 with
        selections := sel }.importContacts).map Contact.bare = cs.map (restored types) := by
  rw [importContacts_cells hread hsel, List.map_map]
  exact List.map_congr_left fun c hc => bare_importCells (length_le_numTel hc)

/-- A contact with the numbers of her work and of a mobile telephone. -/
def adaExported : Contact :=
  { Contact.create with
    texts := { Contact.create.texts with fn := "Ada", ln := "Lovelace", title := "Countess, the" }
    phones := [⟨1, false, .work, "+44 20", "desk"⟩, ⟨2, false, .cell, "0171", ""⟩] }

theorem readable_adaExported :
    ∀ c ∈ [adaExported], ∀ t ∈ exportCells (numTel [adaExported]) c, Readable t.toList := by
  have hplain : ∀ t ∈ exportCells (numTel [adaExported]) adaExported,
      '"' ∉ t.toList ∧ '\x00' ∉ t.toList ∧ wxEOT ∉ t.toList ∧ '\r' ∉ t.toList := by
    decide +kernel
  intro c hc t ht
  obtain rfl := List.mem_singleton.mp hc
  obtain ⟨hq, hnul, heot, hcr⟩ := hplain t ht
  exact ⟨hq, hnul, heot, fun h => hcr (h.subset (.head _))⟩

/-- The first column of numbers selected for work, the second for mobile telephones. -/
theorem importContacts_adaExported :
    ({ (create.loadFile (some (doExport [adaExported])) exportParams).2 with
        selections := [2, 3, 4, 5, 1, 6, 8, 7, 0, 11, 10] }.importContacts).map Contact.bare =
      [⟨0, false, ⟨"Ada", "", "Lovelace", "", "Lovelace, Ada", "Countess, the", "", "", ""⟩,
        [⟨0, false, .work, "+44 20", ""⟩, ⟨0, false, .cell, "0171", ""⟩]⟩] := by
  have hcount : (create.loadFile (some (doExport [adaExported])) exportParams).2.columnCount = 11 :=
    by decide +kernel
  refine (importContacts_doExport create [adaExported] [2, 3, 4, 5, 1, 6, 8, 7, 0, 11, 10]
    (fun j => if j = 0 then some .work else some .cell) readable_adaExported ?_).trans ?_
  · rw [hcount]
    decide
  · decide +kernel

end CsvImportCtrl
end Cmon
