import Mathlib.Algebra.GroupWithZero.Nat
import Cmon.Csv.Import

/-!
# CSV — what a file says

A file is meant to be read as records, which end at the line ends outside quotes, and a record as
cells, which end at the separators outside quotes (`csvRows`).  `loadFile` shows the records that
end, and of each the cells but an empty one at the end.

* `readLine_tokens` and `columns_tokens`: a record is read, and cut into its cells.
* `lost_delivered`: the stream takes `wxEOT` for its end, and swallows it behind `\r`.
* `lines_iff`: a new control shows what the file says when the last record ends, and no record that
  is not skipped has an empty cell at its end, nor a `wxEOT`.
-/

namespace Cmon
open Library

/-! ### What a file says -/

/-- Each line end as one `\n`. -/
def oneLineEnd : List Char → List Char
  | [] => []
  | [c] => [if c = '\r' then '\n' else c]
  | c :: c2 :: cs =>
      if c = '\r' ∧ c2 = '\n' then '\n' :: oneLineEnd cs
      else (if c = '\r' then '\n' else c) :: oneLineEnd (c2 :: cs)

/-- What a character of the file stands for. -/
inductive CsvToken where
  | quote | lineEnd | separator
  | char (c : Char)
  deriving DecidableEq, Repr

/-- A quote turns the quoted state, and within quotes the other characters stand for themselves. -/
def csvTokens (pr : CsvParams) : Bool → List Char → List CsvToken
  | _, [] => []
  | inString, c :: cs =>
      if pr.bQuoted = true ∧ c = pr.chQuote then .quote :: csvTokens pr (!inString) cs
      else if pr.bQuoted = true ∧ inString = true then .char c :: csvTokens pr inString cs
      else if c = '\n' then .lineEnd :: csvTokens pr false cs
      else if c = pr.chSeparator then .separator :: csvTokens pr inString cs
      else .char c :: csvTokens pr inString cs

/-- The records that end. -/
def endedRecords (ts : List CsvToken) : List (List CsvToken) := (ts.splitOn .lineEnd).dropLast

/-- What stands behind the last line end. -/
def unended (ts : List CsvToken) : List CsvToken := (ts.splitOn .lineEnd).getLastD []

/-- The records, with one at the end that does not end. -/
def records (ts : List CsvToken) : List (List CsvToken) :=
  endedRecords ts ++ if unended ts = [] then [] else [unended ts]

/-- The text of a cell. -/
def cellText (ts : List CsvToken) : String :=
  String.ofList (ts.filterMap fun | .char c => some c | _ => none)

/-- The cells of a record. -/
def cells (record : List CsvToken) : List String := (record.splitOn .separator).map cellText

/-- The records of a file, behind those that are skipped. -/
def unskipped (pr : CsvParams) (file : List Char) : List (List CsvToken) :=
  (records (csvTokens pr false (oneLineEnd file))).drop pr.nLineOffset.toNat

/-- **What the file says.** -/
def csvRows (pr : CsvParams) (file : List Char) : List (List String) :=
  (unskipped pr file).map cells

/-! ### What is read -/

/-- The characters that `GetCharWithSingleNewline` gives before the 0. -/
def delivered (stream : List Char) : List Char :=
  if (getCharWithSingleNewline stream).1 = '\x00' then []
  else (getCharWithSingleNewline stream).1 :: delivered (getCharWithSingleNewline stream).2
termination_by stream.length
decreasing_by exact length_getChar ‹_›

/-- `m_line` of a record. -/
def lineOf (pr : CsvParams) (record : List CsvToken) : List Char :=
  record.filterMap fun
    | .separator => some pr.chSeparator
    | .char c => some c
    | _ => none

/-- `m_delim_pos` of a record, of which `n` characters have been read. -/
def delimsOf : Nat → List CsvToken → List Nat
  | _, [] => []
  | n, .separator :: ts => n :: delimsOf (n + 1) ts
  | n, .char _ :: ts => delimsOf (n + 1) ts
  | n, .quote :: ts => delimsOf n ts
  | n, .lineEnd :: ts => delimsOf n ts

/-- **A record is read up to its end.** -/
theorem readLine_tokens (pr : CsvParams) (line : List Char) (delimPos : List Nat)
    (bInString : Bool) (stream : List Char) :
    ∃ record, .lineEnd ∉ record ∧
      (readLine pr line delimPos bInString stream).line = line ++ lineOf pr record ∧
      (readLine pr line delimPos bInString stream).delimPos =
        delimPos ++ delimsOf line.length record ∧
      csvTokens pr bInString (delivered stream) = record ++
        if (readLine pr line delimPos bInString stream).rc then
          .lineEnd :: csvTokens pr false
            (delivered (readLine pr line delimPos bInString stream).rest)
        else [] := by
  fun_induction readLine pr line delimPos bInString stream with
  | case1 line delimPos bInString stream c rest hc =>
      refine ⟨[], List.not_mem_nil, (List.append_nil _).symm, (List.append_nil _).symm, ?_⟩
      rw [delivered, if_pos hc]
      rfl
  | case2 line delimPos bInString stream c rest hc hq ih =>
      obtain ⟨record, hend, hline, hdelim, hts⟩ := ih
      refine ⟨.quote :: record, by simp [hend], hline, hdelim, ?_⟩
      rw [delivered, if_neg hc, csvTokens, if_pos hq, hts]
      rfl
  | case3 line delimPos bInString stream c rest hc hq hlf hs ih =>
      obtain ⟨record, hend, hline, hdelim, hts⟩ := ih
      refine ⟨.char c :: record, by simp [hend], ?_, ?_, ?_⟩
      · rw [hline, List.append_assoc]
        rfl
      · rw [hdelim, List.length_append]
        rfl
      · rw [delivered, if_neg hc, csvTokens, if_neg hq, if_pos hs, hts]
        rfl
  | case4 line delimPos bInString stream c rest hc hq hlf hs =>
      refine ⟨[], List.not_mem_nil, (List.append_nil _).symm, (List.append_nil _).symm, ?_⟩
      rw [delivered, if_neg hc, csvTokens, if_neg hq, if_neg hs, if_pos hlf]
      rfl
  | case5 line delimPos bInString stream c rest hc hq hlf hsep ih =>
      obtain ⟨record, hend, hline, hdelim, hts⟩ := ih
      refine ⟨.separator :: record, by simp [hend], ?_, ?_, ?_⟩
      · rw [hline, List.append_assoc, hsep.1]
        rfl
      · rw [hdelim, List.length_append, List.append_assoc]
        rfl
      · rw [delivered, if_neg hc, csvTokens, if_neg hq, if_neg hsep.2, if_neg hlf, if_pos hsep.1,
          hts]
        rfl
  | case6 line delimPos bInString stream c rest hc hq hlf hsep ih =>
      obtain ⟨record, hend, hline, hdelim, hts⟩ := ih
      refine ⟨.char c :: record, by simp [hend], ?_, ?_, ?_⟩
      · rw [hline, List.append_assoc]
        rfl
      · rw [hdelim, List.length_append]
        rfl
      · -- within quotes or not, it stands for itself
        rw [delivered, if_neg hc, csvTokens, if_neg hq]
        by_cases hs : pr.bQuoted = true ∧ bInString = true
        · rw [if_pos hs, hts]
          rfl
        · rw [if_neg hs, if_neg hlf, if_neg fun h => hsep ⟨h, hs⟩, hts]
          rfl

/-- A row without an empty cell at its end. -/
def trimLast (row : List String) : List String :=
  if row.getLast? = some "" then row.dropLast else row

theorem trimLast_cons {row : List String} (h : row ≠ []) (t : String) :
    trimLast (t :: row) = t :: trimLast row := by
  cases row with
  | nil => exact absurd rfl h
  | cons u row =>
      rw [trimLast, trimLast, List.getLast?_cons_cons, List.dropLast_cons_cons]
      split <;> rfl

theorem cells_ne_nil (record : List CsvToken) : cells record ≠ [] := by
  simp [cells]

theorem cells_separator (record : List CsvToken) :
    cells (.separator :: record) = "" :: cells record := rfl

/-- What a token that is no separator does to the first cell. -/
theorem cells_cons {t : CsvToken} (h : t ≠ .separator) {f : String → String}
    (hf : ∀ ts, cellText (t :: ts) = f (cellText ts)) (record : List CsvToken) :
    cells (t :: record) = (cells record).modifyHead f := by
  rw [cells, cells, List.splitOn_cons_eq_if_modifyHead, if_neg (by simpa using h)]
  cases record.splitOn .separator with
  | nil => rfl
  | cons r rs => simp [hf]

theorem cells_char (c : Char) (record : List CsvToken) :
    cells (.char c :: record) = (cells record).modifyHead (String.ofList [c] ++ ·) :=
  cells_cons (t := .char c) (f := (String.ofList [c] ++ ·)) nofun (fun ts => by simp [cellText])
    record

/-- Other marks leave nothing in a cell. -/
theorem cells_mark {t : CsvToken} (h : t = .quote ∨ t = .lineEnd) (record : List CsvToken) :
    cells (t :: record) = cells record := by
  have hid : (cells record).modifyHead id = cells record := by
    cases cells record <;> rfl
  rcases h with rfl | rfl
  · exact (cells_cons (t := .quote) nofun (fun _ => rfl) record).trans hid
  · exact (cells_cons (t := .lineEnd) nofun (fun _ => rfl) record).trans hid

theorem mid_append (pre line : List Char) (n : Nat) :
    mid (pre ++ line) pre.length n = String.ofList (line.take n) := by
  rw [mid, List.drop_left]

/-- **A record is cut into its cells,** but for an empty one at its end.  Of the cell that is being
read, `seg` has been read. -/
theorem columns_tokens (pr : CsvParams) (pre seg : List Char) (record : List CsvToken) :
    columns (pre ++ seg ++ lineOf pr record) pre.length (delimsOf (pre ++ seg).length record) =
      trimLast ((cells record).modifyHead (String.ofList seg ++ ·)) := by
  induction record generalizing pre seg with
  | nil =>
      rw [show lineOf pr [] = [] from rfl, List.append_nil, delimsOf, columns, mid_append]
      cases seg with
      | nil => simp [cells, cellText, trimLast]
      | cons c seg =>
          rw [if_pos (by simp), List.take_of_length_le (by simp)]
          simp [cells, cellText, trimLast]
  | cons t record ih =>
      cases t with
      | quote =>
          rw [cells_mark (.inl rfl)]
          exact ih pre seg
      | lineEnd =>
          rw [cells_mark (.inr rfl)]
          exact ih pre seg
      | char c =>
          have h := ih pre (seg ++ [c])
          have hline : pre ++ seg ++ lineOf pr (.char c :: record) =
              pre ++ (seg ++ [c]) ++ lineOf pr record := by simp [lineOf]
          have hpos : (pre ++ seg).length + 1 = (pre ++ (seg ++ [c])).length := by
            simp [Nat.add_assoc]
          rw [hline, delimsOf, hpos, h, cells_char]
          cases hcells : cells record with
          | nil => exact absurd hcells (cells_ne_nil record)
          | cons r rs =>
              rw [List.modifyHead_cons, List.modifyHead_cons, List.modifyHead_cons,
                String.ofList_append, String.append_assoc]
      | separator =>
          have h := ih (pre ++ seg ++ [pr.chSeparator]) []
          have hline : pre ++ seg ++ lineOf pr (.separator :: record) =
              pre ++ seg ++ [pr.chSeparator] ++ [] ++ lineOf pr record := by simp [lineOf]
          have hmid : mid (pre ++ seg ++ [pr.chSeparator] ++ [] ++ lineOf pr record) pre.length
              ((pre ++ seg).length - pre.length) = String.ofList seg := by
            simp [mid, List.append_assoc]
          have hpos : (pre ++ seg).length + 1 = (pre ++ seg ++ [pr.chSeparator]).length := by
            simp [Nat.add_assoc]
          rw [hline, delimsOf, columns, hmid, hpos, cells_separator]
          rw [List.append_nil (pre ++ seg ++ [pr.chSeparator])] at h ⊢
          rw [h]
          cases hcells : cells record with
          | nil => exact absurd hcells (cells_ne_nil record)
          | cons r rs => simp [trimLast_cons]

/-! ### The records that are shown -/

section
variable {pr : CsvParams} {whole : Bool} {record ts us : List CsvToken}

theorem endedRecords_append (h : .lineEnd ∉ record) (ts : List CsvToken) :
    endedRecords (record ++ .lineEnd :: ts) = record :: endedRecords ts := by
  rw [endedRecords, List.splitOn_append_cons_self_of_not_mem h,
    List.dropLast_cons_of_ne_nil (List.splitOn_ne_nil _ _)]
  rfl

theorem endedRecords_single (h : .lineEnd ∉ record) : endedRecords record = [] := by
  rw [endedRecords, List.splitOn_eq_singleton h]
  rfl

/-- The columns of a record. -/
def shownCells (pr : CsvParams) (record : List CsvToken) : List String :=
  columns (lineOf pr record) 0 (delimsOf 0 record)

theorem shownCells_eq (pr : CsvParams) (record : List CsvToken) :
    shownCells pr record = trimLast (cells record) := by
  have h := columns_tokens pr [] [] record
  have hid : (cells record).modifyHead (String.ofList [] ++ ·) = cells record := by
    cases cells record <;> simp
  rwa [hid] at h

/-- **The rows of a file are the records that end.** -/
theorem readLines_tokens (pr : CsvParams) (nLineOffset : Int) (stream : List Char) :
    (readLines pr nLineOffset [] [] stream).1 =
      ((endedRecords (csvTokens pr false (delivered stream))).drop nLineOffset.toNat).map
        fun record => trimLast (cells record) := by
  induction hn : stream.length using Nat.strongRecOn generalizing nLineOffset stream with
  | _ n ih =>
      obtain ⟨record, hend, hline, hdelim, hts⟩ := readLine_tokens pr [] [] false stream
      rw [readLines]
      by_cases hrc : (readLine pr [] [] false stream).rc = true
      · have hrest := fun k : Int => ih _ (hn ▸ readLine_rest hrc) k _ rfl
        rw [if_pos hrc] at hts
        rw [if_pos hrc, hts, endedRecords_append hend]
        by_cases hoff : nLineOffset ≤ 0
        · rw [if_pos hoff]
          show columns _ 0 _ :: (readLines pr nLineOffset [] [] _).1 = _
          have hzero : nLineOffset.toNat = 0 := Int.toNat_of_nonpos hoff
          rw [hrest, hzero, List.drop_zero, List.drop_zero, List.map_cons, ← shownCells_eq pr,
            hline, hdelim]
          rfl
        · rw [if_neg hoff, hrest,
            show nLineOffset.toNat = (nLineOffset - 1).toNat + 1 by omega, List.drop_succ_cons]
      · rw [if_neg hrc, List.append_nil] at hts
        rw [if_neg hrc, hts, endedRecords_single hend, List.drop_nil]
        rfl

/-! ### What is lost -/

/-- A token that stands for `wxEOT`. -/
def isEOT (pr : CsvParams) : CsvToken → Bool
  | .char c => c = wxEOT
  | .separator => pr.chSeparator = wxEOT
  | _ => false

/-- A `wxEOT` that is not behind `\r` ends the stream. -/
def reachesEnd : List Char → Bool
  | [] => true
  | [c] => c ≠ wxEOT
  | c :: c2 :: cs =>
      if c = wxEOT then false
      else if c = '\r' ∧ c2 = wxEOT then reachesEnd cs
      else reachesEnd (c2 :: cs)

/-- From `ts` to `us` each `wxEOT` is lost, and what stands behind one if `whole` is false. -/
inductive Lost (pr : CsvParams) : Bool → List CsvToken → List CsvToken → Prop
  | done : Lost pr true [] []
  | cut {t : CsvToken} (ht : isEOT pr t = true) (ts : List CsvToken) : Lost pr false (t :: ts) []
  | kept {t : CsvToken} (ht : isEOT pr t = false) {whole : Bool} {ts us : List CsvToken}
      (h : Lost pr whole ts us) : Lost pr whole (t :: ts) (t :: us)
  | skipped {t : CsvToken} (ht : isEOT pr t = true) {whole : Bool} {ts us : List CsvToken}
      (h : Lost pr whole ts us) : Lost pr whole (t :: ts) us

theorem ne_lineEnd {t : CsvToken} (h : isEOT pr t = true) : t ≠ .lineEnd := by
  rintro rfl
  cases h

/-- The records lose tokens, and some may be lost altogether. -/
theorem Lost.pieces (h : Lost pr whole ts us) {i : Nat} {r : List CsvToken}
    (hr : (us.splitOn .lineEnd)[i]? = some r) :
    ∃ r₀, (ts.splitOn .lineEnd)[i]? = some r₀ ∧ r.Sublist r₀ := by
  induction h generalizing i r with
  | done => exact ⟨r, hr, List.Sublist.refl r⟩
  | @cut t ht ts =>
      cases i with
      | zero =>
          obtain rfl : [] = r := by simpa using hr
          exact ⟨_, List.getElem?_eq_getElem (List.length_pos_iff.mpr (List.splitOn_ne_nil _ _)),
            List.nil_sublist _⟩
      | succ i => simp at hr
  | @kept t _ _ ts us _ ih =>
      rw [List.splitOn_cons_eq_if_modifyHead] at hr ⊢
      by_cases ht : t = .lineEnd
      · subst ht
        cases i with
        | zero => exact ⟨[], rfl, by simpa using hr⟩
        | succ i => exact ih hr
      · rw [if_neg (by simpa using ht)] at hr ⊢
        cases i with
        | zero =>
            obtain ⟨r', hr', rfl⟩ : ∃ r', (us.splitOn .lineEnd)[0]? = some r' ∧ t :: r' = r := by
              simpa using hr
            obtain ⟨r₀, hr₀, hsub⟩ := ih hr'
            exact ⟨t :: r₀, by simpa using hr₀, hsub.cons_cons t⟩
        | succ i =>
            obtain ⟨r₀, hr₀, hsub⟩ := ih (by simpa using hr)
            exact ⟨r₀, by simpa using hr₀, hsub⟩
  | @skipped t ht _ ts us _ ih =>
      obtain ⟨r₀, hr₀, hsub⟩ := ih hr
      rw [List.splitOn_cons_eq_if_modifyHead, if_neg (by simpa using ne_lineEnd ht)]
      cases i with
      | zero => exact ⟨t :: r₀, by simpa using hr₀, hsub.cons t⟩
      | succ i => exact ⟨r₀, by simpa using hr₀, hsub⟩

/-- The record in which the stream ends has the `wxEOT`. -/
theorem Lost.cut_piece {w : Bool} (h : Lost pr w ts us) (hw : w = false) :
    ∃ r₀, (ts.splitOn .lineEnd)[(us.splitOn .lineEnd).length - 1]? = some r₀ ∧
      ∃ t ∈ r₀, isEOT pr t = true := by
  induction h with
  | done => cases hw
  | @cut t ht ts =>
      rw [List.splitOn_cons_eq_if_modifyHead, if_neg (by simpa using ne_lineEnd ht)]
      cases hsplit : ts.splitOn .lineEnd with
      | nil => exact absurd hsplit (List.splitOn_ne_nil _ _)
      | cons r rs => exact ⟨t :: r, rfl, t, List.mem_cons_self, ht⟩
  | @kept t _ _ ts us _ ih =>
      obtain ⟨r₀, hr₀, t', ht', heot⟩ := ih hw
      rw [List.splitOn_cons_eq_if_modifyHead, List.splitOn_cons_eq_if_modifyHead]
      have hpos := List.length_pos_iff.mpr (List.splitOn_ne_nil CsvToken.lineEnd us)
      by_cases ht : t = .lineEnd
      · subst ht
        refine ⟨r₀, ?_, t', ht', heot⟩
        rw [if_pos (by rfl), if_pos (by rfl), List.length_cons, Nat.add_sub_cancel,
          show (us.splitOn .lineEnd).length = (us.splitOn .lineEnd).length - 1 + 1 by omega,
          List.getElem?_cons_succ]
        exact hr₀
      · rw [if_neg (by simpa using ht), if_neg (by simpa using ht), List.length_modifyHead]
        cases hi : (us.splitOn .lineEnd).length - 1 with
        | zero =>
            rw [hi] at hr₀
            exact ⟨t :: r₀, by simpa using hr₀, t', List.mem_cons_of_mem t ht', heot⟩
        | succ i =>
            rw [hi] at hr₀
            exact ⟨r₀, by simpa using hr₀, t', ht', heot⟩
  | @skipped t ht _ ts us _ ih =>
      obtain ⟨r₀, hr₀, t', ht', heot⟩ := ih hw
      rw [List.splitOn_cons_eq_if_modifyHead, if_neg (by simpa using ne_lineEnd ht)]
      cases hi : (us.splitOn .lineEnd).length - 1 with
      | zero =>
          rw [hi] at hr₀
          exact ⟨t :: r₀, by simpa using hr₀, t', List.mem_cons_of_mem t ht', heot⟩
      | succ i =>
          rw [hi] at hr₀
          exact ⟨r₀, by simpa using hr₀, t', ht', heot⟩

/-- A file that is read to its end loses each `wxEOT` and nothing else. -/
theorem Lost.filter {w : Bool} (h : Lost pr w ts us) (hw : w = true) :
    us = ts.filter (!isEOT pr ·) := by
  induction h with
  | done => rfl
  | cut => cases hw
  | kept ht _ ih => rw [List.filter_cons_of_pos (by simp [ht]), ← ih hw]
  | skipped ht _ ih => rw [List.filter_cons_of_neg (by simp [ht]), ih hw]

/-- A character that both have. -/
theorem Lost.tokens_cons {cs ds : List Char} {c : Char}
    (h : ∀ b, Lost pr whole (csvTokens pr b cs) (csvTokens pr b ds)) (b : Bool) (hc : c ≠ wxEOT) :
    Lost pr whole (csvTokens pr b (c :: cs)) (csvTokens pr b (c :: ds)) := by
  have hchar : isEOT pr (.char c) = false := decide_eq_false hc
  rw [csvTokens, csvTokens]
  split_ifs with hq hs hlf hsep
  · exact .kept rfl (h _)
  · exact .kept hchar (h _)
  · exact .kept rfl (h _)
  · exact .kept (t := .separator) (decide_eq_false (hsep ▸ hc)) (h _)
  · exact .kept hchar (h _)

/-- `wxEOT` within or without quotes. -/
theorem tokens_wxEOT (hq : ¬ (pr.bQuoted = true ∧ wxEOT = pr.chQuote)) (b : Bool)
    (cs : List Char) :
    ∃ t, isEOT pr t = true ∧ csvTokens pr b (wxEOT :: cs) = t :: csvTokens pr b cs := by
  rw [csvTokens, if_neg hq, if_neg (show ¬ wxEOT = '\n' by decide)]
  split_ifs with hs hsep
  · exact ⟨.char wxEOT, rfl, rfl⟩
  · exact ⟨.separator, decide_eq_true hsep.symm, rfl⟩
  · exact ⟨.char wxEOT, rfl, rfl⟩

theorem oneLineEnd_wxEOT (cs : List Char) : oneLineEnd (wxEOT :: cs) = wxEOT :: oneLineEnd cs := by
  cases cs with
  | nil => rfl
  | cons c cs => rw [oneLineEnd, if_neg (by simp [wxEOT]), if_neg (by simp [wxEOT])]

theorem reachesEnd_wxEOT (cs : List Char) : reachesEnd (wxEOT :: cs) = false := by
  cases cs <;> rfl

theorem delivered_end {stream : List Char} (h : (getCharWithSingleNewline stream).1 = '\x00') :
    delivered stream = [] := by
  rw [delivered, if_pos h]

theorem delivered_cons {stream : List Char} (c : Char) (rest : List Char) (hc : c ≠ '\x00')
    (h : getCharWithSingleNewline stream = (c, rest)) :
    delivered stream = c :: delivered rest := by
  rw [delivered, h, if_neg hc]

/-- **What the stream makes of a file.** -/
theorem lost_delivered : ∀ (stream : List Char), '\x00' ∉ stream →
    (pr.bQuoted = true ∧ wxEOT = pr.chQuote → wxEOT ∉ stream) → ∀ b : Bool,
      Lost pr (reachesEnd stream) (csvTokens pr b (oneLineEnd stream))
        (csvTokens pr b (delivered stream))
  | [], _, _, b => by
      rw [delivered_end rfl]
      exact .done
  | c :: cs, hnul, hq, b => by
      by_cases heot : c = wxEOT
      · subst heot
        obtain ⟨t, ht, hts⟩ := tokens_wxEOT (fun h => hq h List.mem_cons_self) b (oneLineEnd cs)
        rw [delivered_end rfl, oneLineEnd_wxEOT, reachesEnd_wxEOT, hts]
        exact .cut ht _
      · have hc : c ≠ '\x00' := fun h => hnul (h ▸ List.mem_cons_self)
        have hcs : '\x00' ∉ cs := fun h => hnul (List.mem_cons_of_mem c h)
        have hqcs : pr.bQuoted = true ∧ wxEOT = pr.chQuote → wxEOT ∉ cs :=
          fun h hmem => hq h (List.mem_cons_of_mem c hmem)
        by_cases hcr : c = '\r'
        · subst hcr
          match cs with
          | [] =>
              rw [delivered_cons '\n' [] (by decide) rfl, delivered_end rfl]
              exact .tokens_cons (fun _ => .done) b (by decide)
          | c2 :: rest =>
              have hrest : '\x00' ∉ rest := fun h => hcs (List.mem_cons_of_mem c2 h)
              have hqrest : pr.bQuoted = true ∧ wxEOT = pr.chQuote → wxEOT ∉ rest :=
                fun h hmem => hqcs h (List.mem_cons_of_mem c2 hmem)
              by_cases hlf : c2 = '\n'
              · subst hlf
                have hreach : reachesEnd ('\r' :: '\n' :: rest) = reachesEnd rest := by
                  cases rest <;> rfl
                rw [delivered_cons '\n' rest (by decide) rfl, hreach]
                exact .tokens_cons (lost_delivered rest hrest hqrest) b (by decide)
              · rw [oneLineEnd, if_neg fun h => hlf h.2, if_pos rfl, reachesEnd, if_neg heot]
                by_cases hc2 : c2 = wxEOT
                · -- it is swallowed
                  subst hc2
                  rw [if_pos ⟨rfl, rfl⟩, delivered_cons '\n' rest (by decide) rfl, oneLineEnd_wxEOT]
                  refine .tokens_cons (fun b => ?_) b (by decide)
                  obtain ⟨t, ht, hts⟩ :=
                    tokens_wxEOT (fun h => hqcs h List.mem_cons_self) b (oneLineEnd rest)
                  rw [hts]
                  exact .skipped ht (lost_delivered rest hrest hqrest b)
                · have hget : getCharWithSingleNewline ('\r' :: c2 :: rest) =
                      ('\n', c2 :: rest) := by
                    simp [getCharWithSingleNewline, wxEOT, hlf, show ¬ c2 = '\x04' from hc2]
                  rw [if_neg fun h => hc2 h.2, delivered_cons '\n' _ (by decide) hget]
                  exact .tokens_cons (lost_delivered (c2 :: rest) hcs hqcs) b (by decide)
        · have hget : getCharWithSingleNewline (c :: cs) = (c, cs) := by
            by_cases hlf : c = '\n'
            · subst hlf
              rfl
            · simp [getCharWithSingleNewline, heot, hlf, hcr]
          have hone : oneLineEnd (c :: cs) = c :: oneLineEnd cs := by
            cases cs with
            | nil => simp [oneLineEnd, hcr]
            | cons c2 rest => simp [oneLineEnd, hcr]
          have hreach : reachesEnd (c :: cs) = reachesEnd cs := by
            cases cs with
            | nil => simp [reachesEnd, heot]
            | cons c2 rest => simp [reachesEnd, heot, hcr]
          rw [delivered_cons c cs hc hget, hone, hreach]
          exact .tokens_cons (lost_delivered cs hcs hqcs) b heot

theorem getChar_ne_wxEOT (stream : List Char) : (getCharWithSingleNewline stream).1 ≠ wxEOT := by
  have hnul : '\x00' ≠ wxEOT := by decide
  have hlf : '\n' ≠ wxEOT := by decide
  fun_cases getCharWithSingleNewline stream with
  | case1 => exact hnul
  | case2 => exact hnul
  | case3 => exact hlf
  | case4 => exact hlf
  | case5 => exact hlf
  | case6 => exact hlf
  | case7 c _ heot => exact heot

/-- `wxEOT` is never read. -/
theorem wxEOT_notMem_delivered (stream : List Char) : wxEOT ∉ delivered stream := by
  induction hn : stream.length using Nat.strongRecOn generalizing stream with
  | _ n ih =>
      rw [delivered]
      split_ifs with hc
      · exact List.not_mem_nil
      · exact List.not_mem_cons_of_ne_of_not_mem (getChar_ne_wxEOT stream).symm
          (ih _ (hn ▸ length_getChar hc) _ rfl)

/-- A record has the characters of its file. -/
theorem mem_tokens {c : Char} {t : CsvToken} {cs : List Char} {b : Bool}
    (ht : t ∈ csvTokens pr b cs) (hc : c ∈ lineOf pr [t]) : c ∈ cs := by
  induction cs generalizing b with
  | nil => cases ht
  | cons d cs ih =>
      rw [csvTokens] at ht
      split_ifs at ht with hq hs hlf hsep
      all_goals
        rcases List.mem_cons.mp ht with rfl | ht
        rotate_left
        · exact List.mem_cons_of_mem d (ih ht)
      · cases hc
      · exact List.mem_cons.mpr (.inl (List.mem_singleton.mp hc))
      · cases hc
      · exact List.mem_cons.mpr (.inl ((List.mem_singleton.mp hc).trans hsep.symm))
      · exact List.mem_cons.mpr (.inl (List.mem_singleton.mp hc))

theorem isEOT_iff (t : CsvToken) : isEOT pr t = true ↔ wxEOT ∈ lineOf pr [t] := by
  cases t with
  | quote => exact iff_of_false Bool.false_ne_true List.not_mem_nil
  | lineEnd => exact iff_of_false Bool.false_ne_true List.not_mem_nil
  | separator => exact decide_eq_true_iff.trans (eq_comm.trans List.mem_singleton.symm)
  | char c => exact decide_eq_true_iff.trans (eq_comm.trans List.mem_singleton.symm)

theorem exists_isEOT_iff : (∃ t ∈ record, isEOT pr t = true) ↔ wxEOT ∈ lineOf pr record := by
  induction record with
  | nil => simp [lineOf]
  | cons t record ih =>
      have hcons : lineOf pr (t :: record) = lineOf pr [t] ++ lineOf pr record := by
        rw [lineOf, lineOf, lineOf, ← List.filterMap_append]
        rfl
      rw [hcons, List.mem_append, ← isEOT_iff, ← ih, List.exists_mem_cons_iff]

theorem splitOn_filter {p : CsvToken → Bool} (hp : p .lineEnd = true) (ts : List CsvToken) :
    (ts.filter p).splitOn .lineEnd = (ts.splitOn .lineEnd).map (List.filter p) := by
  induction ts with
  | nil => rfl
  | cons t ts ih =>
      rw [List.splitOn_cons_eq_if_modifyHead]
      by_cases ht : t = .lineEnd
      · subst ht
        rw [List.filter_cons_of_pos hp, List.splitOn_cons_eq_if_modifyHead, if_pos (by rfl),
          if_pos (by rfl), ih]
        rfl
      · rw [if_neg (by simpa using ht)]
        cases hsplit : ts.splitOn .lineEnd with
        | nil => exact absurd hsplit (List.splitOn_ne_nil _ _)
        | cons r rs =>
            rw [hsplit] at ih
            cases hpt : p t with
            | true =>
                rw [List.filter_cons_of_pos hpt, List.splitOn_cons_eq_if_modifyHead,
                  if_neg (by simpa using ht), ih]
                simp [hpt]
            | false =>
                rw [List.filter_cons_of_neg (by simp [hpt]), ih]
                simp [hpt]

/-- No record that is read has a `wxEOT`. -/
theorem wxEOT_notMem_lineOf {b : Bool} {stream : List Char} {i : Nat} {r : List CsvToken}
    (hr : ((csvTokens pr b (delivered stream)).splitOn .lineEnd)[i]? = some r) :
    wxEOT ∉ lineOf pr r := by
  have hall : (csvTokens pr b (delivered stream)).filter (!isEOT pr ·) =
      csvTokens pr b (delivered stream) := by
    refine List.filter_eq_self.mpr fun t ht => ?_
    rw [Bool.not_eq_true', Bool.eq_false_iff]
    exact fun heot => wxEOT_notMem_delivered stream (mem_tokens ht ((isEOT_iff t).mp heot))
  have hsplit := splitOn_filter (p := (!isEOT pr ·)) rfl (csvTokens pr b (delivered stream))
  rw [hall] at hsplit
  have hri : some r = some (r.filter (!isEOT pr ·)) := by
    rw [← hr]
    conv_lhs => rw [hsplit]
    rw [List.getElem?_map, hr]
    rfl
  intro hmem
  obtain ⟨t, ht, heot⟩ := exists_isEOT_iff.mpr hmem
  rw [Option.some.inj hri, List.mem_filter, heot] at ht
  exact Bool.false_ne_true ht.2

/-! ### When the file is shown -/

/-- The cells of a row and their characters. -/
def rowSize (row : List String) : Nat := (row.map fun t => t.length + 1).sum

theorem rowSize_cells (pr : CsvParams) (record : List CsvToken) :
    rowSize (cells record) = (lineOf pr record).length + 1 := by
  induction record with
  | nil => rfl
  | cons t record ih =>
      cases t with
      | quote => exact (congrArg rowSize (cells_mark (.inl rfl) record)).trans ih
      | lineEnd => exact (congrArg rowSize (cells_mark (.inr rfl) record)).trans ih
      | separator =>
          rw [cells_separator, rowSize, List.map_cons, List.sum_cons, ← rowSize, ih]
          simp [lineOf]
          omega
      | char c =>
          rw [cells_char]
          cases hcells : cells record with
          | nil => exact absurd hcells (cells_ne_nil record)
          | cons r rs =>
              rw [hcells] at ih
              simp [rowSize, lineOf] at ih ⊢
              omega

theorem rowSize_trimLast (row : List String) : rowSize (trimLast row) ≤ rowSize row ∧
    (rowSize row ≤ rowSize (trimLast row) → trimLast row = row) := by
  rw [trimLast]
  split
  · next hlast =>
    obtain ⟨front, rfl⟩ := List.getLast?_eq_some_iff.mp hlast
    rw [List.dropLast_concat]
    simp [rowSize]
  · exact ⟨Nat.le_refl _, fun _ => rfl⟩

theorem trimLast_eq_self {row : List String} : trimLast row = row ↔ row.getLast? ≠ some "" := by
  rw [trimLast]
  split
  · next hlast =>
    refine iff_of_false (fun h => ?_) (not_not.mpr hlast)
    have hlen := congrArg List.length h
    have hne : row ≠ [] := by
      rintro rfl
      cases hlast
    have hpos := List.length_pos_iff.mpr hne
    rw [List.length_dropLast] at hlen
    omega
  · next hlast => exact iff_of_true rfl hlast

/-- Where the row of a record that may have lost tokens is that of the whole record, nothing was
lost, and no cell. -/
theorem lineOf_eq {r r₀ : List CsvToken} (pr : CsvParams) (h : r.Sublist r₀)
    (he : trimLast (cells r) = cells r₀) :
    lineOf pr r = lineOf pr r₀ ∧ (cells r₀).getLast? ≠ some "" := by
  have hle := (rowSize_trimLast (cells r)).1
  have hsub : (lineOf pr r).Sublist (lineOf pr r₀) := h.filterMap _
  rw [he, rowSize_cells pr, rowSize_cells pr] at hle
  have hline := hsub.eq_of_length_le (Nat.le_of_succ_le_succ hle)
  have hself : trimLast (cells r) = cells r := by
    refine (rowSize_trimLast (cells r)).2 (Nat.le_of_eq ?_)
    rw [he, rowSize_cells pr, rowSize_cells pr, hline]
  refine ⟨hline, ?_⟩
  rw [← he, hself]
  exact trimLast_eq_self.mp hself

theorem records_eq (ts : List CsvToken) : records ts =
    if unended ts = [] then (ts.splitOn .lineEnd).dropLast else ts.splitOn .lineEnd := by
  rw [records, endedRecords]
  split
  · exact List.append_nil _
  · rw [unended, List.getLastD_eq_getLast?, List.getLast?_eq_some_getLast (List.splitOn_ne_nil _ _)]
    exact List.dropLast_concat_getLast _

theorem unended_eq (ts : List CsvToken) :
    (ts.splitOn .lineEnd)[(ts.splitOn .lineEnd).length - 1]? = some (unended ts) := by
  rw [← List.getLast?_eq_getElem?, unended, List.getLastD_eq_getLast?,
    List.getLast?_eq_some_getLast (List.splitOn_ne_nil _ _)]
  rfl

/-- There are no more records when some are lost. -/
theorem Lost.length_le (h : Lost pr whole ts us) :
    (us.splitOn .lineEnd).length ≤ (ts.splitOn .lineEnd).length := by
  have hpos := List.length_pos_iff.mpr (List.splitOn_ne_nil CsvToken.lineEnd us)
  have hlast : (us.splitOn CsvToken.lineEnd).length - 1 < (us.splitOn .lineEnd).length := by omega
  obtain ⟨r₀, hr₀, -⟩ := h.pieces (List.getElem?_eq_getElem hlast)
  have hlt := (List.getElem?_eq_some_iff.mp hr₀).1
  omega

theorem endedRecords_length (ts : List CsvToken) :
    (endedRecords ts).length = (ts.splitOn .lineEnd).length - 1 := List.length_dropLast

theorem getElem?_endedRecords {i : Nat} (h : (endedRecords ts)[i]? = some record) :
    (ts.splitOn .lineEnd)[i]? = some record := by
  rw [endedRecords, List.getElem?_dropLast] at h
  split_ifs at h
  exact h

theorem endedRecords_length_le (ts : List CsvToken) :
    (endedRecords ts).length ≤ (records ts).length := by
  rw [records, List.length_append]
  exact Nat.le_add_right _ _

end

/-- The stream is read to its end and the last record ends; and no record that is not skipped has a
`wxEOT`, or an empty cell at its end. -/
structure AllShown (pr : CsvParams) (file : List Char) : Prop where
  reached : reachesEnd file = true
  ended : unended (csvTokens pr false (oneLineEnd file)) = []
  clean : ∀ record ∈ unskipped pr file, wxEOT ∉ lineOf pr record
  cells : ∀ record ∈ unskipped pr file, (cells record).getLast? ≠ some ""

/-- When the file is shown; `wxEOT` as the quote is not to be read. -/
structure Showable (pr : CsvParams) (file : List Char) : Prop where
  quote : pr.bQuoted = true ∧ wxEOT = pr.chQuote → wxEOT ∉ file
  shown : unskipped pr file = [] ∨ AllShown pr file

namespace CsvImportCtrl

/-- The rows of a new control. -/
theorem create_lines (pr : CsvParams) (file : List Char) :
    (create.loadFile (some file) pr).2.lines =
      ((endedRecords (csvTokens pr false (delivered file))).drop pr.nLineOffset.toNat).map
        fun record => trimLast (Cmon.cells record) :=
  readLines_tokens pr pr.nLineOffset file

end CsvImportCtrl

/-- The rows that are shown, when they all are. -/
theorem lines_of_allShown {pr : CsvParams} {file : List Char} (h : AllShown pr file)
    (hl : Lost pr true (csvTokens pr false (oneLineEnd file))
      (csvTokens pr false (delivered file))) :
    (CsvImportCtrl.create.loadFile (some file) pr).2.lines = csvRows pr file := by
  have hended : endedRecords (csvTokens pr false (delivered file)) =
      (endedRecords (csvTokens pr false (oneLineEnd file))).map (List.filter (!isEOT pr ·)) := by
    rw [hl.filter rfl, endedRecords, splitOn_filter rfl, ← List.map_dropLast]
    rfl
  have hrecords : records (csvTokens pr false (oneLineEnd file)) =
      endedRecords (csvTokens pr false (oneLineEnd file)) := by
    rw [records, if_pos h.ended, List.append_nil]
  rw [CsvImportCtrl.create_lines, hended, ← hrecords, ← List.map_drop, List.map_map]
  refine List.map_congr_left fun record hrecord => ?_
  have hfilter : record.filter (!isEOT pr ·) = record := by
    refine List.filter_eq_self.mpr fun t ht => ?_
    rw [Bool.not_eq_true', Bool.eq_false_iff]
    exact fun heot => h.clean record hrecord (exists_isEOT_iff.mp ⟨t, ht, heot⟩)
  show trimLast (cells (record.filter (!isEOT pr ·))) = cells record
  rw [hfilter]
  exact trimLast_eq_self.mpr (h.cells record hrecord)

/-- What is behind a file whose rows are shown. -/
theorem allShown_of_lines {pr : CsvParams} {file : List Char}
    (hl : Lost pr (reachesEnd file) (csvTokens pr false (oneLineEnd file))
      (csvTokens pr false (delivered file))) (hne : unskipped pr file ≠ [])
    (h : (CsvImportCtrl.create.loadFile (some file) pr).2.lines = csvRows pr file) :
    AllShown pr file := by
  rw [CsvImportCtrl.create_lines] at h
  -- no record is lost, and the last one ends
  have hlen := congrArg List.length h
  have hpos := List.length_pos_iff.mpr hne
  have hle := hl.length_le
  have hrecords := endedRecords_length_le (csvTokens pr false (oneLineEnd file))
  simp only [csvRows, unskipped, List.length_map, List.length_drop, endedRecords_length]
    at hlen hrecords hpos
  have hended : unended (csvTokens pr false (oneLineEnd file)) = [] := by
    by_contra hun
    rw [records_eq, if_neg hun] at hlen hpos
    omega
  have heq : records (csvTokens pr false (oneLineEnd file)) =
      endedRecords (csvTokens pr false (oneLineEnd file)) := by
    rw [records, if_pos hended, List.append_nil]
  rw [heq, endedRecords_length] at hlen hpos
  -- nor is anything lost of a record that is not skipped
  have hpiece : ∀ record ∈ unskipped pr file,
      wxEOT ∉ lineOf pr record ∧ (cells record).getLast? ≠ some "" := by
    intro record hrecord
    obtain ⟨i, hi⟩ := List.mem_iff_getElem?.mp hrecord
    have hrow := congrArg (·[i]?) h
    simp only [csvRows, List.getElem?_map, hi] at hrow
    obtain ⟨r, hr, hcells⟩ := Option.map_eq_some_iff.mp hrow
    rw [List.getElem?_drop] at hr
    rw [unskipped, heq, List.getElem?_drop] at hi
    obtain ⟨r₀, hr₀, hsub⟩ := hl.pieces (getElem?_endedRecords hr)
    obtain rfl : r₀ = record := Option.some.inj (hr₀.symm.trans (getElem?_endedRecords hi))
    obtain ⟨hline, hlast⟩ := lineOf_eq pr hsub hcells
    refine ⟨?_, hlast⟩
    rw [← hline]
    exact wxEOT_notMem_lineOf (getElem?_endedRecords hr)
  exact {
    reached := by
      by_contra hreach
      obtain ⟨r₀, hr₀, heot⟩ := hl.cut_piece (Bool.eq_false_iff.mpr hreach)
      rw [show ((csvTokens pr false (delivered file)).splitOn CsvToken.lineEnd).length =
        ((csvTokens pr false (oneLineEnd file)).splitOn .lineEnd).length by omega, unended_eq,
        hended] at hr₀
      obtain rfl := Option.some.inj hr₀
      obtain ⟨t, ht, -⟩ := heot
      cases ht
    ended := hended
    clean := fun record hrecord => (hpiece record hrecord).1
    cells := fun record hrecord => (hpiece record hrecord).2 }

namespace CsvImportCtrl

/-- **When a new control shows what the file says.** -/
theorem lines_iff (pr : CsvParams) (file : List Char) (hnul : '\x00' ∉ file) :
    (Showable pr file → (create.loadFile (some file) pr).2.lines = csvRows pr file) ∧
      (¬ (pr.bQuoted = true ∧ wxEOT = pr.chQuote) →
        (create.loadFile (some file) pr).2.lines = csvRows pr file → Showable pr file) := by
  constructor
  · intro h
    have hl := lost_delivered file hnul h.quote false
    rcases h.shown with hnone | hall
    · -- all records are skipped, and no more are read
      have hskip := List.drop_eq_nil_iff.mp hnone
      have hle := hl.length_le
      have hrecords := endedRecords_length_le (csvTokens pr false (oneLineEnd file))
      rw [endedRecords_length] at hrecords
      rw [create_lines, csvRows, hnone, List.map_nil, List.map_eq_nil_iff]
      refine List.drop_eq_nil_of_le ?_
      rw [endedRecords_length]
      omega
    · rw [hall.reached] at hl
      exact lines_of_allShown hall hl
  · intro hq h
    refine ⟨fun h => absurd h hq, or_iff_not_imp_left.mpr fun hne => ?_⟩
    exact allShown_of_lines (lost_delivered file hnul (fun h => absurd h hq) false) hne h

/-- `"Bob\nSmith",1` and a line end. -/
theorem lines_quoted :
    (create.loadFile (some "\"Bob\nSmith\",1\n".toList) commas).2.lines =
      csvRows commas "\"Bob\nSmith\",1\n".toList :=
  (lines_iff commas "\"Bob\nSmith\",1\n".toList (by decide)).1
    ⟨by decide, .inr ⟨by decide, by decide, by decide, by decide⟩⟩

/-- An empty cell at the end of a line is not shown, and neither is a last line without an end. -/
theorem last_line_lost :
    (create.loadFile (some "Alice,\nBob".toList) commas).2.lines ≠
        csvRows commas "Alice,\nBob".toList ∧
      (create.loadFile (some "Alice,\nBob".toList) commas).2.lines = [["Alice"]] ∧
      csvRows commas "Alice,\nBob".toList = [["Alice", ""], ["Bob"]] := by
  decide +kernel

end CsvImportCtrl

end Cmon
