import Cmon.Library.Run

/-!
# CSV — the import

`CCsvImportCtrl`: the control into which the import dialog loads a file, again with every change
of a parameter.  A line is read character by character; where a separator stands is noted, and the
quotes are left out.

* The text stream of wxWidgets is its documented reading: `\r\n`, `\r` and `\n` are one line end.
  A NUL ends the reading, and so does `wxEOT`, which the stream also gives at its end.
* `m_line` is not cleared when a load begins.  What a load leaves in it stands in front of the first
  line of the next file (`readLines_rows`).
-/

namespace Cmon
open Library

/-! ### The source -/

/-- `wxEOT`. -/
def wxEOT : Char := '\x04'

/-- `CCsvImportStream::GetCharWithSingleNewline`: the character, 0 at the end, and what is left. -/
def getCharWithSingleNewline : List Char → Char × List Char
  | [] => ('\x00', [])
  | c :: stream =>
      if c = wxEOT then ('\x00', stream)
      else if c = '\n' then ('\n', stream)
      else if c = '\r' then
        match stream with
        | [] => ('\n', [])
        | c2 :: rest => if c2 = wxEOT ∨ c2 = '\n' then ('\n', rest) else ('\n', stream)
      else (c, stream)

/-- The parameters of `loadFile`. -/
structure CsvParams where
  chSeparator : Char
  bQuoted : Bool
  chQuote : Char
  nLineOffset : Int
  deriving DecidableEq, Repr

/-- What `readLine` comes to: its result, `m_line` and `m_delim_pos`, and what is left. -/
structure CsvLine where
  rc : Bool
  line : List Char
  delimPos : List Nat
  rest : List Char
  deriving DecidableEq, Repr

/-- A character that is not 0 was taken from the stream. -/
theorem length_getChar {stream : List Char} (h : (getCharWithSingleNewline stream).1 ≠ '\x00') :
    (getCharWithSingleNewline stream).2.length < stream.length := by
  cases stream with
  | nil => exact absurd rfl h
  | cons c stream =>
      have hlt : stream.length < (c :: stream).length := Nat.lt_succ_self _
      cases stream with
      | nil =>
          simp only [getCharWithSingleNewline]
          split_ifs <;> exact hlt
      | cons c2 rest =>
          simp only [getCharWithSingleNewline]
          split_ifs
          · exact hlt
          · exact hlt
          · exact Nat.lt_succ_of_lt (Nat.lt_succ_self _)
          · exact hlt
          · exact hlt

/-- `CCsvImportCtrl::readLine`. -/
def readLine (pr : CsvParams) (line : List Char) (delimPos : List Nat) (bInString : Bool)
    (stream : List Char) : CsvLine :=
  let c := (getCharWithSingleNewline stream).1
  let rest := (getCharWithSingleNewline stream).2
  if c = '\x00' then ⟨false, line, delimPos, rest⟩
  else if pr.bQuoted = true ∧ c = pr.chQuote then readLine pr line delimPos (!bInString) rest
  else if c = '\n' then
    if pr.bQuoted = true ∧ bInString = true then
      readLine pr (line ++ [c]) delimPos bInString rest
    else ⟨true, line, delimPos, rest⟩
  else if c = pr.chSeparator ∧ ¬(pr.bQuoted = true ∧ bInString = true) then
    readLine pr (line ++ [c]) (delimPos ++ [line.length]) bInString rest
  else readLine pr (line ++ [c]) delimPos bInString rest
termination_by stream.length
decreasing_by all_goals exact length_getChar ‹_›

/-- `m_line.Mid(p1, n)`. -/
def mid (line : List Char) (p1 n : Nat) : String := String.ofList ((line.drop p1).take n)

/-- The columns of a line. -/
def columns (line : List Char) (p1 : Nat) : List Nat → List String
  | [] => if p1 < line.length then [mid line p1 line.length] else []
  | p2 :: delimPos => mid line p1 (p2 - p1) :: columns line (p2 + 1) delimPos

/-- A line that was read is behind the stream. -/
theorem readLine_rest {pr : CsvParams} {line : List Char} {delimPos : List Nat} {bInString : Bool}
    {stream : List Char} (h : (readLine pr line delimPos bInString stream).rc = true) :
    (readLine pr line delimPos bInString stream).rest.length < stream.length := by
  fun_induction readLine pr line delimPos bInString stream with
  | case1 => cases h
  | case2 _ _ _ _ _ _ hc _ ih => exact Nat.lt_trans (ih h) (length_getChar hc)
  | case3 _ _ _ _ _ _ hc _ _ _ ih => exact Nat.lt_trans (ih h) (length_getChar hc)
  | case4 _ _ _ _ _ _ hc => exact length_getChar hc
  | case5 _ _ _ _ _ _ hc _ _ _ ih => exact Nat.lt_trans (ih h) (length_getChar hc)
  | case6 _ _ _ _ _ _ hc _ _ _ ih => exact Nat.lt_trans (ih h) (length_getChar hc)

/-- The loop of `loadFile`, with `m_line` and `m_delim_pos` as they are: the rows, and what the
loop leaves in the two. -/
def readLines (pr : CsvParams) (nLineOffset : Int) (line : List Char) (delimPos : List Nat)
    (stream : List Char) : List (List String) × List Char × List Nat :=
  let l := readLine pr line delimPos false stream
  if l.rc = true then
    if nLineOffset ≤ 0 then
      let (lines, left) := readLines pr nLineOffset [] [] l.rest
      (columns l.line 0 l.delimPos :: lines, left)
    else readLines pr (nLineOffset - 1) [] [] l.rest
  else ([], l.line, l.delimPos)
termination_by stream.length
decreasing_by all_goals exact readLine_rest ‹_›

/-- `CCsvImportCtrl`: what is shown, the selection of each column, and what is kept from the line
that was read last. -/
structure CsvImportCtrl where
  ok : Bool
  lines : List (List String)
  invalidLines : List Bool
  selections : List Nat
  columnCount : Nat
  line : List Char
  delimPos : List Nat
  deriving DecidableEq, Repr

namespace CsvImportCtrl

/-- The constructor. -/
def create : CsvImportCtrl := ⟨false, [], [], [], 0, [], []⟩

/-- `m_bOk` of `updateHeader`: no two columns are selected for the same field. -/
def headerOk (s : CsvImportCtrl) : Bool :=
  (List.range s.columnCount).all fun i => s.selections.getD i 0 = 0 ||
    (List.range s.columnCount).all fun j => j = i || s.selections.getD i 0 ≠ s.selections.getD j 0

/-- `loadFile`; a file that cannot be opened is `none`. -/
def loadFile (s : CsvImportCtrl) (file : Option (List Char)) (pr : CsvParams) :
    Bool × CsvImportCtrl :=
  match file with
  | none => (false, { s with ok := false })
  | some stream =>
      let (lines, line, delimPos) := readLines pr pr.nLineOffset s.line [] stream
      let maxCol := (lines.map List.length).foldl max 0
      let s : CsvImportCtrl :=
        { s with
          lines, line, delimPos
          invalidLines := lines.map fun _ => false
          selections := s.selections ++ List.replicate (maxCol - s.selections.length) 0
          columnCount := maxCol }
      (true, { s with ok := s.headerOk })

/-- A load of the dialog: the file as it is found, and the parameters. -/
abbrev Load := Option (List Char) × CsvParams

/-- `DoOpenFile`. -/
def doOpenFile (s : CsvImportCtrl) (l : Load) : CsvImportCtrl := (s.loadFile l.1 l.2).2

/-- The control after the loads of a history. -/
def after (history : List Load) : CsvImportCtrl := run doOpenFile create history

end CsvImportCtrl

/-! ### What is left from the line before -/

/-- A line with `pre` in front of it. -/
def CsvLine.behind (pre : List Char) (l : CsvLine) : CsvLine :=
  { l with line := pre ++ l.line, delimPos := l.delimPos.map (pre.length + ·) }

/-- What stands in `m_line` is not read again: it is in front of the line that is read. -/
theorem readLine_behind (pr : CsvParams) (pre line : List Char) (delimPos : List Nat)
    (bInString : Bool) (stream : List Char) :
    readLine pr (pre ++ line) (delimPos.map (pre.length + ·)) bInString stream =
      (readLine pr line delimPos bInString stream).behind pre := by
  fun_induction readLine pr line delimPos bInString stream with
  | case1 _ _ _ _ _ rest hc =>
      rw [readLine, if_pos hc]
      rfl
  | case2 _ _ _ _ _ rest hc hq ih =>
      rw [readLine, if_neg hc, if_pos hq]
      exact ih
  | case3 line _ _ _ c rest hc hq hlf hs ih =>
      rw [readLine, if_neg hc, if_neg hq, if_pos hlf, if_pos hs, List.append_assoc]
      exact ih
  | case4 _ _ _ _ _ rest hc hq hlf hs =>
      rw [readLine, if_neg hc, if_neg hq, if_pos hlf, if_neg hs]
      rfl
  | case5 line delimPos _ _ c rest hc hq hlf hsep ih =>
      rw [readLine, if_neg hc, if_neg hq, if_neg hlf, if_pos hsep, List.append_assoc,
        List.length_append]
      rw [List.map_append] at ih
      exact ih
  | case6 line _ _ _ c rest hc hq hlf hsep ih =>
      rw [readLine, if_neg hc, if_neg hq, if_neg hlf, if_neg hsep, List.append_assoc]
      exact ih

/-- The rows of a file depend on what stood in `m_line` by their first row only. -/
theorem readLines_rows (pr : CsvParams) (nLineOffset : Int) (line stream : List Char) :
    (readLines pr nLineOffset line [] stream).1 =
      let l := readLine pr [] [] false stream
      if l.rc = true then
        if nLineOffset ≤ 0 then
          columns (line ++ l.line) 0 (l.delimPos.map (line.length + ·)) ::
            (readLines pr nLineOffset [] [] l.rest).1
        else (readLines pr (nLineOffset - 1) [] [] l.rest).1
      else [] := by
  have hline : readLine pr line [] false stream = (readLine pr [] [] false stream).behind line := by
    have h := readLine_behind pr line [] [] false stream
    rwa [List.append_nil] at h
  have hrc : ((readLine pr [] [] false stream).behind line).rc =
      (readLine pr [] [] false stream).rc := rfl
  rw [readLines, hline]
  simp only [hrc]
  split_ifs <;> rfl

namespace CsvImportCtrl

/-- A file with commas and quotes, from its first line. -/
def commas : CsvParams := ⟨',', true, '"', 0⟩

end CsvImportCtrl
end Cmon
