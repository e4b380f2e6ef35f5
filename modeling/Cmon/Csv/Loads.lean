import Cmon.Csv.Reading

/-!
# CSV — one load after another

The control keeps `m_line` from one load to the next.  What is in it, and what is shown, is told by
the files of the history.

* `leftText`: a file in which a record ends leaves what stands behind its last line end, another
  file leaves what was there with its text behind it.
* `rowsBehind`: the rows of a file, with what was left in front of its first cell.
* `after_eq`: after a history the control has what `Kept.load` makes of its files, one by one.
* `rows_iff`: when two histories of loads show the same rows for a file.
-/

namespace Cmon
open Library

/-! ### What a file leaves -/

/-- The records of a file, as the stream gives it. -/
def fileTokens (pr : CsvParams) (file : List Char) : List CsvToken :=
  csvTokens pr false (delivered file)

/-- The text that a file leaves, read with `line` left from before. -/
def leftText (pr : CsvParams) (line file : List Char) : List Char :=
  (if endedRecords (fileTokens pr file) = [] then line else []) ++
    lineOf pr (unended (fileTokens pr file))

/-- A row with a text in front of its first cell. -/
def putInFront (line : List Char) (row : List String) : List String :=
  row.modifyHead (String.ofList line ++ ·)

/-- The rows of a file, read with `line` left from before. -/
def rowsBehind (pr : CsvParams) (line file : List Char) : List (List String) :=
  ((((endedRecords (fileTokens pr file)).map cells).modifyHead (putInFront line)).drop
    pr.nLineOffset.toNat).map trimLast

/-- What the files of a history come to: the rows that are shown, and the text that is left. -/
structure Kept where
  rows : List (List String)
  line : List Char
  deriving DecidableEq, Repr

/-- A file that cannot be opened changes nothing. -/
def Kept.load (k : Kept) : CsvImportCtrl.Load → Kept
  | (none, _) => k
  | (some file, pr) => ⟨rowsBehind pr k.line file, leftText pr k.line file⟩

/-- Nothing is shown at the beginning, and nothing is left. -/
def keptAfter (history : List CsvImportCtrl.Load) : Kept := history.foldl Kept.load ⟨[], []⟩

/-! ### What is read behind it -/

section
variable {pr : CsvParams} {record : List CsvToken}

theorem unended_append (h : .lineEnd ∉ record) (ts : List CsvToken) :
    unended (record ++ .lineEnd :: ts) = unended ts := by
  rw [unended, List.splitOn_append_cons_self_of_not_mem h, List.getLastD_cons]
  rw [unended, List.getLastD_eq_getLast?, List.getLastD_eq_getLast?,
    List.getLast?_eq_some_getLast (List.splitOn_ne_nil _ _)]
  rfl

theorem unended_single (h : .lineEnd ∉ record) : unended record = record := by
  rw [unended, List.splitOn_eq_singleton h]
  rfl

/-- **What the loop leaves in `m_line`.** -/
theorem readLines_left (pr : CsvParams) (nLineOffset : Int) (line stream : List Char) :
    (readLines pr nLineOffset line [] stream).2.1 = leftText pr line stream := by
  induction hn : stream.length using Nat.strongRecOn generalizing nLineOffset line stream with
  | _ n ih =>
      obtain ⟨record, hend, hline, -, hts⟩ := readLine_tokens pr line [] false stream
      rw [readLines, leftText, fileTokens]
      by_cases hrc : (readLine pr line [] false stream).rc = true
      · have hrest := fun k : Int => ih _ (hn ▸ readLine_rest hrc) k [] _ rfl
        rw [if_pos hrc] at hts
        rw [if_pos hrc, hts, endedRecords_append hend, unended_append hend,
          if_neg (List.cons_ne_nil _ _)]
        have hleft : leftText pr [] (readLine pr line [] false stream).rest =
            [] ++ lineOf pr (unended (fileTokens pr (readLine pr line [] false stream).rest)) := by
          rw [leftText, ite_self]
        split
        · exact (hrest _).trans hleft
        · exact (hrest _).trans hleft
      · rw [if_neg hrc, List.append_nil] at hts
        rw [if_neg hrc, hts, endedRecords_single hend, unended_single hend, if_pos rfl]
        exact hline

/-- **The rows that the loop adds**: what was left stands in front of the first cell. -/
theorem readLines_behind (pr : CsvParams) (line stream : List Char) :
    (readLines pr pr.nLineOffset line [] stream).1 = rowsBehind pr line stream := by
  obtain ⟨record, hend, hline, hdelim, hts⟩ := readLine_tokens pr line [] false stream
  rw [readLines, rowsBehind, fileTokens]
  by_cases hrc : (readLine pr line [] false stream).rc = true
  · rw [if_pos hrc] at hts
    rw [if_pos hrc, hts, endedRecords_append hend, List.map_cons, List.modifyHead_cons]
    by_cases hoff : pr.nLineOffset ≤ 0
    · have hzero : pr.nLineOffset.toNat = 0 := Int.toNat_of_nonpos hoff
      have hfirst := columns_tokens pr [] line record
      rw [List.nil_append] at hfirst
      rw [if_pos hoff, hzero, List.drop_zero, List.map_cons, List.map_map]
      show columns _ 0 _ :: (readLines pr pr.nLineOffset [] [] _).1 = _
      rw [readLines_tokens, hzero, List.drop_zero, hline, hdelim, List.nil_append]
      exact congrArg (· :: _) hfirst
    · rw [if_neg hoff, readLines_tokens,
        show pr.nLineOffset.toNat = (pr.nLineOffset - 1).toNat + 1 by omega, List.drop_succ_cons,
        ← List.map_drop, List.map_map]
      rfl
  · rw [if_neg hrc, List.append_nil] at hts
    rw [if_neg hrc, hts, endedRecords_single hend, List.map_nil, List.modifyHead_nil, List.drop_nil]
    rfl

end

/-! ### Two histories -/

/-- What stands in front of the first cell of a row can be told from what is shown of it. -/
theorem trimLast_putInFront {row : List String} (hrow : row ≠ []) {line line' : List Char}
    (h : trimLast (putInFront line row) = trimLast (putInFront line' row)) : line = line' := by
  cases row with
  | nil => exact absurd rfl hrow
  | cons t row =>
      have hhead : String.ofList line ++ t = String.ofList line' ++ t := by
        rw [putInFront, putInFront, List.modifyHead_cons, List.modifyHead_cons] at h
        cases row with
        | nil =>
            -- an empty cell is not shown
            have hall : ∀ s : String, (trimLast [s]).headD "" = s := by
              intro s
              rw [trimLast]
              split
              · next hs => exact (Option.some.inj hs).symm
              · rfl
            rw [← hall (String.ofList line ++ t), h, hall]
        | cons u row =>
            rw [trimLast_cons (List.cons_ne_nil _ _), trimLast_cons (List.cons_ne_nil _ _)] at h
            exact (List.cons.inj h).1
      have hlist := congrArg String.toList hhead
      rw [String.toList_append, String.toList_append, String.toList_ofList,
        String.toList_ofList] at hlist
      exact List.append_cancel_right hlist

/-- What was left matters for a file whose first record is shown, and for no other. -/
theorem rowsBehind_eq_iff (pr : CsvParams) (line line' file : List Char) :
    rowsBehind pr line file = rowsBehind pr line' file ↔
      line = line' ∨ 0 < pr.nLineOffset ∨ endedRecords (fileTokens pr file) = [] := by
  rw [rowsBehind, rowsBehind]
  cases hrecords : endedRecords (fileTokens pr file) with
  | nil => exact iff_of_true rfl (.inr (.inr rfl))
  | cons record records =>
      rw [List.map_cons, List.modifyHead_cons, List.modifyHead_cons]
      by_cases hoff : 0 < pr.nLineOffset
      · rw [show pr.nLineOffset.toNat = (pr.nLineOffset - 1).toNat + 1 by omega,
          List.drop_succ_cons, List.drop_succ_cons]
        exact iff_of_true rfl (.inr (.inl hoff))
      · have hzero : pr.nLineOffset.toNat = 0 := by omega
        rw [hzero, List.drop_zero, List.drop_zero, List.map_cons, List.map_cons]
        constructor
        · intro h
          exact .inl (trimLast_putInFront (cells_ne_nil record) (List.cons.inj h).1)
        · rintro (rfl | h | h)
          · rfl
          · exact absurd h hoff
          · cases h

namespace CsvImportCtrl

/-- A load, by what it shows and leaves. -/
theorem doOpenFile_eq (s : CsvImportCtrl) (l : Load) :
    (⟨(s.doOpenFile l).lines, (s.doOpenFile l).line⟩ : Kept) = Kept.load ⟨s.lines, s.line⟩ l := by
  obtain ⟨file, pr⟩ := l
  cases file with
  | none => rfl
  | some stream =>
      show (⟨(readLines pr pr.nLineOffset s.line [] stream).1,
        (readLines pr pr.nLineOffset s.line [] stream).2.1⟩ : Kept) = _
      rw [readLines_behind, readLines_left]
      rfl

/-- **The control after a history**, by the files of the history. -/
theorem after_eq (history : List Load) :
    (⟨(after history).lines, (after history).line⟩ : Kept) = keptAfter history := by
  suffices h : ∀ s : CsvImportCtrl, (⟨(run doOpenFile s history).lines,
      (run doOpenFile s history).line⟩ : Kept) = history.foldl Kept.load ⟨s.lines, s.line⟩ from
    h create
  induction history with
  | nil => exact fun s => rfl
  | cons l history ih =>
      intro s
      rw [run_cons, List.foldl_cons, ih, doOpenFile_eq]

/-- **When the rows depend on nothing but the load**: two histories show the same rows for a file if
and only if their files have left the same text, or the first record of the file is skipped, or no
record ends in it.  A file that cannot be opened leaves the rows of the last one that could. -/
theorem rows_iff (history history' : List Load) (file : Option (List Char)) (pr : CsvParams) :
    ((after history).doOpenFile (file, pr)).lines = ((after history').doOpenFile (file, pr)).lines ↔
      match file with
      | some file => (keptAfter history).line = (keptAfter history').line ∨ 0 < pr.nLineOffset ∨
          endedRecords (fileTokens pr file) = []
      | none => (keptAfter history).rows = (keptAfter history').rows := by
  have hrows : ∀ history : List Load, ((after history).doOpenFile (file, pr)).lines =
      (Kept.load (keptAfter history) (file, pr)).rows := by
    intro history
    rw [← after_eq, ← doOpenFile_eq]
  rw [hrows, hrows]
  cases file with
  | none => exact Iff.rfl
  | some file => exact rowsBehind_eq_iff pr _ _ file

/-- After a file that ends within a line, the beginning of this line is in the first cell of the
next file; and a file that cannot be opened shows the rows of the one before. -/
theorem partial_line_kept :
    ((after [(some "Alice".toList, commas)]).doOpenFile (some "Bob,12\n".toList, commas)).lines ≠
        ((after []).doOpenFile (some "Bob,12\n".toList, commas)).lines ∧
      ((after [(some "Alice".toList, commas)]).doOpenFile
        (some "Bob,12\n".toList, commas)).lines = [["AliceBob", "12"]] ∧
      ((after [(some "Bob,12\n".toList, commas)]).doOpenFile (none, commas)).lines =
        [["Bob", "12"]] ∧
      ((after []).doOpenFile (none, commas)).lines = [] := by
  decide +kernel

end CsvImportCtrl
end Cmon
