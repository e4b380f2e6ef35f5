import Mathlib.Data.List.DropRight
import Mathlib.Data.List.Forall2
import Cmon.AddressBook.Contact
import Cmon.Csv.Import

/-!
# CSV — the export, and what the import reads of it

`DoExport` of the contact page, and the file it writes read by the import with the same separator
and quote, without the header.

* A quote in a text is doubled by the export; the import leaves out every quote.
* `content`: what the import reads of a text between quotes; `none` when the reading ends in it.
* `roundtrip_iff`: the import shows the exported records if and only if each text is `Readable`.
-/

namespace Cmon

/-! ### The source -/

/-- `quoted.Replace("\"", "\"\"")`. -/
def doubleQuotes (str : List Char) : List Char :=
  str.flatMap fun c => if c = '"' then [c, c] else [c]

/-- `CSVQuote`. -/
def csvQuote (str : String) : List Char :=
  if str.toList = [] then [] else '"' :: (doubleQuotes str.toList ++ ['"'])

/-- `numTel` of `DoExport`. -/
def numTel (rEntries : List Contact) : Nat := (rEntries.map (·.phones.length)).foldl max 0

/-- `TelNumber%02d`. -/
def telName (i : Nat) : String := "TelNumber" ++ (if i < 10 then "0" else "") ++ toString i

/-- The header. -/
def exportHeader (numTel : Nat) : List Char :=
  "\"FN\",\"MN\",\"LN\",\"NN\",\"Title\",\"SN\",\"Email\",\"Organization\",\"Image\"".toList ++
    (List.range numTel).flatMap fun i => ',' :: '"' :: ((telName i).toList ++ ['"'])

/-- The line of a contact. -/
def exportLine (numTel : Nat) (c : Contact) : List Char :=
  csvQuote c.texts.fn ++ [','] ++ csvQuote c.texts.mn ++ [','] ++ csvQuote c.texts.ln ++ [','] ++
    csvQuote c.texts.nn ++ [','] ++ csvQuote c.texts.title ++ [','] ++ csvQuote c.texts.sn ++
    [','] ++ csvQuote c.texts.email ++ [','] ++ csvQuote c.texts.organization ++ [','] ++
    csvQuote c.texts.image ++
    (List.range numTel).flatMap fun j =>
      ',' :: (match c.phones[j]? with
        | some ph => csvQuote ph.number
        | none => [])

/-- `tos.WriteString`, with `wxEOL_DOS`; as documented, the line feeds and nothing else is changed. -/
def writeString (str : List Char) : List Char :=
  str.flatMap fun c => if c = '\n' then ['\r', '\n'] else [c]

/-- `DoExport`: the file. -/
def doExport (rEntries : List Contact) : List Char :=
  writeString (exportHeader (numTel rEntries) ++ ['\n']) ++
    rEntries.flatMap fun c => writeString (exportLine (numTel rEntries) c ++ ['\n'])

/-- The parameters with which an exported file is imported. -/
def exportParams : CsvParams := ⟨',', true, '"', 1⟩

/-! ### What the import should show -/

/-- The values of the cells of a contact. -/
def exportCells (numTel : Nat) (c : Contact) : List String :=
  [c.texts.fn, c.texts.mn, c.texts.ln, c.texts.nn, c.texts.title, c.texts.sn, c.texts.email,
      c.texts.organization, c.texts.image] ++
    (List.range numTel).map fun j => (c.phones[j]?.map (·.number)).getD ""

/-- A text with one line end for `\r\n`, `\r` and `\n`. -/
def unifyEnds : List Char → List Char
  | [] => []
  | c :: t =>
      if c = '\r' then if t.head? = some '\n' then unifyEnds t else '\n' :: unifyEnds t
      else c :: unifyEnds t

/-- The cells without the empty ones at the end, up to the representation of line ends. -/
def cellValues (cells : List String) : List (List Char) :=
  (cells.map fun s => unifyEnds s.toList).rdropWhile fun s => s = []

/-- The rows are the records. -/
def SameRecords (rows : List (List String)) (records : List (List String)) : Prop :=
  rows.Forall₂ (fun row record => cellValues row = cellValues record) records

/-- A text that is read as it was written: it has no quote, no character that ends the reading, and
no carriage return in front of a line feed, which becomes two line ends. -/
structure Readable (t : List Char) : Prop where
  quote : '"' ∉ t
  nul : '\x00' ∉ t
  eot : wxEOT ∉ t
  crlf : ¬ ['\r', '\n'] <:+: t

/-! ### What is read of a text -/

/-- What the import reads of a text between quotes. -/
def content : List Char → Option (List Char)
  | [] => some []
  | c :: t =>
      if c = '"' then content t
      else if c = '\x00' ∨ c = wxEOT then none
      else if c = '\r' then
        match t with
        | [] => some ['\n']
        | c2 :: t' =>
            -- `EatEOL` takes a `wxEOT` behind a carriage return for the end of the stream
            if c2 = wxEOT then (content t').map ('\n' :: ·)
            else (content (c2 :: t')).map ('\n' :: ·)
      else (content t).map (c :: ·)

/-- What follows a carriage return stays in the stream. -/
theorem getChar_cr {s : List Char} (h : ∀ c2, s.head? = some c2 → c2 ≠ wxEOT ∧ c2 ≠ '\n') :
    getCharWithSingleNewline ('\r' :: s) = ('\n', s) := by
  cases s with
  | nil => rfl
  | cons c2 rest =>
      obtain ⟨heot, hlf⟩ := h c2 rfl
      simp [getCharWithSingleNewline, wxEOT, hlf]
      exact heot

/-- Any other character. -/
theorem getChar_plain {c : Char} (heot : c ≠ wxEOT) (hlf : c ≠ '\n') (hcr : c ≠ '\r')
    (s : List Char) : getCharWithSingleNewline (c :: s) = (c, s) := by
  cases s <;> simp [getCharWithSingleNewline, heot, hlf, hcr]

theorem getChar_crlf (s : List Char) : getCharWithSingleNewline ('\r' :: '\n' :: s) = ('\n', s) :=
  rfl

theorem getChar_crEot (s : List Char) :
    getCharWithSingleNewline ('\r' :: wxEOT :: s) = ('\n', s) := rfl

/-- The text between quotes, as it stands in the file. -/
def inFile (t : List Char) : List Char := writeString (doubleQuotes t)

@[simp] theorem inFile_nil : inFile [] = [] := rfl

theorem inFile_quote (t : List Char) : inFile ('"' :: t) = '"' :: '"' :: inFile t := rfl

theorem inFile_lf (t : List Char) : inFile ('\n' :: t) = '\r' :: '\n' :: inFile t := rfl

theorem inFile_cons {c : Char} (hq : c ≠ '"') (hlf : c ≠ '\n') (t : List Char) :
    inFile (c :: t) = c :: inFile t := by
  simp [inFile, doubleQuotes, writeString, hq, hlf]

/-- No line feed stands at the front of a text in the file. -/
theorem head_inFile {t rest : List Char} {c2 : Char}
    (h : (inFile t ++ '"' :: rest).head? = some c2) :
    c2 ≠ '\n' ∧ (c2 = wxEOT → t.head? = some c2) := by
  cases t with
  | nil =>
      obtain rfl : '"' = c2 := Option.some.inj h
      exact ⟨by decide, fun he => absurd he (by decide)⟩
  | cons c t =>
      by_cases hq : c = '"'
      · subst hq
        obtain rfl : '"' = c2 := Option.some.inj h
        exact ⟨by decide, fun he => absurd he (by decide)⟩
      · by_cases hlf : c = '\n'
        · subst hlf
          obtain rfl : '\r' = c2 := Option.some.inj h
          exact ⟨by decide, fun he => absurd he (by decide)⟩
        · rw [inFile_cons hq hlf] at h
          obtain rfl : c = c2 := Option.some.inj h
          exact ⟨hlf, fun _ => rfl⟩

theorem getChar_crText {t : List Char} (h : t.head? ≠ some wxEOT) (rest : List Char) :
    getCharWithSingleNewline ('\r' :: (inFile t ++ '"' :: rest)) =
      ('\n', inFile t ++ '"' :: rest) := by
  refine getChar_cr fun c2 hhead => ?_
  obtain ⟨hlf, heot⟩ := head_inFile hhead
  exact ⟨fun he => h (he ▸ heot he), hlf⟩

/-! ### The steps of `readLine` -/

variable {line : List Char} {delimPos : List Nat} {bInString : Bool} {rest : List Char}

theorem readLine_quote :
    readLine exportParams line delimPos bInString ('"' :: rest) =
      readLine exportParams line delimPos (!bInString) rest := by
  rw [readLine, getChar_plain (by decide) (by decide) (by decide)]
  rfl

/-- A line end between quotes. -/
theorem readLine_newline {stream : List Char} (h : getCharWithSingleNewline stream = ('\n', rest)) :
    readLine exportParams line delimPos true stream =
      readLine exportParams (line ++ ['\n']) delimPos true rest := by
  rw [readLine, h]
  rfl

/-- A line end behind the cells. -/
theorem readLine_end :
    readLine exportParams line delimPos false ('\r' :: '\n' :: rest) =
      ⟨true, line, delimPos, rest⟩ := by
  rw [readLine, getChar_crlf]
  rfl

/-- A separator between two cells. -/
theorem readLine_separator :
    readLine exportParams line delimPos false (',' :: rest) =
      readLine exportParams (line ++ [',']) (delimPos ++ [line.length]) false rest := by
  rw [readLine, getChar_plain (by decide) (by decide) (by decide)]
  rfl

/-- Any other character between quotes. -/
theorem readLine_char {c : Char} (hq : c ≠ '"') (hnul : c ≠ '\x00') (heot : c ≠ wxEOT)
    (hlf : c ≠ '\n') (hcr : c ≠ '\r') :
    readLine exportParams line delimPos true (c :: rest) =
      readLine exportParams (line ++ [c]) delimPos true rest := by
  rw [readLine, getChar_plain heot hlf hcr]
  dsimp only
  rw [if_neg hnul, if_neg (fun h => hq h.2), if_neg hlf, if_neg (fun h => h.2 ⟨rfl, rfl⟩)]

/-- A character that ends the reading. -/
theorem readLine_stop {c : Char} (h : c = '\x00' ∨ c = wxEOT) :
    (readLine exportParams line delimPos bInString (c :: rest)).rc = false := by
  have hchar : (getCharWithSingleNewline (c :: rest)).1 = '\x00' := by
    rcases h with rfl | rfl
    · rw [getChar_plain (by decide) (by decide) (by decide)]
    · cases rest <;> rfl
  rw [readLine, if_pos hchar]

/-! ### Cells -/

/-- A stream is read, between quotes, as the text `o` in front of a quote; without one the reading
ends. -/
def ReadAs (line : List Char) (delimPos : List Nat) (rest stream : List Char) :
    Option (List Char) → Prop
  | none => (readLine exportParams line delimPos true stream).rc = false
  | some x => readLine exportParams line delimPos true stream =
      readLine exportParams (line ++ x) delimPos true ('"' :: rest)

/-- A character in front. -/
theorem ReadAs.cons {stream stream' : List Char} {c : Char} {o : Option (List Char)}
    (h : readLine exportParams line delimPos true stream =
      readLine exportParams (line ++ [c]) delimPos true stream')
    (h' : ReadAs (line ++ [c]) delimPos rest stream' o) :
    ReadAs line delimPos rest stream (o.map (c :: ·)) := by
  cases o with
  | none => exact (congrArg CsvLine.rc h).trans h'
  | some x => exact h.trans (h'.trans (by rw [List.append_assoc]; rfl))

/-- A text between quotes is read as its content. -/
theorem readAs_content (delimPos : List Nat) (rest line t : List Char) :
    ReadAs line delimPos rest (inFile t ++ '"' :: rest) (content t) := by
  fun_induction content t generalizing line with
  | case1 =>
      show readLine _ line _ _ _ = readLine _ (line ++ []) _ _ _
      rw [List.append_nil, inFile_nil, List.nil_append]
  | case2 t ih =>
      have hskip : readLine exportParams line delimPos true (inFile ('"' :: t) ++ '"' :: rest) =
          readLine exportParams line delimPos true (inFile t ++ '"' :: rest) := by
        rw [inFile_quote, List.cons_append, List.cons_append, readLine_quote, readLine_quote]
        rfl
      have hread := ih line
      cases hc : content t with
      | none =>
          rw [hc] at hread
          exact (congrArg CsvLine.rc hskip).trans hread
      | some x =>
          rw [hc] at hread
          exact hskip.trans hread
  | case3 c t hq hstop =>
      have hlf : c ≠ '\n' := by rintro rfl; exact absurd hstop (by decide)
      rw [inFile_cons hq hlf]
      exact readLine_stop hstop
  | case4 => exact readLine_newline (getChar_crText (t := []) (nomatch ·) rest)
  | case5 t _ _ ih =>
      rw [inFile_cons (by decide) (by decide), inFile_cons (by decide) (by decide)]
      exact .cons (readLine_newline (getChar_crEot _)) (ih _)
  | case6 c2 t heot _ _ ih =>
      have hhead : (c2 :: t).head? ≠ some wxEOT := fun he => heot (Option.some.inj he)
      rw [inFile_cons (by decide) (by decide)]
      exact .cons (readLine_newline (getChar_crText hhead _)) (ih _)
  | case7 c t hq hstop hcr ih =>
      obtain ⟨hnul, heot⟩ := not_or.mp hstop
      by_cases hlf : c = '\n'
      · subst hlf
        rw [inFile_lf]
        exact .cons (readLine_newline (getChar_crlf _)) (ih _)
      · rw [inFile_cons hq hlf]
        exact .cons (readLine_char hq hnul heot hlf hcr) (ih _)

/-! ### Records -/

/-- The cells of a line, each behind a separator. -/
def cellsText (ts : List String) : List Char := ts.flatMap fun t => ',' :: csvQuote t

theorem cellsText_append (ts us : List String) :
    cellsText (ts ++ us) = cellsText ts ++ cellsText us := List.flatMap_append

/-- Where the separators stand, when the first is at `n` and the cells are `xs`. -/
def positions (n : Nat) : List (List Char) → List Nat
  | [] => []
  | x :: xs => n :: positions (n + 1 + x.length) xs

/-- Each text is read as its content. -/
abbrev Contents (ts : List String) (xs : List (List Char)) : Prop :=
  ts.Forall₂ (fun t x => content t.toList = some x) xs

theorem contents_or_stop (ts : List String) :
    (∃ xs, Contents ts xs) ∨ ∃ t ∈ ts, content t.toList = none := by
  induction ts with
  | nil => exact .inl ⟨[], .nil⟩
  | cons t ts ih =>
      cases hc : content t.toList with
      | none => exact .inr ⟨t, .head _, hc⟩
      | some x =>
          rcases ih with ⟨xs, hxs⟩ | ⟨t', ht', h⟩
          · exact .inl ⟨x :: xs, .cons hc hxs⟩
          · exact .inr ⟨t', .tail _ ht', h⟩

theorem writeString_append (s t : List Char) :
    writeString (s ++ t) = writeString s ++ writeString t := List.flatMap_append

/-- The quotes around a text. -/
theorem writeString_csvQuote {t : String} (h : t.toList ≠ []) :
    writeString (csvQuote t) = '"' :: (inFile t.toList ++ ['"']) := by
  rw [csvQuote, if_neg h, ← List.singleton_append, writeString_append, writeString_append]
  rfl

/-- A cell is read from its first quote on. -/
theorem readAs_csvQuote {t : String} (ht : t.toList ≠ []) :
    ∃ stream, readLine exportParams line delimPos false (writeString (csvQuote t) ++ rest) =
        readLine exportParams line delimPos true stream ∧
      ReadAs line delimPos rest stream (content t.toList) := by
  refine ⟨_, ?_, readAs_content delimPos rest line t.toList⟩
  rw [writeString_csvQuote ht, List.cons_append, readLine_quote, List.append_assoc]
  rfl

theorem readLine_cell {t : String} {x : List Char} (h : content t.toList = some x) :
    readLine exportParams line delimPos false (writeString (csvQuote t) ++ rest) =
      readLine exportParams (line ++ x) delimPos false rest := by
  by_cases ht : t.toList = []
  · rw [ht] at h
    obtain rfl : [] = x := Option.some.inj h
    rw [csvQuote, if_pos ht, List.append_nil]
    rfl
  · obtain ⟨stream, hline, hread⟩ := readAs_csvQuote ht
    rw [h] at hread
    rw [hline, hread]
    exact readLine_quote

theorem readLine_cellStop {t : String} (h : content t.toList = none) :
    (readLine exportParams line delimPos false (writeString (csvQuote t) ++ rest)).rc = false := by
  have ht : t.toList ≠ [] := fun ht => by rw [ht] at h; cases h
  obtain ⟨stream, hline, hread⟩ := readAs_csvQuote ht
  rw [h] at hread
  rw [hline]
  exact hread

theorem writeString_cellsText (t : String) (ts : List String) (rest : List Char) :
    writeString (cellsText (t :: ts)) ++ rest =
      ',' :: (writeString (csvQuote t) ++ (writeString (cellsText ts) ++ rest)) := by
  rw [← List.append_assoc, ← writeString_append]
  rfl

theorem readLine_cells {ts : List String} {xs : List (List Char)} (h : Contents ts xs)
    (line : List Char) (delimPos : List Nat) :
    readLine exportParams line delimPos false (writeString (cellsText ts) ++ rest) =
      readLine exportParams (line ++ xs.flatMap (',' :: ·)) (delimPos ++ positions line.length xs)
        false rest := by
  induction h generalizing line delimPos with
  | nil => simp [cellsText, writeString, positions]
  | @cons t x ts xs hx _ ih =>
      rw [writeString_cellsText, readLine_separator, readLine_cell hx, ih]
      simp [positions, Nat.add_assoc, Nat.add_comm 1]

theorem readLine_cellsStop {ts : List String} (h : ∃ t ∈ ts, content t.toList = none)
    (line : List Char) (delimPos : List Nat) :
    (readLine exportParams line delimPos false
      (writeString (cellsText ts) ++ rest)).rc = false := by
  induction ts generalizing line delimPos with
  | nil =>
      obtain ⟨t, ht, -⟩ := h
      cases ht
  | cons t ts ih =>
      rw [writeString_cellsText, readLine_separator]
      cases hc : content t.toList with
      | none => exact readLine_cellStop hc
      | some x =>
          rw [readLine_cell hc]
          obtain ⟨t', ht', hnone⟩ := h
          rcases List.mem_cons.mp ht' with rfl | ht'
          · cases hc.symm.trans hnone
          · exact ih ⟨t', ht', hnone⟩ _ _

/-- A line of the file: its first cell, the others and the line end. -/
def recordText (r : String × List String) : List Char :=
  writeString (csvQuote r.1 ++ cellsText r.2 ++ ['\n'])

theorem recordText_append (r : String × List String) (rest : List Char) :
    recordText r ++ rest = writeString (csvQuote r.1) ++
      (writeString (cellsText r.2) ++ ('\r' :: '\n' :: rest)) := by
  rw [recordText, writeString_append, writeString_append, List.append_assoc, List.append_assoc]
  rfl

theorem readLine_record {r : String × List String} {x : List Char} {xs : List (List Char)}
    (hx : content r.1.toList = some x) (hxs : Contents r.2 xs) :
    readLine exportParams [] [] false (recordText r ++ rest) =
      ⟨true, x ++ xs.flatMap (',' :: ·), positions x.length xs, rest⟩ := by
  rw [recordText_append, readLine_cell hx, readLine_cells hxs, readLine_end]
  rfl

theorem readLine_recordStop {r : String × List String} (rest : List Char)
    (h : ∃ t ∈ r.1 :: r.2, content t.toList = none) :
    (readLine exportParams [] [] false (recordText r ++ rest)).rc = false := by
  rw [recordText_append]
  cases hc : content r.1.toList with
  | none => exact readLine_cellStop hc
  | some x =>
      rw [readLine_cell hc]
      obtain ⟨t, ht, hnone⟩ := h
      rcases List.mem_cons.mp ht with rfl | ht
      · cases hc.symm.trans hnone
      · exact readLine_cellsStop ⟨t, ht, hnone⟩ _ _

/-! ### Columns -/

/-- The columns of a line with the cells `x` and `xs`: the last is shown when it is not empty. -/
def shown (x : List Char) : List (List Char) → List (List Char)
  | [] => if x = [] then [] else [x]
  | y :: ys => x :: shown y ys

theorem columns_positions (pre x : List Char) (xs : List (List Char)) :
    columns (pre ++ x ++ xs.flatMap (',' :: ·)) pre.length (positions (pre.length + x.length) xs) =
      (shown x xs).map String.ofList := by
  induction xs generalizing pre x with
  | nil =>
      have hmid : mid (pre ++ x) pre.length (pre ++ x).length = String.ofList x := by
        rw [mid, List.drop_left, List.take_of_length_le (by simp)]
      rw [List.flatMap_nil, List.append_nil, positions, columns, hmid, shown]
      cases x <;> simp
  | cons y ys ih =>
      have hnext := ih (pre ++ x ++ [',']) y
      have hmid : mid (pre ++ x ++ (y :: ys).flatMap (',' :: ·)) pre.length
          (pre.length + x.length - pre.length) = String.ofList x := by
        rw [mid, Nat.add_sub_cancel_left, List.append_assoc, List.drop_left, List.take_left]
      have hline : pre ++ x ++ [','] ++ y ++ ys.flatMap (',' :: ·) =
          pre ++ x ++ (y :: ys).flatMap (',' :: ·) := by simp
      rw [hline, List.length_append, List.length_append, List.length_singleton] at hnext
      rw [positions, columns, hmid, hnext]
      rfl

/-- Cells of the same number are the same when they are so without the empty ones at the end. -/
theorem eq_of_rdropWhile_eq {xs ys : List (List Char)} (hlen : xs.length = ys.length)
    (h : xs.rdropWhile (· = []) = ys.rdropWhile (· = [])) : xs = ys := by
  have hend : ∀ l : List (List Char), l.rtakeWhile (· = []) =
      List.replicate (l.length - (l.rdropWhile (· = [])).length) [] := by
    intro l
    refine List.eq_replicate_iff.mpr ⟨?_, fun x hx => by simpa using List.mem_rtakeWhile_imp hx⟩
    have hsplit := congrArg List.length (List.rdropWhile_append_rtakeWhile (p := (· = [])) (l := l))
    rw [List.length_append] at hsplit
    omega
  rw [← List.rdropWhile_append_rtakeWhile (p := (· = [])) (l := xs),
    ← List.rdropWhile_append_rtakeWhile (p := (· = [])) (l := ys), hend, hend, h, hlen]

/-- The columns are the cells, or all but a last one that is empty. -/
theorem shown_or (x : List Char) (xs : List (List Char)) :
    x :: xs = shown x xs ∨ x :: xs = shown x xs ++ [[]] := by
  induction xs generalizing x with
  | nil =>
      rw [shown]
      split_ifs with hx
      · exact .inr (by rw [hx, List.nil_append])
      · exact .inl rfl
  | cons y ys ih =>
      rcases ih y with h | h
      · exact .inl (congrArg (x :: ·) h)
      · exact .inr (congrArg (x :: ·) h)

theorem rdropWhile_shown (x : List Char) (xs : List (List Char)) :
    (shown x xs).rdropWhile (· = []) = (x :: xs).rdropWhile (· = []) := by
  rcases shown_or x xs with h | h
  · rw [h]
  · rw [h, List.rdropWhile_concat_pos _ _ _ (by simp)]

/-! ### Texts that are read as they were written -/

theorem unifyEnds_of_not_mem {x : List Char} (h : '\r' ∉ x) : unifyEnds x = x := by
  induction x with
  | nil => rfl
  | cons c x ih =>
      obtain ⟨hc, hx⟩ := List.ne_and_not_mem_of_not_mem_cons h
      rw [unifyEnds, if_neg (Ne.symm hc), ih hx]

/-- A content has none of the characters that are not read as they are. -/
theorem content_not_mem {t x : List Char} (h : content t = some x) :
    '"' ∉ x ∧ '\x00' ∉ x ∧ wxEOT ∉ x ∧ '\r' ∉ x := by
  have hcons : ∀ {c : Char} {y : List Char}, c ≠ '"' → c ≠ '\x00' → c ≠ wxEOT → c ≠ '\r' →
      ('"' ∉ y ∧ '\x00' ∉ y ∧ wxEOT ∉ y ∧ '\r' ∉ y) →
        '"' ∉ c :: y ∧ '\x00' ∉ c :: y ∧ wxEOT ∉ c :: y ∧ '\r' ∉ c :: y := by
    intro c y hq hnul heot hcr h
    simp only [List.mem_cons, not_or]
    exact ⟨⟨hq.symm, h.1⟩, ⟨hnul.symm, h.2.1⟩, ⟨heot.symm, h.2.2.1⟩, ⟨hcr.symm, h.2.2.2⟩⟩
  fun_induction content t generalizing x with
  | case1 =>
      obtain rfl : [] = x := Option.some.inj h
      simp
  | case2 t ih => exact ih h
  | case3 => cases h
  | case4 =>
      obtain rfl : ['\n'] = x := Option.some.inj h
      decide
  | case5 t _ _ ih =>
      obtain ⟨y, hy, rfl⟩ := Option.map_eq_some_iff.mp h
      exact hcons (by decide) (by decide) (by decide) (by decide) (ih hy)
  | case6 c2 t heot _ _ ih =>
      obtain ⟨y, hy, rfl⟩ := Option.map_eq_some_iff.mp h
      exact hcons (by decide) (by decide) (by decide) (by decide) (ih hy)
  | case7 c t hq hstop hcr ih =>
      obtain ⟨y, hy, rfl⟩ := Option.map_eq_some_iff.mp h
      obtain ⟨hnul, heot⟩ := not_or.mp hstop
      exact hcons hq hnul heot hcr (ih hy)

theorem mem_unifyEnds {c : Char} {t : List Char} (hc : c ≠ '\r') (h : c ∈ t) : c ∈ unifyEnds t := by
  induction t with
  | nil => cases h
  | cons d t ih =>
      rw [unifyEnds]
      rcases List.mem_cons.mp h with rfl | h
      · rw [if_neg hc]
        exact .head _
      · split_ifs
        · exact ih h
        · exact .tail _ (ih h)
        · exact .tail _ (ih h)

/-- Two characters become one line end. -/
theorem length_unifyEnds (t : List Char) :
    (unifyEnds t).length ≤ t.length ∧
      (['\r', '\n'] <:+: t → (unifyEnds t).length < t.length) := by
  induction t with
  | nil => exact ⟨Nat.le_refl _, fun h => by cases List.infix_nil.mp h⟩
  | cons c t ih =>
      obtain ⟨hle, hlt⟩ := ih
      have hstep : (unifyEnds (c :: t)).length ≤ (unifyEnds t).length + 1 := by
        rw [unifyEnds]
        split_ifs
        · exact Nat.le_succ _
        · exact Nat.le_refl _
        · exact Nat.le_refl _
      refine ⟨hstep.trans (Nat.succ_le_succ hle), fun h => ?_⟩
      rcases List.infix_cons_iff.mp h with h | h
      · obtain ⟨rfl, hpre⟩ := List.cons_prefix_cons.mp h
        have hhead : t.head? = some '\n' := by
          obtain ⟨s, rfl⟩ := hpre
          rfl
        rw [unifyEnds, if_pos rfl, if_pos hhead]
        exact Nat.lt_succ_of_le hle
      · exact Nat.lt_of_le_of_lt hstep (Nat.succ_lt_succ (hlt h))

/-- Without quotes, and characters that end the reading, each character is read. -/
theorem length_content {t x : List Char} (h : content t = some x) (hq : '"' ∉ t)
    (heot : wxEOT ∉ t) : x.length = t.length := by
  fun_induction content t generalizing x with
  | case1 =>
      obtain rfl : [] = x := Option.some.inj h
      rfl
  | case2 => exact absurd (.head _) hq
  | case3 => cases h
  | case4 =>
      obtain rfl : ['\n'] = x := Option.some.inj h
      rfl
  | case5 => exact absurd (.tail _ (.head _)) heot
  | case6 c2 t _ _ _ ih =>
      obtain ⟨y, hy, rfl⟩ := Option.map_eq_some_iff.mp h
      exact congrArg (· + 1) (ih hy (fun h => hq (.tail _ h)) fun h => heot (.tail _ h))
  | case7 c t _ _ _ ih =>
      obtain ⟨y, hy, rfl⟩ := Option.map_eq_some_iff.mp h
      exact congrArg (· + 1) (ih hy (fun h => hq (.tail _ h)) fun h => heot (.tail _ h))

theorem Readable.tail {c : Char} {t : List Char} (h : Readable (c :: t)) : Readable t :=
  ⟨fun hm => h.quote (.tail _ hm), fun hm => h.nul (.tail _ hm), fun hm => h.eot (.tail _ hm),
    fun hm => h.crlf (List.infix_cons_iff.mpr (.inr hm))⟩

theorem Readable.content_eq {t : List Char} (h : Readable t) : content t = some (unifyEnds t) := by
  induction t with
  | nil => rfl
  | cons c t ih =>
      have hq : c ≠ '"' := by rintro rfl; exact h.quote (.head _)
      have hstop : ¬(c = '\x00' ∨ c = wxEOT) := by
        rintro (rfl | rfl)
        · exact h.nul (.head _)
        · exact h.eot (.head _)
      by_cases hcr : c = '\r'
      · subst hcr
        have hlf : t.head? ≠ some '\n' := by
          intro hhead
          obtain ⟨s, rfl⟩ := List.head?_eq_some_iff.mp hhead
          exact h.crlf ⟨[], s, rfl⟩
        rw [unifyEnds, if_pos rfl, if_neg hlf]
        cases t with
        | nil => rfl
        | cons c2 t =>
            have heot : c2 ≠ wxEOT := by rintro rfl; exact h.eot (.tail _ (.head _))
            rw [content, if_neg hq, if_neg hstop, if_pos rfl, if_neg heot, ih h.tail]
            rfl
      · have hcontent : content (c :: t) = (content t).map (c :: ·) := by
          cases t <;> simp [content, hq, hstop, hcr]
        rw [hcontent, ih h.tail, unifyEnds, if_neg hcr]
        rfl

/-- **A text is read as it was written when it is readable, and only then.** -/
theorem content_eq_iff (t : List Char) : content t = some (unifyEnds t) ↔ Readable t := by
  refine ⟨fun h => ?_, Readable.content_eq⟩
  obtain ⟨hq, hnul, heot, -⟩ := content_not_mem h
  have hquote : '"' ∉ t := fun hm => hq (mem_unifyEnds (by decide) hm)
  have hend : wxEOT ∉ t := fun hm => heot (mem_unifyEnds (by decide) hm)
  refine ⟨hquote, fun hm => hnul (mem_unifyEnds (by decide) hm), hend, fun hcrlf => ?_⟩
  exact absurd (length_content h hquote hend) (Nat.ne_of_lt ((length_unifyEnds t).2 hcrlf))

/-! ### The file -/

/-- The cells of a contact, the first one apart. -/
def exportRecord (numTel : Nat) (c : Contact) : String × List String :=
  (c.texts.fn, (exportCells numTel c).tail)

theorem exportLine_eq (numTel : Nat) (c : Contact) :
    writeString (exportLine numTel c ++ ['\n']) = recordText (exportRecord numTel c) := by
  have htel : (List.range numTel).flatMap (fun j => ',' :: (match c.phones[j]? with
      | some ph => csvQuote ph.number
      | none => [])) = cellsText ((List.range numTel).map fun j =>
        (c.phones[j]?.map (·.number)).getD "") := by
    rw [cellsText, List.flatMap_map]
    refine List.flatMap_congr fun j _ => ?_
    cases c.phones[j]? <;> rfl
  have hline : exportLine numTel c = csvQuote c.texts.fn ++
      (cellsText [c.texts.mn, c.texts.ln, c.texts.nn, c.texts.title, c.texts.sn, c.texts.email,
          c.texts.organization, c.texts.image] ++
        cellsText ((List.range numTel).map fun j => (c.phones[j]?.map (·.number)).getD "")) := by
    unfold exportLine
    rw [htel]
    simp only [cellsText, List.flatMap_cons, List.flatMap_nil, List.append_assoc,
      List.cons_append, List.nil_append, List.append_nil]
  rw [hline, ← cellsText_append]
  rfl

/-- Letters and digits are read as they were written. -/
theorem readable_of_alphanum {t : List Char} (ht : t.all Char.isAlphanum = true) :
    Readable t := by
  have h := List.all_eq_true.mp ht
  refine ⟨fun hm => ?_, fun hm => ?_, fun hm => ?_, fun hm => ?_⟩
  · exact absurd (h _ hm) (by decide)
  · exact absurd (h _ hm) (by decide)
  · exact absurd (h _ hm) (by decide)
  · exact absurd (h '\r' (hm.subset (.head _))) (by decide)

theorem telName_alphanum (i : Nat) : (telName i).toList.all Char.isAlphanum = true := by
  refine List.all_eq_true.mpr fun c hc => ?_
  rw [telName, String.toList_append, String.toList_append, List.mem_append, List.mem_append] at hc
  rcases hc with (hc | hc) | hc
  · have htel : "TelNumber".toList.all Char.isAlphanum = true := by decide
    exact List.all_eq_true.mp htel c hc
  · split_ifs at hc
    · obtain rfl := List.mem_singleton.mp hc
      decide
    · cases hc
  · have hdigits : c ∈ Nat.toDigits 10 i := by
      rwa [Nat.toString_eq_ofList_toDigits, String.toList_ofList] at hc
    rw [Char.isAlphanum, Nat.isDigit_of_mem_toDigits (by decide) (by decide) hdigits, Bool.or_true]

/-- A text without quotes is put between quotes as it is. -/
theorem csvQuote_of_readable {t : String} (hne : t.toList ≠ []) (h : Readable t.toList) :
    csvQuote t = '"' :: (t.toList ++ ['"']) := by
  have hdouble : doubleQuotes t.toList = t.toList := by
    refine (List.flatMap_congr fun c hc => if_neg ?_).trans (List.flatMap_singleton' _)
    rintro rfl
    exact h.quote hc
  rw [csvQuote, if_neg hne, hdouble]

/-- The header, as the line of a record. -/
def headerRecord (numTel : Nat) : String × List String :=
  ("FN", ["MN", "LN", "NN", "Title", "SN", "Email", "Organization", "Image"] ++
    (List.range numTel).map telName)

theorem headerText :
    "\"FN\",\"MN\",\"LN\",\"NN\",\"Title\",\"SN\",\"Email\",\"Organization\",\"Image\"".toList =
    csvQuote "FN" ++
      cellsText ["MN", "LN", "NN", "Title", "SN", "Email", "Organization", "Image"] := by
  decide +kernel

theorem telText (numTel : Nat) :
    ((List.range numTel).flatMap fun i => ',' :: '"' :: ((telName i).toList ++ ['"'])) =
      cellsText ((List.range numTel).map telName) := by
  rw [cellsText, List.flatMap_map]
  refine List.flatMap_congr fun i _ => ?_
  have hne : (telName i).toList ≠ [] := by simp [telName]
  rw [csvQuote_of_readable hne (readable_of_alphanum (telName_alphanum i))]

theorem recordText_header (numTel : Nat) :
    recordText (headerRecord numTel) = writeString (csvQuote "FN" ++
      (cellsText ["MN", "LN", "NN", "Title", "SN", "Email", "Organization", "Image"] ++
        cellsText ((List.range numTel).map telName)) ++ ['\n']) := by
  rw [← cellsText_append]
  rfl

theorem exportHeader_eq (numTel : Nat) :
    writeString (exportHeader numTel ++ ['\n']) = recordText (headerRecord numTel) := by
  have htext : exportHeader numTel = csvQuote "FN" ++
      cellsText ["MN", "LN", "NN", "Title", "SN", "Email", "Organization", "Image"] ++
        cellsText ((List.range numTel).map telName) := by
    rw [← headerText, ← telText]
    rfl
  rw [recordText_header, htext, List.append_assoc (csvQuote "FN")]

theorem doExport_eq (rEntries : List Contact) :
    doExport rEntries = recordText (headerRecord (numTel rEntries)) ++
      (rEntries.map (exportRecord (numTel rEntries))).flatMap recordText := by
  rw [doExport, exportHeader_eq, List.flatMap_map]
  simp only [exportLine_eq]

/-! ### Reading the file -/

theorem eq_unifyEnds_iff {ts : List String} {xs : List (List Char)} (h : Contents ts xs) :
    (xs = ts.map fun t => unifyEnds t.toList) ↔ ∀ t ∈ ts, Readable t.toList := by
  induction h with
  | nil => simp
  | @cons t x ts xs hx _ ih =>
      have hfirst : x = unifyEnds t.toList ↔ Readable t.toList := by
        rw [← content_eq_iff, hx, Option.some.injEq]
      rw [List.map_cons, List.cons.injEq, List.forall_mem_cons, hfirst, ih]

/-- A content has one kind of line ends. -/
theorem unifyEnds_contents {ts : List String} {xs : List (List Char)} (h : Contents ts xs) :
    ∀ x ∈ xs, unifyEnds x = x := by
  induction h with
  | nil => exact fun x hx => by cases hx
  | cons hx _ ih =>
      exact List.forall_mem_cons.mpr ⟨unifyEnds_of_not_mem (content_not_mem hx).2.2.2, ih⟩

/-- The columns are the cells of the record when its texts are readable. -/
theorem cellValues_shown {t : String} {ts : List String} {x : List Char} {xs : List (List Char)}
    (h : Contents (t :: ts) (x :: xs)) :
    cellValues ((shown x xs).map String.ofList) = cellValues (t :: ts) ↔
      ∀ t' ∈ t :: ts, Readable t'.toList := by
  have hends : (shown x xs).map (fun y => unifyEnds (String.ofList y).toList) = shown x xs := by
    refine (List.map_congr_left fun y hy => ?_).trans (List.map_id _)
    have hmem : y ∈ x :: xs := by
      rcases shown_or x xs with e | e
      · exact e ▸ hy
      · exact e ▸ List.mem_append_left _ hy
    rw [String.toList_ofList]
    exact unifyEnds_contents h y hmem
  have hshown : cellValues ((shown x xs).map String.ofList) = (x :: xs).rdropWhile (· = []) := by
    rw [← rdropWhile_shown, cellValues, List.map_map]
    exact congrArg (List.rdropWhile _) hends
  rw [hshown, cellValues, ← eq_unifyEnds_iff h]
  refine ⟨eq_of_rdropWhile_eq ?_, fun e => by rw [e]⟩
  rw [List.length_map, h.length_eq]

/-- The rows that are read of a list of records. -/
theorem sameRecords_readLines (records : List (String × List String)) :
    SameRecords (readLines exportParams 0 [] [] (records.flatMap recordText)).1
        (records.map fun r => r.1 :: r.2) ↔
      ∀ r ∈ records, ∀ t ∈ r.1 :: r.2, Readable t.toList := by
  induction records with
  | nil =>
      refine iff_of_true ?_ fun r hr => by cases hr
      have hrc : (readLine exportParams [] [] false []).rc = false := by rw [readLine]; rfl
      rw [readLines_rows, List.flatMap_nil]
      simp only [hrc, Bool.false_eq_true, if_false]
      exact .nil
  | cons r records ih =>
      rw [readLines_rows, List.flatMap_cons]
      rcases contents_or_stop (r.1 :: r.2) with ⟨ys, hys⟩ | hstop
      · cases hys with
        | @cons _ x _ xs hx hxs =>
            have hcols : columns ([] ++ (x ++ xs.flatMap (',' :: ·))) 0
                ((positions x.length xs).map (([] : List Char).length + ·)) =
                  (shown x xs).map String.ofList := by
              have h := columns_positions [] x xs
              simpa using h
            simp only [readLine_record hx hxs, if_true, Int.le_refl, hcols]
            rw [SameRecords, List.map_cons, List.forall₂_cons, List.forall_mem_cons,
              cellValues_shown (.cons hx hxs)]
            exact and_congr_right fun _ => ih
      · have hrc := readLine_recordStop (records.flatMap recordText) hstop
        simp only [hrc, Bool.false_eq_true, if_false]
        obtain ⟨t, ht, hnone⟩ := hstop
        refine iff_of_false (fun h => ?_) fun h => ?_
        · cases h
        · cases hnone.symm.trans (h r (.head _) t ht).content_eq

namespace CsvImportCtrl

/-- **When an exported file is read back**: the import shows the exported records, in their order
and with their cells, if and only if each exported text is readable.  What the control has loaded
before does not matter, as the header is skipped. -/
theorem roundtrip_iff (s : CsvImportCtrl) (rEntries : List Contact) :
    SameRecords (s.loadFile (some (doExport rEntries)) exportParams).2.lines
        (rEntries.map (exportCells (numTel rEntries))) ↔
      ∀ c ∈ rEntries, ∀ t ∈ exportCells (numTel rEntries) c, Readable t.toList := by
  have hheader : ∀ t ∈ (headerRecord (numTel rEntries)).1 :: (headerRecord (numTel rEntries)).2,
      Readable t.toList := by
    intro t ht
    refine readable_of_alphanum ?_
    rcases List.mem_cons.mp ht with rfl | ht
    · exact (by decide : "FN".toList.all Char.isAlphanum = true)
    · rcases List.mem_append.mp ht with ht | ht
      · have hfixed : ∀ t ∈ ["MN", "LN", "NN", "Title", "SN", "Email", "Organization", "Image"],
            t.toList.all Char.isAlphanum = true := by decide
        exact hfixed t ht
      · obtain ⟨i, -, rfl⟩ := List.mem_map.mp ht
        exact telName_alphanum i
  have hlines : (s.loadFile (some (doExport rEntries)) exportParams).2.lines =
      (readLines exportParams 0 [] []
        ((rEntries.map (exportRecord (numTel rEntries))).flatMap recordText)).1 := by
    show (readLines exportParams 1 s.line [] (doExport rEntries)).1 = _
    rw [readLines_rows, doExport_eq]
    rcases contents_or_stop ((headerRecord (numTel rEntries)).1 ::
        (headerRecord (numTel rEntries)).2) with ⟨ys, hys⟩ | ⟨t, ht, hnone⟩
    · cases hys with
      | cons hx hxs =>
          simp only [readLine_record hx hxs, if_true]
          rfl
    · cases hnone.symm.trans (hheader t ht).content_eq
  have hcells : rEntries.map (exportCells (numTel rEntries)) =
      (rEntries.map (exportRecord (numTel rEntries))).map fun r => r.1 :: r.2 := by
    rw [List.map_map]
    rfl
  rw [hlines, hcells, sameRecords_readLines, List.forall_mem_map]
  rfl

end CsvImportCtrl

/-- A contact of a firm with a quote in its name. -/
def quotedContact : Contact :=
  { Contact.create with texts := { Contact.create.texts with organization := "The \"Firm\"" } }

/-- The quotes in a name are not read back. -/
theorem quotes_lost :
    ¬ SameRecords
        (CsvImportCtrl.create.loadFile (some (doExport [quotedContact])) exportParams).2.lines
        ([quotedContact].map (exportCells (numTel [quotedContact]))) ∧
      (CsvImportCtrl.create.loadFile (some (doExport [quotedContact])) exportParams).2.lines =
        [["", "", "", "", "", "", "", "The Firm"]] := by
  have hlines : (CsvImportCtrl.create.loadFile (some (doExport [quotedContact]))
      exportParams).2.lines = [["", "", "", "", "", "", "", "The Firm"]] := by
    decide +kernel
  refine ⟨fun h => ?_, hlines⟩
  rw [hlines] at h
  cases h with
  | cons hrow _ => exact absurd hrow (by decide +kernel)

end Cmon
