import Cmon.Csv.Export
import Cmon.Library.Rfc4180

/-!
# CSV — the export, read by others

`DoExport` writes what a reader of RFC 4180 takes for the header and a record for each contact.

* `writeString_csvQuote_eq` and `recordText_eq`: a cell and a line are what the library's writer
  makes of them, with the line ends of the stream.
* `read_doExport`: the reader gets the records, each with as many fields as the header.
-/

namespace Cmon
open Library

/-- A value as the text stream writes it. -/
def fieldOf (t : String) : List Char := writeString t.toList

/-- The header and the records that are written. -/
def exportRecords (rEntries : List Contact) : List (List String) :=
  ((headerRecord (numTel rEntries)).1 :: (headerRecord (numTel rEntries)).2) ::
    rEntries.map fun c => exportCells (numTel rEntries) c

/-- The stream changes line ends only, and CSVQuote quotes only. -/
theorem writeString_doubleQuotes (t : List Char) :
    writeString (doubleQuotes t) = Rfc4180.double (writeString t) := by
  rw [writeString, doubleQuotes, Rfc4180.double, writeString, List.flatMap_assoc,
    List.flatMap_assoc]
  refine List.flatMap_congr fun c _ => ?_
  by_cases hq : c = '"'
  · subst hq
    rfl
  · by_cases hlf : c = '\n'
    · subst hlf
      rfl
    · simp [hq, hlf]

/-- A text is empty in the file when it is. -/
theorem writeString_eq_nil {t : List Char} : writeString t = [] ↔ t = [] := by
  cases t with
  | nil => exact iff_of_true rfl rfl
  | cons c t =>
      refine iff_of_false (fun h => ?_) (nomatch ·)
      rw [writeString, List.flatMap_cons, List.append_eq_nil_iff] at h
      split at h <;> cases h.1

/-- **A cell is written as a field.** -/
theorem writeString_csvQuote_eq (t : String) :
    writeString (csvQuote t) = Rfc4180.writeField (fieldOf t) := by
  rw [csvQuote, Rfc4180.writeField, fieldOf]
  by_cases h : t.toList = []
  · rw [if_pos h, if_pos (writeString_eq_nil.mpr h)]
    rfl
  · rw [if_neg h, if_neg fun he => h (writeString_eq_nil.mp he), ← writeString_doubleQuotes,
      ← List.singleton_append, writeString_append, writeString_append]
    rfl

theorem cellsText_eq_writeFields (ts : List String) :
    writeString (cellsText ts) = Rfc4180.writeFields (ts.map fieldOf) := by
  induction ts with
  | nil => rfl
  | cons t ts ih =>
      have hcells : cellsText (t :: ts) = [','] ++ csvQuote t ++ cellsText ts := rfl
      rw [hcells, writeString_append, writeString_append, ih, writeString_csvQuote_eq]
      rfl

/-- **A line is written as a record.** -/
theorem recordText_eq (r : String × List String) :
    recordText r = Rfc4180.writeRecord (fieldOf r.1, r.2.map fieldOf) := by
  rw [recordText, writeString_append, writeString_append, writeString_csvQuote_eq,
    cellsText_eq_writeFields]
  rfl

theorem doExport_eq_write (rEntries : List Contact) : doExport rEntries = Rfc4180.write
    ((headerRecord (numTel rEntries) :: rEntries.map (exportRecord (numTel rEntries))).map
      fun r => (fieldOf r.1, r.2.map fieldOf)) := by
  rw [doExport_eq, ← List.flatMap_cons, Rfc4180.write, List.flatMap_map]
  exact List.flatMap_congr fun r _ => recordText_eq r

/-- The header has as many cells as every record. -/
theorem length_exportRecords {rEntries : List Contact} {record : List String}
    (h : record ∈ exportRecords rEntries) : record.length = 9 + numTel rEntries := by
  rcases List.mem_cons.mp h with rfl | h
  · simp [headerRecord]
    omega
  · obtain ⟨c, -, rfl⟩ := List.mem_map.mp h
    simp [exportCells]
    omega

/-- **A reader gets the header and the contacts**, each as a record of nine texts and as many
numbers as the contact with the most has. -/
theorem read_doExport (rEntries : List Contact) :
    Rfc4180.read (doExport rEntries) =
        some ((exportRecords rEntries).map fun record => record.map fieldOf) ∧
      ∀ record ∈ exportRecords rEntries, record.length = 9 + numTel rEntries := by
  refine ⟨?_, fun record => length_exportRecords⟩
  rw [doExport_eq_write, Rfc4180.read_write, List.map_map]
  simp only [exportRecords, List.map_cons, List.map_map]
  rfl

end Cmon
