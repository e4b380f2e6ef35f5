import Mathlib.Data.List.Basic

/-!
# Library — comma-separated values

A reader of RFC 4180: records end with CR LF, fields are separated by commas, and a field is plain
or between quotes, where a quote is doubled.  Between quotes any other character may stand; a
plain field has no comma, quote or line end.

* `read` and `write`: `write` puts every field between quotes that is not empty.
* `read_write`: what was written is read, record by record and field by field.
-/

namespace Cmon.Library.Rfc4180

/-! ### The reader -/

/-- Where the reader is: at the beginning of a field, in a plain field, between quotes, behind a
quote that ends the field or is doubled, and behind a CR. -/
inductive Mode where
  | field | plain | quoted | quote | cr
  deriving DecidableEq, Repr

/-- The records of a text, when `fields` are those of the record that were read, and `cur` is what
was read of the field. -/
def parse : Mode → List (List Char) → List Char → List Char → Option (List (List (List Char)))
  | .field, fields, _, [] => some (if fields = [] then [] else [fields ++ [[]]])
  | .plain, fields, cur, [] => some [fields ++ [cur]]
  | .quote, fields, cur, [] => some [fields ++ [cur]]
  | .quoted, _, _, [] => none
  | .cr, _, _, [] => none
  | .field, fields, _, c :: t =>
      if c = '"' then parse .quoted fields [] t
      else if c = ',' then parse .field (fields ++ [[]]) [] t
      else if c = '\r' then parse .cr fields [] t
      else if c = '\n' then none
      else parse .plain fields [c] t
  | .plain, fields, cur, c :: t =>
      if c = '"' then none
      else if c = ',' then parse .field (fields ++ [cur]) [] t
      else if c = '\r' then parse .cr fields cur t
      else if c = '\n' then none
      else parse .plain fields (cur ++ [c]) t
  | .quoted, fields, cur, c :: t =>
      if c = '"' then parse .quote fields cur t else parse .quoted fields (cur ++ [c]) t
  | .quote, fields, cur, c :: t =>
      if c = '"' then parse .quoted fields (cur ++ ['"']) t
      else if c = ',' then parse .field (fields ++ [cur]) [] t
      else if c = '\r' then parse .cr fields cur t
      else none
  | .cr, fields, cur, c :: t =>
      if c = '\n' then (parse .field [] [] t).map ((fields ++ [cur]) :: ·) else none

/-- The records of a text. -/
def read (text : List Char) : Option (List (List (List Char))) := parse .field [] [] text

/-! ### A writer -/

/-- Every quote is doubled. -/
def double (field : List Char) : List Char := field.flatMap fun c => if c = '"' then [c, c] else [c]

/-- A field; an empty one has no quotes. -/
def writeField (field : List Char) : List Char :=
  if field = [] then [] else '"' :: (double field ++ ['"'])

/-- The fields behind the first one. -/
def writeFields (fields : List (List Char)) : List Char :=
  fields.flatMap fun field => ',' :: writeField field

/-- A record, by its first field and the others. -/
def writeRecord (record : List Char × List (List Char)) : List Char :=
  writeField record.1 ++ writeFields record.2 ++ ['\r', '\n']

/-- A list of records. -/
def write (records : List (List Char × List (List Char))) : List Char :=
  records.flatMap writeRecord

/-! ### What was written is read -/

variable {fields : List (List Char)} {cur rest : List Char}

/-- Between quotes. -/
theorem parse_double (field : List Char) : parse .quoted fields cur (double field ++ '"' :: rest) =
    parse .quote fields (cur ++ field) rest := by
  induction field generalizing cur with
  | nil => simp [double, parse]
  | cons c field ih =>
      by_cases hc : c = '"'
      · subst hc
        simpa [double, parse] using @ih (cur ++ ['"'])
      · simpa [double, parse, hc] using @ih (cur ++ [c])

/-- A field in front of a comma, -/
theorem parse_comma (field : List Char) :
    parse .field fields [] (writeField field ++ ',' :: rest) =
      parse .field (fields ++ [field]) [] rest := by
  rw [writeField]
  split
  · next h => simp [h, parse]
  · rw [List.cons_append, List.append_assoc, parse]
    simp [parse_double, parse]

/-- and in front of the end of the record. -/
theorem parse_crlf (field : List Char) :
    parse .field fields [] (writeField field ++ '\r' :: '\n' :: rest) =
      (read rest).map ((fields ++ [field]) :: ·) := by
  rw [writeField]
  split
  · next h => simp [h, parse, read]
  · rw [List.cons_append, List.append_assoc, parse]
    simp [parse_double, parse, read]

/-- The fields of a record, from one on. -/
theorem parse_fields (field : List Char) (others : List (List Char)) :
    parse .field fields [] (writeField field ++ (writeFields others ++ '\r' :: '\n' :: rest)) =
      (read rest).map ((fields ++ field :: others) :: ·) := by
  induction others generalizing fields field with
  | nil => exact parse_crlf field
  | cons next others ih =>
      have hnext : writeFields (next :: others) ++ '\r' :: '\n' :: rest =
          ',' :: (writeField next ++ (writeFields others ++ '\r' :: '\n' :: rest)) := by
        simp [writeFields]
      rw [hnext, parse_comma, ih, List.append_assoc]
      rfl

/-- **What was written is read.** -/
theorem read_write (records : List (List Char × List (List Char))) :
    read (write records) = some (records.map fun record => record.1 :: record.2) := by
  induction records with
  | nil => rfl
  | cons record records ih =>
      have hfirst : write (record :: records) = writeField record.1 ++
          (writeFields record.2 ++ '\r' :: '\n' :: write records) := by
        simp [write, writeRecord]
      rw [hfirst, read, parse_fields, ih]
      rfl

end Cmon.Library.Rfc4180
