import Cmon.AddressBook.PreFilter
import Cmon.AddressBook.Save
import Cmon.Journal.Model

/-!
# Search — what a search selects

What is typed into a search field is compared with the rows: its digits with the stored numbers,
the rest with the names, by `like` in each case.  The digits of the text are taken without what
stands between them, and the stored numbers as they are.

* `CallRow.Selected` and `ContactRow.Selected`: the statement is read as it is meant, and its
  condition holds of the row.
* `selected_call_iff` and `selected_contact_iff`: digits select a row that has them next to each
  other.
* `digits_iff`: digits that occur in a number find its row exactly when they stand unbroken in one
  of its numbers.
-/

namespace Cmon
open Library SqlText

/-! ### The conditions -/

/-- `column like '%…%'`, as the engine of the book documents it. -/
def likes (kind : BookKind) (s column : String) : Bool :=
  match SqlLike.pattern (escapeChar kind) ('%' :: (s.toList ++ ['%'])) with
  | none => false
  | some p => SqlLike.holds (sameChar kind) p column.toList

/-- The condition of `CJournalModel::setNameAndNumberFilter`, of a row. -/
def nameAndNumberHolds (name number : String) (row : CallRow) : Bool :=
  (name = "" || likes .sqlite name row.cln || likes .sqlite name row.cdn) &&
    (number = "" || likes .sqlite number row.clnr || likes .sqlite number row.cdnr)

/-- The condition of the current filter, of a row; the conditions are evaluated by the engine. -/
def filterHolds (evaluate : String → CallRow → Bool) (current : Option JournalFilter)
    (row : CallRow) : Bool :=
  current.elim "" JournalFilter.getCondition = "" ||
    evaluate (current.elim "" JournalFilter.getCondition) row

/-- The name filter of an address book; `ilike` ignores the case. -/
def nameLikes (kind : BookKind) (s column : String) : Bool :=
  match SqlLike.pattern (escapeChar kind) ('%' :: (s.toList ++ ['%'])) with
  | none => false
  | some p => SqlLike.holds (fun c d => c.toLower == d.toLower) p column.toList

/-- The condition of `getEntries` of an address book, of a row. -/
def contactHolds (kind : BookKind) (name number : String) (db : ContactDb) (row : ContactRow) :
    Bool :=
  (name = "" || nameLikes kind name row.texts.sn) &&
    (number = "" || db.numbers.any fun n => n.cref = row.id && likes kind number n.canonical)

/-- A row of the journal is in the list of a search. -/
def CallRow.Selected (p : Platform) (evaluate : String → CallRow → Bool)
    (current : Option JournalFilter) (so : JournalSortOrder) (bSortAsc : Bool) (typed : String)
    (row : CallRow) : Prop :=
  let q := Query.journalList current so bSortAsc typed
  lex (q.sql p).toList = some (tokensOf (q.intended p)) ∧
    filterHolds evaluate current row = true ∧
    nameAndNumberHolds (toUTF8 (doSearch p typed).1) (toUTF8 (doSearch p typed).2) row = true

/-- A contact is in the list of a search. -/
def ContactRow.Selected (p : Platform) (kind : BookKind) (so : ContactSortOrder)
    (bSortAsc : Bool) (typed : String) (db : ContactDb) (row : ContactRow) : Prop :=
  let q := Query.contacts kind so bSortAsc typed
  lex (q.sql p).toList = some (tokensOf (q.intended p)) ∧
    contactHolds kind (toUTF8 (doSearch p typed).1) (toUTF8 (doSearch p typed).2) db row = true

/-! ### Digits -/

/-- The numbers of a call. -/
def CallRow.numbers (row : CallRow) : List String := [row.clnr, row.cdnr]

/-- The numbers of a contact. -/
def ContactDb.numbersOf (db : ContactDb) (row : ContactRow) : List String :=
  (db.numbers.filter (·.cref = row.id)).map (·.canonical)

/-- The digits-only form of a number. -/
def digitsOf (t : String) : List Char := t.toList.filter Char.isDigit

/-- A text of digits. -/
def Digits (d : String) : Prop := d ≠ "" ∧ ∀ c ∈ d.toList, c.isDigit = true

instance (d : String) : Decidable (Digits d) := @instDecidableAnd _ _ _ (List.decidableBAll _ _)

/-- The digits occur in the digits-only form of one of the numbers. -/
def Occurs (d : String) (numbers : List String) : Prop := ∃ t ∈ numbers, d.toList <:+: digitsOf t

/-- Digits that occur in the numbers stand in one of them with nothing between them. -/
def Unbroken (d : String) (numbers : List String) : Prop :=
  Occurs d numbers → ∃ t ∈ numbers, d.toList <:+: t.toList

instance (d : String) (numbers : List String) : Decidable (Occurs d numbers) :=
  inferInstanceAs (Decidable (∃ t ∈ numbers, _))

instance (d : String) (numbers : List String) : Decidable (Unbroken d numbers) :=
  inferInstanceAs (Decidable (_ → ∃ t ∈ numbers, _))

section
variable {p : Platform} {d : String}

theorem isDigit_bounds {c : Char} (h : c.isDigit = true) : '0'.val ≤ c.val ∧ c.val ≤ '9'.val := by
  rw [Char.isDigit, Bool.and_eq_true, decide_eq_true_eq, decide_eq_true_eq] at h
  exact h

/-- What holds of no digit. -/
theorem ne_of_isDigit {c : Char} (h : c.isDigit = true) (d : Char) (hd : d.isDigit = false) :
    c ≠ d := by
  rintro rfl
  exact Bool.false_ne_true (hd.symm.trans h)

theorem doSearch_digits (hp : ∀ c : Char, c.val < 128 → p.isDigit c = c.isDigit)
    (h : Digits d) : doSearch p d = ("", d) := by
  have hall : ∀ c ∈ d.toList, p.isDigit c = true := by
    intro c hc
    have hd := h.2 c hc
    rw [hp c (UInt32.lt_of_le_of_lt (isDigit_bounds hd).2 (by decide)), hd]
  have hnone : d.toList.filter (fun c => !p.isDigit c) = [] :=
    List.filter_eq_nil_iff.mpr fun c hc => by simp [hall c hc]
  rw [doSearch, List.filter_eq_self.mpr hall, String.ofList_toList, hnone]

theorem toUTF8_digits (h : Digits d) : toUTF8 d = d := by
  rw [toUTF8, cString, List.takeWhile_eq_self_iff.mpr, String.ofList_toList]
  intro c hc
  simpa using ne_of_isDigit (h.2 c hc) '\x00' (by decide)

theorem noQuote_digits (h : Digits d) : NoQuote d := by
  rw [NoQuote, toUTF8_digits h]
  exact fun hc => ne_of_isDigit (h.2 _ hc) '\'' (by decide) rfl

/-- A digit is equal to itself only. -/
theorem sameChar_digit (kind : BookKind) {c : Char} (h : c.isDigit = true) (c' : Char) :
    sameChar kind c c' = true ↔ c' = c := by
  cases kind with
  | psql => rw [sameChar, beq_iff_eq, eq_comm]
  | sqlite =>
      obtain ⟨hge, hle⟩ := isDigit_bounds h
      have hlower : c.toLower = c := by
        refine dif_neg fun hup => ?_
        exact absurd (UInt32.le_trans hup.1 hle) (by decide)
      rw [sameChar, beq_iff_eq, hlower]
      constructor
      · intro heq
        by_cases hup : c'.val ≥ 'A'.val ∧ c'.val ≤ 'Z'.val
        · -- a small letter is no digit
          have hval : c.val = c'.val + 32 := by
            rw [heq]
            exact congrArg Char.val (dif_pos hup)
          have hA : 65 ≤ c'.val.toNat := UInt32.le_iff_toNat_le.mp hup.1
          have hZ : c'.val.toNat ≤ 90 := UInt32.le_iff_toNat_le.mp hup.2
          have h9 : c.val.toNat ≤ 57 := UInt32.le_iff_toNat_le.mp hle
          rw [hval, UInt32.toNat_add] at h9
          have h32 : (32 : UInt32).toNat = 32 := rfl
          omega
        · have hsame : c'.toLower = c' := dif_neg hup
          rw [heq, hsame]
      · rintro rfl
        exact hlower.symm

/-- `like` finds digits that stand next to each other. -/
theorem likes_digits (kind : BookKind) (h : Digits d) (t : String) :
    likes kind d t = true ↔ d.toList <:+: t.toList := by
  have hplain : ∀ c ∈ d.toList, SqlLike.Plain (escapeChar kind) c := by
    intro c hc
    refine ⟨ne_of_isDigit (h.2 c hc) '%' (by decide), ne_of_isDigit (h.2 c hc) '_' (by decide), ?_⟩
    cases kind with
    | sqlite => exact Option.some_ne_none c
    | psql => exact fun he => ne_of_isDigit (h.2 c hc) '\\' (by decide) (Option.some.inj he)
  have hesc : escapeChar kind ≠ some '%' := by cases kind <;> decide
  have hsame : ∀ v : List Char, d.toList.Forall₂ (sameChar kind · · = true) v ↔ v = d.toList := by
    intro v
    constructor
    · intro hv
      have heq : d.toList.Forall₂ (· = ·) v :=
        ((List.forall₂_and_left _ _).mpr ⟨h.2, hv⟩).imp fun c c' hc =>
          ((sameChar_digit kind hc.1 c').mp hc.2).symm
      rw [List.forall₂_eq_eq_eq] at heq
      exact heq.symm
    · rintro rfl
      exact List.forall₂_same.mpr fun c hc => (sameChar_digit kind (h.2 c hc) c).mpr rfl
  rw [likes, SqlLike.pattern_within hesc hplain]
  show SqlLike.holds _ _ _ = true ↔ _
  rw [SqlLike.holds_within]
  constructor
  · rintro ⟨v, hv, hs⟩
    rwa [(hsame v).mp hs] at hv
  · exact fun hv => ⟨_, hv, (hsame _).mpr rfl⟩

/-! ### Digits that select a row -/

/-- What digits select in the journal. -/
theorem selected_call_iff (hp : ∀ c : Char, c.val < 128 → p.isDigit c = c.isDigit) (h : Digits d)
    (evaluate : String → CallRow → Bool) (current : Option JournalFilter)
    (so : JournalSortOrder) (bSortAsc : Bool) (row : CallRow) :
    row.Selected p evaluate current so bSortAsc d ↔
      filterHolds evaluate current row = true ∧ ∃ t ∈ row.numbers, d.toList <:+: t.toList := by
  have hsafe : (Query.journalList current so bSortAsc d).Safe p := by
    rw [Query.Safe, doSearch_digits hp h]
    exact ⟨(by decide : NoQuote ""), noQuote_digits h⟩
  rw [CallRow.Selected, Query.read_iff, doSearch_digits hp h, toUTF8_digits h]
  have hempty : toUTF8 "" = "" := rfl
  have hne : d ≠ "" := h.1
  simp [hsafe, hempty, hne, nameAndNumberHolds, likes_digits .sqlite h, CallRow.numbers]

/-- What digits select in an address book. -/
theorem selected_contact_iff (hp : ∀ c : Char, c.val < 128 → p.isDigit c = c.isDigit)
    (h : Digits d) (kind : BookKind) (so : ContactSortOrder) (bSortAsc : Bool) (db : ContactDb)
    (row : ContactRow) :
    row.Selected p kind so bSortAsc d db ↔ ∃ t ∈ db.numbersOf row, d.toList <:+: t.toList := by
  have hsafe : (Query.contacts kind so bSortAsc d).Safe p := by
    rw [Query.Safe, doSearch_digits hp h]
    exact ⟨(by decide : NoQuote ""), noQuote_digits h⟩
  rw [ContactRow.Selected, Query.read_iff, doSearch_digits hp h, toUTF8_digits h]
  have hempty : toUTF8 "" = "" := rfl
  have hne : d ≠ "" := h.1
  simp [hsafe, hempty, hne, contactHolds, likes_digits kind h, ContactDb.numbersOf, and_assoc]

/-- The digits of a number are its own, also where others stand between them. -/
theorem occurs_of_within (h : Digits d) {numbers : List String}
    (hd : ∃ t ∈ numbers, d.toList <:+: t.toList) : Occurs d numbers := by
  obtain ⟨t, ht, hin⟩ := hd
  have hfilter := hin.filter Char.isDigit
  rw [List.filter_eq_self.mpr h.2] at hfilter
  exact ⟨t, ht, hfilter⟩

/-- The digits that are searched for are those that occur, when they stand unbroken. -/
theorem unbroken_iff (h : Digits d) (numbers : List String) :
    ((∃ t ∈ numbers, d.toList <:+: t.toList) ↔ Occurs d numbers) ↔ Unbroken d numbers :=
  ⟨fun hiff => hiff.mpr, fun hunbroken => ⟨occurs_of_within h, hunbroken⟩⟩

/-- **What digits find.**  Of each row, in the journal under the current filter and in an address
book of either kind: digits select it if and only if they occur in one of its numbers, exactly
when they stand unbroken there or do not occur at all. -/
theorem digits_iff (p : Platform) (hp : ∀ c : Char, c.val < 128 → p.isDigit c = c.isDigit)
    (d : String) (h : Digits d) :
    (∀ (evaluate : String → CallRow → Bool) (current : Option JournalFilter)
        (so : JournalSortOrder) (bSortAsc : Bool) (row : CallRow),
      filterHolds evaluate current row = true →
        ((row.Selected p evaluate current so bSortAsc d ↔ Occurs d row.numbers) ↔
          Unbroken d row.numbers)) ∧
    ∀ (kind : BookKind) (so : ContactSortOrder) (bSortAsc : Bool) (db : ContactDb)
        (row : ContactRow),
      (row.Selected p kind so bSortAsc d db ↔ Occurs d (db.numbersOf row)) ↔
        Unbroken d (db.numbersOf row) := by
  constructor
  · intro evaluate current so bSortAsc row hfilter
    rw [← unbroken_iff h, selected_call_iff hp h]
    simp only [hfilter, true_and]
  · intro kind so bSortAsc db row
    rw [← unbroken_iff h, selected_contact_iff hp h]

end

/-! ### A formatted number -/

/-- A book with a number, as it is stored. -/
def bookOf (canonical : String) : ContactDb :=
  ⟨[⟨1, Contact.create.texts⟩], [⟨1, 1, .home, canonical, ""⟩], 2, 2⟩

/-- Digits within a group of a formatted number are found. -/
theorem digits_find :
    ContactRow.Selected utcPlatform .psql .sn true "12345" (bookOf "+49 30 12345")
      ⟨1, Contact.create.texts⟩ :=
  (((digits_iff utcPlatform (fun _ _ => rfl) "12345" (by decide)).2 .psql .sn true
    (bookOf "+49 30 12345") ⟨1, Contact.create.texts⟩).mpr (by decide)).mpr (by decide)

/-- The number `+49 30 12345`, typed without the blanks, is not found, in the list of the contacts
and in the journal. -/
theorem blanks_not_found :
    (∀ kind, ¬ (ContactRow.Selected utcPlatform kind .sn true "493012345" (bookOf "+49 30 12345")
          ⟨1, Contact.create.texts⟩ ↔
        Occurs "493012345" ((bookOf "+49 30 12345").numbersOf ⟨1, Contact.create.texts⟩))) ∧
      let row : CallRow := ⟨1, .incoming, .ok, "", "", 0, "+49 30 12345", "", "", ""⟩
      ¬ (row.Selected utcPlatform (fun _ _ => true) none .time false "493012345" ↔
        Occurs "493012345" row.numbers) := by
  have hp : ∀ c : Char, c.val < 128 → utcPlatform.isDigit c = c.isDigit := fun _ _ => rfl
  have hd : Digits "493012345" := by decide
  constructor
  · intro kind
    rw [selected_contact_iff hp hd]
    decide +kernel
  · intro row
    rw [selected_call_iff hp hd]
    decide +kernel

end Cmon
