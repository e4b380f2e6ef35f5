import Cmon.AddressBook.Retry

/-!
# Address book — reading contacts

`getEntries` and `deleteEntry` of both kinds of books, and the tables that saves and deletions lead
to.  The statements of `getEntries` choose and order the contacts; the order of a contact's
numbers is left open (`Fetched`).

* `AsWritten`: the texts of the rows are read as they were written.  Numbers come from
  `CPhone::setNumber`, which takes the blanks around them away, and hold no NUL (`Entered`).
* `written_run`: the tables are well formed and as written after any saves and deletions.
* `stored_fetched`: what is read from such tables is stored in them.
-/

namespace Cmon.ContactDb
open Library

variable {s s' : ContactDb} {c : Contact} {key : Int} {ph : Phone} {l : List Phone}

/-! ### The source -/

/-- `getEntries`, a number. -/
def fetchPhone (r : NumberRow) : Phone :=
  ((((Phone.create r.type).setDbKey r.id).setNumber r.canonical).setNote r.note).setDirty false

/-- `getEntries`, a contact; `c` is the contact of the turn before. -/
def fetchContact (c : Contact) (row : ContactRow × List NumberRow) : Contact :=
  let c := (c.setDbKey row.1.id).setTexts row.1.texts
  { c with phones := row.2.map fetchPhone }.setDirty false

/-- `getEntries`, the loop over the contacts. -/
def fetchEntries : Contact → List (ContactRow × List NumberRow) → List Contact
  | _, [] => []
  | c, row :: rows => fetchContact c row :: fetchEntries (fetchContact c row) rows

/-- `getEntries`, from what its statements give. -/
def getEntries (rows : List (ContactRow × List NumberRow)) : List Contact :=
  fetchEntries Contact.create rows

/-- What the statements of `getEntries` give: contacts, each with its numbers. -/
def Fetched (s : ContactDb) (rows : List (ContactRow × List NumberRow)) : Prop :=
  ∀ row ∈ rows, row.1 ∈ s.contacts ∧ row.2.Perm (s.numbers.filter fun r => r.cref = row.1.id)

instance (s : ContactDb) (rows : List (ContactRow × List NumberRow)) : Decidable (Fetched s rows) :=
  inferInstanceAs (Decidable (∀ row ∈ rows, _ ∧ _))

/-- `deleteEntry`; the numbers of a contact are deleted with it. -/
def deleteEntry (c : Contact) (s : ContactDb) : ContactDb :=
  if c.dbKey ≠ 0 then
    { s with
      contacts := s.contacts.filter fun r => r.id ≠ c.dbKey
      numbers := s.numbers.filter fun r => r.cref ≠ c.dbKey }
  else s

/-- A call that changes the tables; a deletion may fail. -/
inductive BookStep where
  | insertUpdateEntry (fault : Option Nat) (c : Contact)
  | deleteEntry (fails : Bool) (c : Contact)

/-- A call to an SQLite book. -/
def bookStep (s : ContactDb) : BookStep → ContactDb
  | .insertUpdateEntry fault c => (insertUpdateEntry .sqlite true fault s c).db
  | .deleteEntry fails c => if fails then s else deleteEntry c s

/-! ### Texts that are read as they were written -/

/-- The numbers of the contact were given to `setNumber`, without a NUL. -/
def Entered (c : Contact) : Prop :=
  ∀ ph ∈ c.phones, ∃ val : String, '\x00' ∉ val.toList ∧ ph.number = trim val

/-- What is saved is a new contact or one with a row, with numbers that were entered. -/
def Savable (s : ContactDb) : BookStep → Prop
  | .insertUpdateEntry _ c => (c.dbKey = 0 ∨ c.dbKey ∈ s.contacts.map (·.id)) ∧ Entered c
  | .deleteEntry _ _ => True

/-- The texts are read as they stand in the rows, and are written so again. -/
structure AsWritten (s : ContactDb) : Prop where
  contacts : ∀ r ∈ s.contacts, toColumns r.texts = r.texts
  numbers : ∀ r ∈ s.numbers,
    trim r.canonical = r.canonical ∧ toAscii r.canonical = r.canonical ∧ toUTF8 r.note = r.note

theorem toColumns_toColumns (t : ContactTexts) : toColumns (toColumns t) = toColumns t := by
  simp only [toColumns, toUTF8_toUTF8, toAscii_toAscii]

theorem AsWritten.initial : AsWritten initial :=
  ⟨fun _ h => absurd h List.not_mem_nil, fun _ h => absurd h List.not_mem_nil⟩

/-- A row of a contact that was saved is an old one or the contact's. -/
theorem of_mem_savedContact {r : ContactRow} (h : r ∈ (savedContact s c).1.contacts) :
    r ∈ s.contacts ∨ ∃ id, r = contactRow id c := by
  rw [savedContact] at h
  split_ifs at h
  · rcases List.mem_append.mp h with h | h
    · exact .inl h
    · exact .inr ⟨_, List.mem_singleton.mp h⟩
  · by_cases hk : r.id = c.dbKey
    · obtain ⟨r₀, -, -, rfl⟩ := Table.exists_of_mem_update h hk
      exact .inr ⟨_, rfl⟩
    · have hset : ∀ r : ContactRow, r.id = c.dbKey → (contactRow r.id c).id = c.dbKey :=
        fun _ hr => hr
      exact .inl ((Table.mem_update_of_ne hset hk).mp h)

/-- A row of a number is an old one or that of a phone. -/
theorem mem_of_mem_savedNumbers {r : NumberRow} (h : r ∈ (savedNumbers key s l).1.numbers) :
    r ∈ s.numbers ∨ ∃ ph ∈ l, ∃ id cref, r = numberRow id cref ph := by
  induction l generalizing s with
  | nil => exact .inl h
  | cons ph l ih =>
      rw [savedNumbers_cons] at h
      rcases ih h with h | ⟨ph', hph', hr⟩
      · rw [savedNumber] at h
        split_ifs at h
        · rcases List.mem_append.mp h with h | h
          · exact .inl h
          · exact .inr ⟨ph, .head _, _, _, List.mem_singleton.mp h⟩
        · by_cases hk : r.id = ph.dbKey
          · obtain ⟨r₀, -, -, rfl⟩ := Table.exists_of_mem_update h hk
            exact .inr ⟨ph, .head _, _, _, rfl⟩
          · exact .inl ((mem_updateNumber_of_ne hk).mp h)
      · exact .inr ⟨ph', .tail _ hph', hr⟩

theorem AsWritten.saved (h : AsWritten s) (hc : Entered c) : AsWritten (saved s c).1 := by
  constructor
  · intro r hr
    rw [saved_contacts] at hr
    rcases of_mem_savedContact hr with hr | ⟨id, rfl⟩
    · exact h.contacts r hr
    · exact toColumns_toColumns c.texts
  · intro r hr
    have hr : r ∈
        (savedNumbers (savedContact s c).2.dbKey (savedContact s c).1 c.phones).1.numbers :=
      List.mem_of_mem_filter hr
    rcases mem_of_mem_savedNumbers hr with hr | ⟨ph, hph, id, cref, rfl⟩
    · exact h.numbers r ((savedContact_numbers s c).1 ▸ hr)
    · obtain ⟨val, hnul, hval⟩ := hc ph hph
      refine ⟨?_, toAscii_toAscii _, toUTF8_toUTF8 _⟩
      show trim (toAscii ph.number) = toAscii ph.number
      rw [hval, trim_toAscii_trim hnul]

theorem WF.deleteEntry (h : WF s) (c : Contact) : WF (deleteEntry c s) := by
  rw [ContactDb.deleteEntry]
  split_ifs
  · refine ⟨h.contacts.sublist List.filter_sublist, h.numbers.sublist List.filter_sublist, ?_⟩
    intro r hr
    obtain ⟨hr, hne⟩ := List.mem_filter.mp hr
    obtain ⟨r₀, hr₀, hid⟩ := List.mem_map.mp (h.crefs r hr)
    exact List.mem_map.mpr ⟨r₀, List.mem_filter.mpr ⟨hr₀, hid ▸ hne⟩, hid⟩
  · exact h

theorem AsWritten.deleteEntry (h : AsWritten s) (c : Contact) : AsWritten (deleteEntry c s) := by
  rw [ContactDb.deleteEntry]
  split_ifs
  · exact ⟨fun r hr => h.contacts r (List.mem_of_mem_filter hr),
      fun r hr => h.numbers r (List.mem_of_mem_filter hr)⟩
  · exact h

/-- **The tables are well formed and as written after any saves and deletions,** failed ones
among them. -/
theorem written_run (h : WF s ∧ AsWritten s) {steps : List BookStep}
    (hsteps : Along bookStep Savable s steps) :
    WF (run bookStep s steps) ∧ AsWritten (run bookStep s steps) := by
  refine Along.inv (I := fun s => WF s ∧ AsWritten s) (fun s step h hsave => ?_) h hsteps
  obtain ⟨hs, hw⟩ := h
  cases step with
  | insertUpdateEntry fault c =>
      rcases insertUpdateEntry_cases .sqlite fault hsave.1 with e | hback
      · rw [bookStep, e]
        exact ⟨hs.saved (c := c.setDirty true) hsave.1, hw.saved (c := c.setDirty true) hsave.2⟩
      · rw [bookStep, hback.config rfl]
        exact ⟨hs, hw⟩
  | deleteEntry fails c =>
      rw [bookStep]
      split_ifs
      · exact ⟨hs, hw⟩
      · exact ⟨hs.deleteEntry c, hw.deleteEntry c⟩

/-! ### What is read -/

/-- A contact that is read has the key and the texts of its row, and a phone for each number. -/
theorem of_mem_getEntries {rows : List (ContactRow × List NumberRow)} (h : c ∈ getEntries rows) :
    ∃ row ∈ rows, c = ⟨row.1.id, false, row.1.texts, row.2.map fetchPhone⟩ := by
  have hloop : ∀ c₀, c ∈ fetchEntries c₀ rows →
      ∃ row ∈ rows, c = ⟨row.1.id, false, row.1.texts, row.2.map fetchPhone⟩ := by
    clear h
    induction rows with
    | nil => exact fun _ h => absurd h List.not_mem_nil
    | cons row rows ih =>
        intro c₀ h
        rcases List.mem_cons.mp h with rfl | h
        · exact ⟨row, .head _, by simp [fetchContact, Contact.setDirty, Contact.setTexts_texts]⟩
        · obtain ⟨row', hrow', e⟩ := ih _ h
          exact ⟨row', .tail _ hrow', e⟩
  exact hloop _ h

@[simp] theorem fetchPhone_dbKey (r : NumberRow) : (fetchPhone r).dbKey = r.id := rfl

@[simp] theorem fetchPhone_dirty (r : NumberRow) : (fetchPhone r).dirty = false := rfl

@[simp] theorem fetchPhone_number (r : NumberRow) : (fetchPhone r).number = trim r.canonical := rfl

/-- The row that is written for a phone as it was read. -/
theorem AsWritten.numberRow_fetchPhone (h : AsWritten s) {r : NumberRow} (hr : r ∈ s.numbers) :
    numberRow r.id r.cref (fetchPhone r) = r := by
  obtain ⟨htrim, hascii, hnote⟩ := h.numbers r hr
  show NumberRow.mk r.id r.cref r.type (toAscii (trim r.canonical)) (toUTF8 r.note) = r
  rw [htrim, hascii, hnote]

/-- **What is read is stored.** -/
theorem stored_fetched (hs : WF s) (hw : AsWritten s) {rows : List (ContactRow × List NumberRow)}
    (hrows : Fetched s rows) (hc : c ∈ getEntries rows) : Stored s c := by
  obtain ⟨⟨row, numbers⟩, hrow, rfl⟩ := of_mem_getEntries hc
  obtain ⟨hmem, hperm⟩ := hrows _ hrow
  constructor
  · show (s.contacts.filter fun r => r.id = row.id) = [⟨row.id, toColumns row.texts⟩]
    rw [Table.filter_key_of_nodup hs.contacts.nodup hmem rfl, hw.contacts row hmem]
  · have hwritten : (numbers.map fetchPhone).map (fun ph => numberRow ph.dbKey row.id ph) =
        numbers := by
      rw [List.map_map]
      refine (List.map_congr_left fun r hr => ?_).trans (List.map_id _)
      obtain ⟨hr, hcref⟩ := List.mem_filter.mp (hperm.subset hr)
      have hcref : r.cref = row.id := by simpa using hcref
      rw [Function.comp_apply, fetchPhone_dbKey, ← hcref]
      exact hw.numberRow_fetchPhone hr
    rw [hwritten]
    exact hperm.symm

end Cmon.ContactDb
