import Cmon.AddressBook.Fetch

/-!
# Address book — the contact dialog

`CContactDialogData`, the edits that the dialog and its `CPhoneNumberModel` make of it, and the
way back into the contact.

* `Edited`: what the edits keep of a contact that was read: the phones whose flag is not raised
  are phones of the contact as they were, and the keys are keys of the contact.
* `Edited.unchanged`: when neither the contact nor a phone is flagged, nothing was changed.
* `dialog_saved`: the save leaves the rows that deleting the contact's rows and writing it afresh
  would.
-/

namespace Cmon
open Library

/-! ### The source -/

/-- `CContactDialogData`. -/
structure ContactDialogData where
  texts : ContactTexts
  phones : List Phone
  deriving DecidableEq, Repr

/-- `CContactDialogData::operator=`. -/
def ContactDialogData.ofContact (c : Contact) : ContactDialogData := ⟨c.texts, c.phones⟩

/-- `CContact::operator=` of the dialog's data. -/
def Contact.ofDialog (c : Contact) (d : ContactDialogData) : Contact :=
  let c := c.setTexts d.texts
  { c with dirty := c.dirty || c.phones.length != d.phones.length, phones := d.phones }

/-- An edit: a text or the image, and the methods of `CPhoneNumberModel`.  A new phone starts with
a text in the user's language. -/
inductive DialogEdit where
  | setText (f : TextField) (val : String)
  | addItem (number : String)
  | deleteItem (row : Nat)
  | setType (row : Nat) (val : NumberType)
  | setNumber (row : Nat) (val : String)
  | setNote (row : Nat) (val : String)

namespace ContactDialogData

/-- `SetValueByRow`. -/
def setValueByRow (d : ContactDialogData) (row : Nat) (f : Phone → Phone) : ContactDialogData :=
  { d with phones := d.phones.modify row f }

def edit (d : ContactDialogData) : DialogEdit → ContactDialogData
  | .setText f val => { d with texts := d.texts.set val f }
  | .addItem number => { d with phones := d.phones ++ [(Phone.create .general).setNumber number] }
  | .deleteItem row => { d with phones := d.phones.eraseIdx row }
  | .setType row val => d.setValueByRow row (·.setType val)
  | .setNumber row val => d.setValueByRow row (·.setNumber val)
  | .setNote row val => d.setValueByRow row (·.setNote val)

end ContactDialogData

/-- The contact after the dialog has been closed with OK. -/
def Contact.edited (c : Contact) (edits : List DialogEdit) : Contact :=
  c.ofDialog (run ContactDialogData.edit (.ofContact c) edits)

/-! ### What the edits keep -/

/-- The phones that are not flagged are phones of the contact, and the keys are keys of it. -/
structure Edited (c : Contact) (d : ContactDialogData) : Prop where
  clean : (d.phones.filter fun ph => !ph.dirty).Sublist c.phones
  keys : ((d.phones.map (·.dbKey)).filter (· ≠ 0)).Sublist c.phoneKeys

section
variable {c : Contact} {d : ContactDialogData}

theorem Edited.ofContact : Edited c (.ofContact c) :=
  ⟨List.filter_sublist, List.filter_sublist⟩

/-- A change of phones that raises the flag, or changes nothing, and keeps the key. -/
theorem filter_modify {f : Phone → Phone} {l : List Phone}
    (hf : ∀ ph ∈ l, (f ph).dirty = true ∨ f ph = ph) (row : Nat) :
    ((l.modify row f).filter fun ph => !ph.dirty).Sublist (l.filter fun ph => !ph.dirty) := by
  induction l generalizing row with
  | nil => cases row <;> exact .slnil
  | cons ph l ih =>
      cases row with
      | zero =>
          rw [List.modify_zero_cons]
          rcases hf ph (.head _) with hdirty | he
          · rw [List.filter_cons_of_neg (by simp [hdirty])]
            exact (List.sublist_cons_self ph l).filter _
          · rw [he]
      | succ row =>
          rw [List.modify_succ_cons, List.filter_cons, List.filter_cons]
          have hrest := ih (fun q hq => hf q (.tail _ hq)) row
          split
          · exact hrest.cons_cons ph
          · exact hrest

theorem map_modify_dbKey {f : Phone → Phone} (hf : ∀ ph, (f ph).dbKey = ph.dbKey) (l : List Phone)
    (row : Nat) : (l.modify row f).map (·.dbKey) = l.map (·.dbKey) := by
  induction l generalizing row with
  | nil => cases row <;> rfl
  | cons ph l ih =>
      cases row with
      | zero => rw [List.modify_zero_cons, List.map_cons, List.map_cons, hf]
      | succ row => rw [List.modify_succ_cons, List.map_cons, List.map_cons, ih]

theorem Edited.setValueByRow {f : Phone → Phone} (h : Edited c d)
    (hf : ∀ ph ∈ d.phones, (f ph).dirty = true ∨ f ph = ph) (hk : ∀ ph, (f ph).dbKey = ph.dbKey)
    (row : Nat) : Edited c (d.setValueByRow row f) := by
  constructor
  · exact (filter_modify hf row).trans h.clean
  · show (((d.phones.modify row f).map _).filter _).Sublist _
    rw [map_modify_dbKey hk]
    exact h.keys

/-- **An edit flags the phone it changes.** -/
theorem Edited.edit (h : Edited c d) (hc : ∀ ph ∈ c.phones, trim ph.number = ph.number)
    (e : DialogEdit) : Edited c (d.edit e) := by
  cases e with
  | setText f val => exact ⟨h.clean, h.keys⟩
  | addItem number =>
      constructor
      · show ((d.phones ++ [(Phone.create .general).setNumber number]).filter _).Sublist _
        rw [List.filter_append]
        simpa [Phone.setNumber, Phone.create] using h.clean
      · show (((d.phones ++ [(Phone.create .general).setNumber number]).map _).filter _).Sublist _
        rw [List.map_append, List.filter_append]
        simpa [Phone.setNumber, Phone.create] using h.keys
  | deleteItem row =>
      constructor
      · exact ((List.eraseIdx_sublist d.phones row).filter _).trans h.clean
      · exact (((List.eraseIdx_sublist d.phones row).map _).filter _).trans h.keys
  | setType row val =>
      refine h.setValueByRow (f := (·.setType val)) (fun ph _ => ?_) (fun _ => rfl) row
      by_cases hv : ph.type = val
      · subst hv
        exact .inr (by simp [Phone.setType])
      · exact .inl (by simp [Phone.setType, hv])
  | setNumber row val =>
      refine h.setValueByRow (f := (·.setNumber val)) (fun ph hph => ?_) (fun _ => rfl) row
      by_cases hv : ph.number = val
      · by_cases hd : ph.dirty = true
        · exact .inl (by simp [Phone.setNumber, hd])
        · -- the number of the phone has no blanks around it, as it was read
          have hread : ph ∈ c.phones := h.clean.subset (List.mem_filter.mpr ⟨hph, by simp [hd]⟩)
          subst hv
          exact .inr (by simp [Phone.setNumber, hc ph hread])
      · exact .inl (by simp [Phone.setNumber, hv])
  | setNote row val =>
      refine h.setValueByRow (f := (·.setNote val)) (fun ph _ => ?_) (fun _ => rfl) row
      by_cases hv : ph.note = val
      · subst hv
        exact .inr (by simp [Phone.setNote])
      · exact .inl (by simp [Phone.setNote, hv])

theorem Edited.run (hc : ∀ ph ∈ c.phones, trim ph.number = ph.number) (edits : List DialogEdit) :
    Edited c (run ContactDialogData.edit (.ofContact c) edits) :=
  run_inv (fun _ e h => h.edit hc e) .ofContact edits

theorem ofDialog_isDirty : (c.ofDialog d).isDirty.1 = true ↔
    c.dirty = true ∨ c.texts ≠ d.texts ∨ c.phones.length ≠ d.phones.length ∨
      ∃ ph ∈ d.phones, ph.dirty = true := by
  simp [Contact.isDirty, Contact.ofDialog, Contact.setTexts_dirty, or_assoc]

/-- **When nothing is flagged, nothing was changed.** -/
theorem Edited.unchanged (h : Edited c d) (hd : (c.ofDialog d).isDirty.1 = false) :
    c.texts = d.texts ∧ d.phones = c.phones := by
  have hnot : ¬ (c.ofDialog d).isDirty.1 = true := by simp [hd]
  rw [ofDialog_isDirty] at hnot
  push Not at hnot
  obtain ⟨-, htexts, hlen, hph⟩ := hnot
  have hall : (d.phones.filter fun ph => !ph.dirty) = d.phones :=
    List.filter_eq_self.mpr fun ph hmem => by simpa using hph ph hmem
  have hsub := h.clean
  rw [hall] at hsub
  exact ⟨htexts, hsub.eq_of_length hlen.symm⟩

/-- The keys of the phones are those of rows of the contact, each for one phone. -/
theorem Edited.owns {s : ContactDb} (h : Edited c d) (hs : s.WF) (hc : s.Stored c) :
    s.Owns c.dbKey d.phones := by
  have hnodup := hc.nodup_keys hs
  constructor
  · intro ph hph h0
    have hkey : ph.dbKey ∈ c.phoneKeys :=
      h.keys.subset (List.mem_filter.mpr ⟨List.mem_map_of_mem hph, by simpa using h0⟩)
    obtain ⟨q, hq, hid⟩ := List.mem_map.mp hkey
    exact ⟨_, hc.row hq, hid, rfl⟩
  · have hpair := List.pairwise_map.mp (List.pairwise_filter.mp (hnodup.sublist h.keys))
    refine hpair.imp fun {a b} hab h0 => ?_
    by_cases hb : b.dbKey = 0
    · rwa [hb]
    · exact hab (by simpa using h0) (by simpa using hb)

end

/-! ### The save -/

/-- A number without its id. -/
def NumberRow.bare (r : NumberRow) : NumberRow := { r with id := 0 }

namespace ContactDb

/-- The contact's rows are deleted, and the contact is written afresh. -/
def rewritten (s : ContactDb) (c : Contact) : ContactDb :=
  c.phones.foldl (fun s ph => addNumber c.dbKey ph s)
    (insertContact (contactRow c.dbKey c) (deleteEntry c s))

/-- The rows of the contact `key` are the same, up to the ids of numbers. -/
structure SameRows (key : Int) (s s' : ContactDb) : Prop where
  contact : (s.contacts.filter fun r => r.id = key) = s'.contacts.filter fun r => r.id = key
  numbers : ((s.numbers.filter fun r => r.cref = key).map NumberRow.bare).Perm
    ((s'.numbers.filter fun r => r.cref = key).map NumberRow.bare)

/-- The contact `c'`, edited from `c`, is saved into `s`, and `s'` are the tables then. -/
structure TakenOver (s : ContactDb) (c c' : Contact) (s' : ContactDb) : Prop where
  flagged : c'.bare ≠ c.bare → c'.isDirty.1 = true
  rows : SameRows c.dbKey s' (rewritten s c')
  kept : ∀ ph ∈ c'.phones, ph.dbKey ≠ 0 →
    (s'.numbers.filter fun r => r.id = ph.dbKey) = [numberRow ph.dbKey c.dbKey ph]
  deleted : ∀ r ∈ s.numbers, r.cref = c.dbKey → r.id ∉ c'.phoneKeys → r.id ∉ s'.numbers.map (·.id)

variable {s : ContactDb} {c : Contact}

theorem foldl_addNumber_numbers (key : Int) (s : ContactDb) (l : List Phone) :
    ((l.foldl (fun s ph => addNumber key ph s) s).numbers.filter fun r => r.cref = key).map
        NumberRow.bare =
      (s.numbers.filter fun r => r.cref = key).map NumberRow.bare ++ l.map (numberRow 0 key) := by
  induction l generalizing s with
  | nil => simp
  | cons ph l ih =>
      rw [List.foldl_cons, ih]
      simp [addNumber, numberRow, NumberRow.bare]

theorem foldl_addNumber_contacts (key : Int) (s : ContactDb) (l : List Phone) :
    (l.foldl (fun s ph => addNumber key ph s) s).contacts = s.contacts := by
  induction l generalizing s with
  | nil => rfl
  | cons ph l ih => exact ih _

/-- What a contact that is written afresh has in the tables. -/
theorem rewritten_rows (h0 : c.dbKey ≠ 0) (s : ContactDb) :
    ((rewritten s c).contacts.filter fun r => r.id = c.dbKey) = [contactRow c.dbKey c] ∧
      ((rewritten s c).numbers.filter fun r => r.cref = c.dbKey).map NumberRow.bare =
        c.phones.map (numberRow 0 c.dbKey) := by
  constructor
  · rw [rewritten, foldl_addNumber_contacts, insertContact, deleteEntry, if_pos h0]
    simp [contactRow]
  · rw [rewritten, foldl_addNumber_numbers, insertContact, deleteEntry, if_pos h0]
    simp

/-- A contact that is stored has the rows that it would have if it were written afresh. -/
theorem Stored.sameRows {s s' : ContactDb} (h : Stored s' c) (h0 : c.dbKey ≠ 0) {c' : Contact}
    (hkey : c'.dbKey = c.dbKey) (hbare : c.bare = c'.bare) :
    SameRows c.dbKey s' (rewritten s c') := by
  obtain ⟨hcontact, hnumbers⟩ := rewritten_rows (c := c') (hkey ▸ h0) s
  rw [hkey] at hcontact hnumbers
  obtain ⟨-, -, htexts, hphones⟩ := Contact.mk.inj hbare
  constructor
  · rw [h.contact, hcontact, contactRow, contactRow, htexts]
  · rw [hnumbers]
    refine (h.numbers.map NumberRow.bare).trans (.of_eq ?_)
    have hrow : ∀ l : List Phone, l.map (numberRow 0 c.dbKey) =
        (l.map (·.bare)).map (numberRow 0 c.dbKey) := by
      intro l
      rw [List.map_map]
      rfl
    rw [List.map_map, hrow c'.phones, ← hphones, ← hrow c.phones]
    rfl

/-- A row of the contact is that of a phone. -/
theorem Stored.exists_phone {r : NumberRow} (h : Stored s c) (hr : r ∈ s.numbers)
    (hcref : r.cref = c.dbKey) : ∃ ph ∈ c.phones, ph.dbKey = r.id := by
  have hmem : r ∈ s.numbers.filter fun r => r.cref = c.dbKey :=
    List.mem_filter.mpr ⟨hr, by simpa using hcref⟩
  obtain ⟨ph, hph, rfl⟩ := List.mem_map.mp (h.numbers.subset hmem)
  exact ⟨ph, hph, rfl⟩

/-- The contact after a save that has stored `c'`, with the keys that its phones had and new
ones. -/
structure Became (s : ContactDb) (c c' : Contact) (s' : ContactDb) (m : Contact) : Prop where
  wf : WF s'
  stored : Stored s' m
  key : m.dbKey = c.dbKey
  content : m.bare = c'.bare
  phones : ∀ ph ∈ c'.phones, ∃ q ∈ m.phones,
    q.bare = ph.bare ∧ (ph.dbKey ≠ 0 → q.dbKey = ph.dbKey)
  keys : ∀ q ∈ m.phones, (∃ ph ∈ c'.phones, q.dbKey = ph.dbKey) ∨ s.nxtnid ≤ q.dbKey
  rows : ∀ r ∈ s'.numbers,
    (∃ r₀ ∈ s.numbers, r₀.id = r.id ∧ r₀.cref = r.cref) ∨ s.nxtnid ≤ r.id

theorem Became.takenOver {s' : ContactDb} {c' m : Contact} (h : Became s c c' s' m) (hs : WF s)
    (h0 : c.dbKey ≠ 0) (hkey : c'.dbKey = c.dbKey)
    (hflag : c'.bare ≠ c.bare → c'.isDirty.1 = true) : TakenOver s c c' s' := by
  refine ⟨hflag, ?_, fun ph hph hk => ?_, fun r hr hcref hout hin => ?_⟩
  · have hrows := h.stored.sameRows (s := s) (h.key ▸ h0) (hkey.trans h.key.symm) h.content
    rwa [h.key] at hrows
  · obtain ⟨q, hq, hbare, hid⟩ := h.phones ph hph
    have hrow := h.stored.row hq
    rw [numberRow_bare _ _ hbare, hid hk, h.key] at hrow
    exact Table.filter_key_of_nodup h.wf.numbers.nodup hrow rfl
  · obtain ⟨r', hr', hid⟩ := List.mem_map.mp hin
    have hlt := (hs.numbers.ids r hr).2
    -- the row that is left is the old one, so it belongs to the contact and has a phone
    rcases h.rows r' hr' with ⟨r₀, hr₀, hid₀, hcref₀⟩ | hle
    · obtain rfl := List.inj_on_of_nodup_map hs.numbers.nodup hr₀ hr (hid₀.trans hid)
      obtain ⟨q, hq, hqid⟩ := h.stored.exists_phone hr' (hcref₀.symm.trans (hcref.trans h.key.symm))
      rcases h.keys q hq with ⟨ph, hph, hk⟩ | hle
      · exact hout (List.mem_map.mpr ⟨ph, hph, hk.symm.trans (hqid.trans hid)⟩)
      · omega
    · omega

/-- **An edited contact is saved as if its rows were deleted and it was written afresh.** -/
theorem dialog_saved (steps : List BookStep) (hsteps : Along bookStep Savable initial steps) :
    let s := run bookStep initial steps
    ∀ rows, Fetched s rows → ∀ c ∈ getEntries rows, ∀ edits : List DialogEdit,
      TakenOver s c (c.edited edits)
        (insertUpdateEntry .sqlite true none s (c.edited edits)).db := by
  intro s rows hrows c hc edits
  obtain ⟨hs, hw⟩ : WF s ∧ AsWritten s := written_run ⟨WF.initial, AsWritten.initial⟩ hsteps
  have hst : Stored s c := stored_fetched hs hw hrows hc
  have hkey : (c.edited edits).dbKey = c.dbKey := rfl
  have hrow := hst.has_row
  have h0 : c.dbKey ≠ 0 := (hs.contacts.of_mem hrow).1.ne'
  have htrim : ∀ ph ∈ c.phones, trim ph.number = ph.number := by
    obtain ⟨row, -, rfl⟩ := of_mem_getEntries hc
    intro ph hph
    obtain ⟨r, -, rfl⟩ := List.mem_map.mp hph
    exact trim_trim _
  have he := Edited.run htrim edits
  by_cases hd : (c.edited edits).isDirty.1 = true
  · have hfits : Fits s ((c.edited edits).setDirty true) := ⟨.inr hrow, he.owns hs hst⟩
    have hstored := stored_saved hs hfits
    rw [insertUpdateEntry_free hd (.inr hrow)]
    refine Became.takenOver (m := (saved s ((c.edited edits).setDirty true)).2)
      ⟨hs.saved hfits.row, hstored, ?_, saved_bare s _, fun ph hph => exists_saved s hph,
        fun q hq => saved_keys (c := (c.edited edits).setDirty true) hq,
        fun r hr => of_mem_saved hr⟩ hs h0 hkey fun _ => hd
    rw [saved_key]
    exact if_neg h0
  · have hd : (c.edited edits).isDirty.1 = false := by simpa using hd
    obtain ⟨htexts, hphones⟩ := he.unchanged hd
    have hbare : c.bare = (c.edited edits).bare := by
      rw [Contact.bare, Contact.bare, Contact.edited, Contact.ofDialog, Contact.setTexts_texts,
        htexts, hphones]
    rw [insertUpdateEntry_clean hd]
    refine Became.takenOver (m := c) ⟨hs, hst, rfl, hbare,
      fun ph hph => ⟨ph, ?_, rfl, fun _ => rfl⟩, fun q hq => .inl ⟨q, ?_, rfl⟩,
      fun r hr => .inl ⟨r, hr, rfl, rfl⟩⟩ hs h0 hkey
      fun hne => absurd hbare.symm hne
    · exact hphones ▸ hph
    · show q ∈ (run ContactDialogData.edit (.ofContact c) edits).phones
      rwa [hphones]

/-- A phone is deleted, one is added and one is changed, and the contact is renamed. -/
theorem dialog_saved_renamed :
    let c₀ : Contact := { Contact.create with
      dirty := true
      phones := [(Phone.create .home).setNumber "+49 30 12", (Phone.create .cell).setNumber "7"] }
    let steps : List BookStep := [.insertUpdateEntry none c₀]
    let s := run bookStep initial steps
    let rows : List (ContactRow × List NumberRow) := [(⟨1, c₀.texts⟩, s.numbers)]
    let edits : List DialogEdit := [.setText .sn "Ada", .deleteItem 0, .addItem "110",
      .setNumber 0 " 8 "]
    Along bookStep Savable initial steps ∧ Fetched s rows ∧ ∀ c ∈ getEntries rows,
      TakenOver s c (c.edited edits)
        (insertUpdateEntry .sqlite true none s (c.edited edits)).db := by
  intro c₀ steps s rows edits
  have hsteps : Along bookStep Savable initial steps := by
    refine ⟨⟨.inl rfl, fun ph hph => ?_⟩, trivial⟩
    have hph : ph = (Phone.create .home).setNumber "+49 30 12" ∨
        ph = (Phone.create .cell).setNumber "7" := by simpa [c₀] using hph
    rcases hph with rfl | rfl
    · exact ⟨"+49 30 12", by decide, rfl⟩
    · exact ⟨"7", by decide, rfl⟩
  have hrows : Fetched s rows := by decide +kernel
  exact ⟨hsteps, hrows, fun c hc => dialog_saved steps hsteps rows hrows c hc edits⟩

end ContactDb
end Cmon
