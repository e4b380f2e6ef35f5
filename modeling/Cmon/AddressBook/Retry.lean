import Cmon.Library.Run
import Cmon.AddressBook.Rows

/-!
# Address book — a save that is tried again

`insertUpdateEntry` gives the contact and its phones their keys in the middle of the transaction,
and a rollback does not take them back.  As with the journal, what a failed save leaves behind
decides what the next save of the contact does.

* `Repeatable`: the failed save has left the tables as they were, and after any saves of other
  contacts the contact's next save stores it with all its phones and changes no row of another.
* `repeatable_iff`: this holds exactly when the failing statement comes before the first
  `setDbKey`, the contact's or that of its first new phone.
-/

namespace Cmon.ContactDb
open Library

variable {b : BookKind} {s s' : ContactDb} {c m o : Contact} {fault : Option Nat} {k : Nat}

/-! ### The property and the condition -/

/-- `o` is another contact than `c`: it is new or has a row of its own, and no phone of it has
the key of a row of `c`. -/
def Apart (c : Contact) (s : ContactDb) (o : Contact) : Prop :=
  (o.dbKey = 0 ∨ o.dbKey ≠ c.dbKey ∧ o.dbKey ∈ s.contacts.map (·.id)) ∧
    ∀ q ∈ o.phones, ∀ r ∈ s.numbers, r.id = q.dbKey → r.cref ≠ c.dbKey

/-- A save of another contact. -/
def saveOther (b : BookKind) (s : ContactDb) (o : Option Nat × Contact) : ContactDb :=
  (insertUpdateEntry b true o.1 s o.2).db

/-- `o` is a save of `c` into `s` that has stored it and has changed no row of another contact. -/
structure StoresOnly (s : ContactDb) (c : Contact) (o : Saved) : Prop where
  committed : o.committed = true
  content : o.contact.bare = c.bare
  key : c.dbKey ≠ 0 → o.contact.dbKey = c.dbKey
  stored : Stored o.db o.contact
  contacts : (o.db.contacts.filter fun r => r.id ≠ o.contact.dbKey) =
    s.contacts.filter fun r => r.id ≠ c.dbKey
  numbers : (o.db.numbers.filter fun r => r.cref ≠ o.contact.dbKey) =
    s.numbers.filter fun r => r.cref ≠ c.dbKey

/-- The save of `c` into `s` that fails at the statement `k` has left the tables as they were,
and can be repeated at any later time. -/
structure Repeatable (b : BookKind) (k : Nat) (s : ContactDb) (c : Contact) : Prop where
  contacts : (insertUpdateEntry b true (some k) s c).db.contacts = s.contacts
  numbers : (insertUpdateEntry b true (some k) s c).db.numbers = s.numbers
  config : b = .sqlite → (insertUpdateEntry b true (some k) s c).db = s
  retry : ∀ others : List (Option Nat × Contact),
    Along (saveOther b) (fun s o => Apart c s o.2)
        (insertUpdateEntry b true (some k) s c).db others →
      StoresOnly (run (saveOther b) (insertUpdateEntry b true (some k) s c).db others) c
        (insertUpdateEntry b true none
          (run (saveOther b) (insertUpdateEntry b true (some k) s c).db others)
          (insertUpdateEntry b true (some k) s c).contact)

/-- How many statements come before the first `setDbKey`, when there is one. -/
def toFirstKey (b : BookKind) (c : Contact) : Option Nat :=
  if c.dbKey = 0 then some b.keyStmts
  else (c.phones.findIdx? (·.dbKey = 0)).map fun pidx => 1 + (pidx + b.keyStmts)

/-! ### The outcomes of a save -/

theorem isDirty_eq (hd : c.isDirty.1 = true) : c.isDirty = (true, c.setDirty true) := by
  have hflag : (c.dirty || c.phones.any (·.dirty)) = true := hd
  rw [Contact.isDirty, hflag]

/-- The transaction of `insertUpdateEntry`. -/
def attempt (b : BookKind) (fault : Option Nat) (s : ContactDb) (c : Contact) :
    Bool × ContactDb × Contact :=
  Tx.transact (restore b) (saveTx b c) fault s c

theorem insertUpdateEntry_dirty (hd : c.isDirty.1 = true) :
    insertUpdateEntry b true fault s c =
      ⟨(attempt b fault s (c.setDirty true)).2.1,
        if (attempt b fault s (c.setDirty true)).1 then
          (attempt b fault s (c.setDirty true)).2.2.setDirty false
        else (attempt b fault s (c.setDirty true)).2.2,
        (attempt b fault s (c.setDirty true)).1⟩ := by
  rw [insertUpdateEntry, isDirty_eq hd]
  rfl

/-- A contact without flags is not saved. -/
theorem insertUpdateEntry_clean (hd : c.isDirty.1 = false) :
    insertUpdateEntry b true fault s c = ⟨s, c.setDirty false, false⟩ := by
  have hflag : (c.dirty || c.phones.any (·.dirty)) = false := hd
  rw [insertUpdateEntry, Contact.isDirty, hflag]
  rfl

/-- A save without a failure, of a contact that is new or has its row. -/
theorem insertUpdateEntry_free (hd : c.isDirty.1 = true)
    (h : c.dbKey = 0 ∨ c.dbKey ∈ s.contacts.map (·.id)) :
    insertUpdateEntry b true none s c =
      ⟨(saved s (c.setDirty true)).1, (saved s (c.setDirty true)).2.setDirty false, true⟩ := by
  obtain ⟨n, hn⟩ := saveTx_takes (c := c.setDirty true) b h
  have hfree : attempt b none s (c.setDirty true) =
      (true, (saved s (c.setDirty true)).1, (saved s (c.setDirty true)).2) := Tx.transact_free hn
  rw [insertUpdateEntry_dirty hd, hfree]
  rfl

/-! ### What every run of the transaction keeps -/

/-- `I` says nothing about the numbers and about the flags of the phones, and the counter of the
numbers may go up, in an SQLite book to any value. -/
structure Unconcerned (b : BookKind) (I : ContactDb → Contact → Prop) : Prop where
  numbers : ∀ s m l, I s m → I { s with numbers := l } m
  counter : ∀ s m v, (b = .psql → s.nxtnid ≤ v) → I s m → I (setNxtnid v s) m
  flag : ∀ s m pidx, I s m → I s (m.modifyPhone pidx (·.setDirty false))

section
variable {I : ContactDb → Contact → Prop} {key : Int} {pidx : Nat} {ph : Phone} {l : List Phone}

theorem keeps_insertNumberTx (hI : Unconcerned b I)
    (hkey : ∀ s m k, I s m → I s (m.modifyPhone pidx (·.setDbKey k))) :
    Tx.Keeps I (insertNumberTx key pidx ph b) := by
  have hrow : ∀ (row : NumberRow) (s s' : ContactDb) (m : Contact), I s m →
      insertNumber row s = some s' → I s' m := by
    intro row s s' m h e
    rw [insertNumber] at e
    split_ifs at e
    obtain rfl := Option.some.inj e
    exact hI.numbers _ _ _ h
  cases b with
  | sqlite =>
      refine (Tx.Keeps.read _).bind ?_
      intro phonekey
      refine (Tx.Keeps.write fun s m h => hI.counter s m _ (fun e => by cases e) h).bind fun _ => ?_
      refine (Tx.Keeps.stmt fun s m _ s' h e => ?_).bind fun _ => .modMem fun s m h => hkey s m _ h
      obtain ⟨_, e', ⟨⟩⟩ := Option.map_eq_some_iff.mp e
      exact hrow _ s s' m h e'
  | psql =>
      refine (Tx.Keeps.stmt fun s m _ s' h e => ?_).bind fun _ => ?_
      · obtain ⟨_, e', ⟨⟩⟩ := Option.map_eq_some_iff.mp e
        obtain ⟨s₁, e₁, rfl⟩ := Option.map_eq_some_iff.mp e'
        have hnext : s₁.nxtnid = s.nxtnid := by
          rw [insertNumber] at e₁
          split_ifs at e₁
          obtain rfl := Option.some.inj e₁
          rfl
        exact hI.counter s₁ m _ (fun _ => hnext ▸ (Int.lt_succ _).le) (hrow _ s s₁ m h e₁)
      · exact (Tx.Keeps.read _).bind fun _ => .modMem fun s m h => hkey s m _ h

theorem keeps_saveNumberTx (hI : Unconcerned b I)
    (hkey : ph.dbKey = 0 → ∀ s m k, I s m → I s (m.modifyPhone pidx (·.setDbKey k))) :
    Tx.Keeps I (saveNumberTx b key pidx ph) := by
  refine Tx.Keeps.bind ?_ fun _ => .modMem fun s m h => hI.flag s m pidx h
  split_ifs with h0
  · exact keeps_insertNumberTx hI (hkey h0)
  · exact .write fun s m h => hI.numbers s m _ h

theorem keeps_saveNumbersTx (hI : Unconcerned b I)
    (hkey : ∀ i ph, l[i]? = some ph → ph.dbKey = 0 →
      ∀ s m k, I s m → I s (m.modifyPhone (pidx + i) (·.setDbKey k))) :
    Tx.Keeps I (saveNumbersTx b key pidx l) := by
  induction l generalizing pidx with
  | nil => exact .pure ()
  | cons ph l ih =>
      refine (keeps_saveNumberTx hI (hkey 0 ph rfl)).bind fun _ => ih fun i q hq h0 => ?_
      have h := hkey (i + 1) q hq h0
      rwa [← Nat.add_assoc, Nat.add_right_comm] at h

theorem keeps_updateContactTx (h : ∀ s m, I s m → I (updateContact c.dbKey c s) m) :
    Tx.Keeps I (updateContactTx c) :=
  (Tx.Keeps.write h).bind fun _ => .pure _

theorem keeps_deleteNumbersTx (hI : Unconcerned b I) : Tx.Keeps I (deleteNumbersTx key l) := by
  rw [deleteNumbersTx]
  split_ifs
  · exact .write fun s m h => hI.numbers s m _ h
  · exact Tx.Keeps.getMem.bind fun _ => .write fun s m h => hI.numbers s m _ h

end

/-! ### Others -/

/-- The state that a failed transaction leaves: the tables as they were, and counters that have
not gone back. -/
structure RolledBack (b : BookKind) (s s' : ContactDb) : Prop where
  contacts : s'.contacts = s.contacts
  numbers : s'.numbers = s.numbers
  config : b = .sqlite → s' = s
  nxtcid : s.nxtcid ≤ s'.nxtcid
  nxtnid : s.nxtnid ≤ s'.nxtnid

theorem RolledBack.wf (h : RolledBack b s s') (hs : WF s) : WF s' := by
  refine ⟨?_, ?_, ?_⟩
  · rw [h.contacts]
    exact hs.contacts.mono h.nxtcid
  · rw [h.numbers]
    exact hs.numbers.mono h.nxtnid
  · rw [h.contacts, h.numbers]
    exact hs.crefs

/-- The sequences of a PostgreSQL book never go back. -/
theorem keeps_sequences (s₀ : ContactDb) (c : Contact) :
    Tx.Keeps (fun s _ => s₀.nxtcid ≤ s.nxtcid ∧ s₀.nxtnid ≤ s.nxtnid) (saveTx .psql c) := by
  have hI : Unconcerned .psql fun s _ => s₀.nxtcid ≤ s.nxtcid ∧ s₀.nxtnid ≤ s.nxtnid :=
    ⟨fun _ _ _ h => h, fun _ _ _ hv h => ⟨h.1, h.2.trans (hv rfl)⟩, fun _ _ _ h => h⟩
  refine Tx.Keeps.bind ?_ fun key =>
    (keeps_saveNumbersTx hI fun _ _ _ _ _ _ _ h => h).bind fun _ => keeps_deleteNumbersTx hI
  split_ifs
  · refine (Tx.Keeps.write fun s _ h => ?_).bind fun _ => (Tx.Keeps.read _).bind fun _ => ?_
    · exact ⟨h.1.trans (Int.lt_succ s.nxtcid).le, h.2⟩
    · exact Tx.Keeps.bind (.modMem fun _ _ h => h) fun _ => .pure _
  · exact keeps_updateContactTx fun _ _ h => h

theorem attempt_keeps {I : ContactDb → Contact → Prop} (h : Tx.Keeps I (saveTx b c))
    (fault : Option Nat) (hI : I s c) : ∃ ok s' m,
      attempt b fault s c = (ok, if ok then s' else restore b s s', m) ∧ I s' m :=
  Tx.transact_keeps h (restore b) fault hI

theorem attempt_failed (h : (attempt b fault s c).1 = false) :
    RolledBack b s (attempt b fault s c).2.1 := by
  cases b with
  | sqlite =>
      have hs : (attempt .sqlite fault s c).2.1 = s := Tx.transact_rolledBack h
      rw [hs]
      exact ⟨rfl, rfl, fun _ => rfl, le_refl _, le_refl _⟩
  | psql =>
      obtain ⟨ok, s', m, e, hc, hn⟩ := attempt_keeps (keeps_sequences s c) fault
        ⟨le_refl s.nxtcid, le_refl s.nxtnid⟩
      rw [e] at h ⊢
      obtain rfl : ok = false := h
      exact ⟨rfl, rfl, fun h => (by cases h), hc, hn⟩

/-- **The outcomes of a save** of a contact that is new or has its row. -/
theorem insertUpdateEntry_cases (b : BookKind) (fault : Option Nat)
    (h : c.dbKey = 0 ∨ c.dbKey ∈ s.contacts.map (·.id)) :
    (insertUpdateEntry b true fault s c).db = (saved s (c.setDirty true)).1 ∨
      RolledBack b s (insertUpdateEntry b true fault s c).db := by
  by_cases hd : c.isDirty.1 = true
  · obtain ⟨n, hn⟩ := saveTx_takes (c := c.setDirty true) b h
    rw [insertUpdateEntry_dirty hd]
    rcases Tx.transact_cases (restore b) hn fault with e | e
    · exact .inl (congrArg (fun t => t.2.1) e)
    · exact .inr (attempt_failed e)
  · rw [insertUpdateEntry_clean (by simpa using hd)]
    exact .inr ⟨rfl, rfl, fun _ => rfl, le_refl _, le_refl _⟩

/-- **The tables are well formed after any saves,** failed ones among them, of contacts that are
new or have their rows. -/
theorem wf_run (hs : WF s) {saves : List (Option Nat × Contact)}
    (h : Along (saveOther b) (fun s o => o.2.dbKey = 0 ∨ o.2.dbKey ∈ s.contacts.map (·.id))
      s saves) : WF (run (saveOther b) s saves) := by
  refine Along.inv (I := WF) (fun s o hs hrow => ?_) hs h
  rw [saveOther]
  rcases insertUpdateEntry_cases b o.1 hrow with e | hback
  · rw [e]
    exact hs.saved (c := o.2.setDirty true) hrow
  · exact hback.wf hs

/-- A state of the tables that saves of other contacts lead to from `s`: `c` has the rows in it
that it has in `s`. -/
structure Later (c : Contact) (s s' : ContactDb) : Prop where
  wf : WF s'
  contacts : (s'.contacts.filter fun r => r.id = c.dbKey) = s.contacts.filter fun r => r.id = c.dbKey
  numbers : (s'.numbers.filter fun r => r.cref = c.dbKey) = s.numbers.filter fun r => r.cref = c.dbKey

theorem Later.rolledBack (h : WF s) (hr : RolledBack b s s') : Later c s s' :=
  ⟨hr.wf h, by rw [hr.contacts], by rw [hr.numbers]⟩

theorem Later.trans {s'' : ContactDb} (h : Later c s s') (h' : Later c s' s'') : Later c s s'' :=
  ⟨h'.wf, h'.contacts.trans h.contacts, h'.numbers.trans h.numbers⟩

theorem Later.row (h : Later c s s') (hc : c.dbKey = 0 ∨ c.dbKey ∈ s.contacts.map (·.id)) :
    c.dbKey = 0 ∨ c.dbKey ∈ s'.contacts.map (·.id) := by
  refine hc.imp_right ?_
  intro hmem
  obtain ⟨r, hr, hid⟩ := List.mem_map.mp hmem
  have hr' : r ∈ s'.contacts.filter fun r => r.id = c.dbKey := by
    rw [h.contacts]
    exact List.mem_filter.mpr ⟨hr, decide_eq_true hid⟩
  exact List.mem_map.mpr ⟨r, List.mem_of_mem_filter hr', hid⟩

/-- A save of another contact. -/
theorem Later.saveOther (hs : WF s) (hc : c.dbKey = 0 ∨ c.dbKey ∈ s.contacts.map (·.id))
    (ho : Apart c s o) (fault : Option Nat) : Later c s (saveOther b s (fault, o)) := by
  obtain ⟨hrow, hphones⟩ := ho
  have hrow' : o.dbKey = 0 ∨ o.dbKey ∈ s.contacts.map (·.id) := hrow.imp_right And.right
  rw [ContactDb.saveOther]
  rcases insertUpdateEntry_cases b fault hrow' with e | hr
  · rw [e]
    have hne : ¬ (saved s (o.setDirty true)).2.dbKey = c.dbKey := by
      rw [saved_key, Contact.setDirty_dbKey]
      split_ifs with h0
      · intro e
        rcases hc with h | h
        · have := hs.contacts.pos
          omega
        · have := (hs.contacts.of_mem h).2
          omega
      · exact (hrow.resolve_left h0).1
    obtain ⟨hcontacts, hnumbers⟩ := saved_frame (P := fun x => x = c.dbKey) hne hphones
    exact ⟨hs.saved hrow', hcontacts, hnumbers⟩
  · exact .rolledBack hs hr

theorem later_saveOthers {others : List (Option Nat × Contact)} (hs : WF s)
    (hc : c.dbKey = 0 ∨ c.dbKey ∈ s.contacts.map (·.id))
    (ho : Along (ContactDb.saveOther b) (fun s o => Apart c s o.2) s others) :
    Later c s (run (ContactDb.saveOther b) s others) :=
  Along.inv (I := Later c s)
    (fun _ o hl hapart => hl.trans (.saveOther hl.wf (hl.row hc) hapart o.1))
    ⟨hs, rfl, rfl⟩ ho

/-! ### The retry -/

/-- The contact has the keys and the content of `c`; the flags of its phones may differ. -/
structure SameKeys (c m : Contact) : Prop where
  dbKey : m.dbKey = c.dbKey
  phoneKeys : m.phoneKeys = c.phoneKeys
  bare : m.bare = c.bare
  dirty : m.dirty = c.dirty

theorem Owns.congr {key : Int} {l l' : List Phone} (h : Owns s key l)
    (hk : l'.map (·.dbKey) = l.map (·.dbKey)) : Owns s key l' := by
  constructor
  · intro ph hph h0
    have hmem : ph.dbKey ∈ l.map (·.dbKey) := hk ▸ List.mem_map_of_mem hph
    obtain ⟨q, hq, e⟩ := List.mem_map.mp hmem
    rw [← e] at h0 ⊢
    exact h.rows q hq h0
  · have hkeys : (l'.map (·.dbKey)).Pairwise fun a b => a ≠ 0 → a ≠ b := by
      rw [hk]
      exact List.pairwise_map.mpr h.distinct
    exact List.pairwise_map.mp hkeys

/-- A contact that fits the tables fits them later on, as long as its keys are the same. -/
theorem Fits.later (h : Fits s c) (hl : Later c s s') (hm : SameKeys c m) : Fits s' m := by
  constructor
  · rw [hm.dbKey]
    exact hl.row h.row
  · refine Owns.congr ⟨fun ph hph h0 => ?_, h.owns.distinct⟩ hm.phoneKeys
    obtain ⟨r, hr, hid, hcref⟩ := h.owns.rows ph hph h0
    have hr' : r ∈ s'.numbers.filter fun r => r.cref = c.dbKey := by
      rw [hl.numbers]
      exact List.mem_filter.mpr ⟨hr, decide_eq_true hcref⟩
    exact ⟨r, List.mem_of_mem_filter hr', hid, hcref.trans hm.dbKey.symm⟩

/-- The rows with the key of a phone belong to the contact. -/
theorem Fits.cref (h : Fits s c) (hs : WF s) {ph : Phone} (hph : ph ∈ c.phones) {r : NumberRow}
    (hr : r ∈ s.numbers) (hid : r.id = ph.dbKey) : r.cref = c.dbKey ∧ c.dbKey ≠ 0 := by
  have h0 : ph.dbKey ≠ 0 := hid ▸ (hs.numbers.ids r hr).1.ne'
  obtain ⟨r', hr', hid', hcref⟩ := h.owns.rows ph hph h0
  obtain rfl := List.inj_on_of_nodup_map hs.numbers.nodup hr hr' (hid.trans hid'.symm)
  exact ⟨hcref, hcref ▸ (hs.contacts.of_mem (hs.crefs r hr)).1.ne'⟩

/-- **A save without a failure, of a contact that fits, stores it and nothing else.** -/
theorem storesOnly_free (hs : WF s) (hc : Fits s c) (hd : c.isDirty.1 = true) :
    StoresOnly s c (insertUpdateEntry b true none s c) := by
  have hfits : Fits s (c.setDirty true) := ⟨hc.row, hc.owns⟩
  have hkey := saved_key s (c.setDirty true)
  rw [insertUpdateEntry_free hd hc.row]
  have hframe := saved_frame (s := s) (c := c.setDirty true)
    (P := fun x => x ≠ (saved s (c.setDirty true)).2.dbKey) (not_not.mpr rfl)
    fun ph hph r hr hid => by
      obtain ⟨hcref, h0⟩ := hc.cref hs hph hr hid
      rw [hkey, Contact.setDirty_dbKey, if_neg h0]
      exact not_not.mpr hcref
  obtain ⟨hcontacts, hnumbers⟩ := hframe
  -- no row has the key of a new contact, neither before nor after it is given
  have hids : ∀ id ∈ s.contacts.map (·.id),
      (id ≠ (saved s (c.setDirty true)).2.dbKey ↔ id ≠ c.dbKey) := by
    intro id hid
    have hpos := hs.contacts.of_mem hid
    rw [hkey, Contact.setDirty_dbKey]
    split_ifs with h0
    · omega
    · rfl
  refine ⟨rfl, saved_bare s _, fun h0 => ?_, ?_, hcontacts.trans ?_, hnumbers.trans ?_⟩
  · show (saved s (c.setDirty true)).2.dbKey = c.dbKey
    rw [hkey]
    exact if_neg h0
  · have hstored := stored_saved hs hfits
    exact ⟨hstored.contact, hstored.numbers⟩
  · refine List.filter_congr ?_
    intro r hr
    exact decide_eq_decide.mpr (hids r.id (List.mem_map_of_mem hr))
  · refine List.filter_congr ?_
    intro r hr
    exact decide_eq_decide.mpr (hids r.cref (hs.crefs r hr))

/-! ### Where the first key is set -/

theorem phoneKeys_flag (m : Contact) (pidx : Nat) :
    (m.modifyPhone pidx (·.setDirty false)).phoneKeys = m.phoneKeys := by
  refine List.ext_getElem (by simp [Contact.phoneKeys, Contact.modifyPhone]) ?_
  intro i hi _
  simp only [Contact.phoneKeys, Contact.modifyPhone, List.getElem_map, List.getElem_modify]
  split_ifs <;> rfl

theorem bare_flag (m : Contact) (pidx : Nat) :
    (m.modifyPhone pidx (·.setDirty false)).bare = m.bare := by
  have hphones : (m.modifyPhone pidx (·.setDirty false)).phones.map (·.bare) =
      m.phones.map (·.bare) := by
    refine List.ext_getElem (by simp [Contact.modifyPhone]) ?_
    intro i hi _
    simp only [Contact.modifyPhone, List.getElem_map, List.getElem_modify]
    split_ifs <;> rfl
  rw [Contact.bare, hphones]
  rfl

theorem SameKeys.flag (h : SameKeys c m) (pidx : Nat) :
    SameKeys c (m.modifyPhone pidx (·.setDirty false)) :=
  ⟨h.dbKey, (phoneKeys_flag m pidx).trans h.phoneKeys, (bare_flag m pidx).trans h.bare, h.dirty⟩

/-- The contact's key is `key`, and the key of the phone at `i` is `k`. -/
def KeyAt (key : Int) (i : Nat) (k : Int) (m : Contact) : Prop :=
  m.dbKey = key ∧ m.phoneKeys[i]? = some k

theorem KeyAt.flag {key k : Int} {i : Nat} (h : KeyAt key i k m) (pidx : Nat) :
    KeyAt key i k (m.modifyPhone pidx (·.setDirty false)) :=
  ⟨h.1, (phoneKeys_flag m pidx).symm ▸ h.2⟩

theorem KeyAt.setDbKey {key k k' : Int} {i pidx : Nat} (hne : pidx ≠ i) (h : KeyAt key i k m) :
    KeyAt key i k (m.modifyPhone pidx (·.setDbKey k')) := by
  refine ⟨h.1, ?_⟩
  have hold := h.2
  simp only [Contact.phoneKeys, Contact.modifyPhone, List.getElem?_map] at hold ⊢
  rwa [List.getElem?_modify_ne _ _ hne]

theorem unconcerned_mem {I : Contact → Prop}
    (hI : ∀ m pidx, I m → I (m.modifyPhone pidx (·.setDirty false))) :
    Unconcerned b fun _ m => I m :=
  ⟨fun _ _ _ h => h, fun _ _ _ _ h => h, fun _ m pidx h => hI m pidx h⟩

/-- An insert gives the new phone its key after its last statement. -/
theorem turns_insertNumberTx {key : Int} {ph : Phone} {done l : List Phone} {I : Contact → Prop}
    (hkey : key ∈ s.contacts.map (·.id)) (hm : m.phones = done ++ ph :: l) (hI : I m) :
    Tx.Turns (insertNumberTx key done.length ph b) s m b.keyStmts I
      (KeyAt m.dbKey done.length s.nxtnid) := by
  have hset : KeyAt m.dbKey done.length s.nxtnid
      (m.modifyPhone done.length (·.setDbKey s.nxtnid)) := by
    refine ⟨rfl, ?_⟩
    simp [Contact.phoneKeys, Contact.modifyPhone, hm]
  have hturn : ∀ s' : ContactDb, Tx.Turns (Tx.modMem fun c : Contact =>
      c.modifyPhone done.length (·.setDbKey s.nxtnid)) s' m 0 I
        (KeyAt m.dbKey done.length s.nxtnid) := fun _ => .start fun _ => hset
  cases b with
  | sqlite =>
      rw [show BookKind.sqlite.keyStmts = 1 + (1 + (1 + 0)) from rfl]
      refine .later (Tx.Takes.read _ s m) (.read _) hI ?_
      refine .later (Tx.Takes.write _ _ m) (.write fun _ _ h => h) hI ?_
      exact .later (refusable_takes (insertNumber_counted hkey ph) m)
        (.stmt fun _ _ _ _ h _ => h) hI (hturn _)
  | psql =>
      rw [show BookKind.psql.keyStmts = 1 + (1 + 0) from rfl]
      refine .later (refusable_takes (insertNumber_nextval hkey ph) m)
        (.stmt fun _ _ _ _ h _ => h) hI ?_
      exact .later (currval_takes key ph s m) (.read _) hI (hturn _)

/-- The loop gives the first new phone its key, after one statement for each phone before it. -/
theorem turns_saveNumbersTx {key : Int} (done : List Phone) {l : List Phone} {i : Nat}
    (hkey : key ∈ s.contacts.map (·.id)) (hm : SameKeys c { m with phones := done ++ l })
    (hi : l.findIdx? (·.dbKey = 0) = some i) :
    Tx.Turns (saveNumbersTx b key done.length l) s { m with phones := done ++ l } (i + b.keyStmts)
      (SameKeys c) (KeyAt m.dbKey (done.length + i) s.nxtnid) := by
  induction l generalizing s done i with
  | nil => cases hi
  | cons ph l ih =>
      rw [List.findIdx?_cons] at hi
      split_ifs at hi with h0
      · -- this is the phone: the key survives its flag and the later turns
        obtain rfl : 0 = i := Option.some.inj hi
        rw [Nat.zero_add]
        have h0 : ph.dbKey = 0 := of_decide_eq_true h0
        have hturn := turns_insertNumberTx (b := b) (I := SameKeys c) hkey
          (m := { m with phones := done ++ ph :: l }) rfl hm
        refine .bind ?_ fun _ => ?_
        · rw [saveNumberTx]
          rw [if_pos h0]
          exact hturn.bind fun _ => .modMem fun _ _ h => h.flag _
        · refine keeps_saveNumbersTx (unconcerned_mem fun _ _ h => h.flag _) ?_
          intro j q _ _ s' m' k h
          exact h.setDbKey (by omega)
      · have h0 : ph.dbKey ≠ 0 := fun e => h0 (decide_eq_true e)
        obtain ⟨j, hj, rfl⟩ := Option.map_eq_some_iff.mp hi
        have hsaved : savedNumber key s ph = (updateNumber ph.dbKey ph s, ph.setDirty false) :=
          if_neg h0
        have htakes := saveNumberTx_takes b hkey m done l ph
        rw [numberStmts, if_neg h0, hsaved] at htakes
        have hflag := hm.flag done.length
        rw [modifyPhone_at, List.append_cons] at hflag
        have hturn := ih (s := updateNumber ph.dbKey ph s) (done ++ [ph.setDirty false]) hkey hflag hj
        rw [List.length_append, List.append_assoc, List.length_singleton] at hturn
        rw [show j + 1 + b.keyStmts = 1 + (j + b.keyStmts) by omega,
          show done.length + (j + 1) = done.length + 1 + j by omega]
        refine .later htakes ?_ hm hturn
        exact keeps_saveNumberTx (unconcerned_mem fun _ _ h => h.flag _) fun e => absurd e h0

/-- An insert gives the new contact its key after its last statement. -/
theorem turns_insertContactTx {I : Contact → Prop} (hI : I m) :
    Tx.Turns (insertContactTx c b) s m b.keyStmts I fun m => m.dbKey = s.nxtcid := by
  have hturn : ∀ s' : ContactDb, Tx.Turns (do
      Tx.modMem fun c : Contact => c.setDbKey s.nxtcid
      pure s.nxtcid) s' m 0 I fun m => m.dbKey = s.nxtcid := fun _ => .start fun _ => rfl
  cases b with
  | sqlite =>
      rw [show BookKind.sqlite.keyStmts = 1 + (1 + (1 + 0)) from rfl]
      refine .later (Tx.Takes.read _ s m) (.read _) hI ?_
      refine .later (Tx.Takes.write _ _ m) (.write fun _ _ h => h) hI ?_
      exact .later (Tx.Takes.write _ _ m) (.write fun _ _ h => h) hI (hturn _)
  | psql =>
      have hread := Tx.Takes.read (·.nxtcid - 1)
        (setNxtcid (s.nxtcid + 1) (insertContact (contactRow s.nxtcid c) s)) m
      rw [show (setNxtcid (s.nxtcid + 1) _).nxtcid - 1 = s.nxtcid from
        Int.add_sub_cancel _ _] at hread
      rw [show BookKind.psql.keyStmts = 1 + (1 + 0) from rfl]
      refine .later (Tx.Takes.write _ s m) (.write fun _ _ h => h) hI ?_
      exact .later hread (.read _) hI (hturn _)

/-- **Before the statement `toFirstKey` a failure leaves all keys as they were; after it the
contact or one of its phones has a key of a row that is not there.** -/
theorem turns_saveTx {n : Nat} (hc : c.dbKey = 0 ∨ c.dbKey ∈ s.contacts.map (·.id))
    (hn : toFirstKey b c = some n) :
    Tx.Turns (saveTx b c) s c n (SameKeys c) fun m =>
      if c.dbKey = 0 then m.dbKey = s.nxtcid
      else ∃ i : Nat, KeyAt c.dbKey i s.nxtnid m := by
  have hsame : SameKeys c c := ⟨rfl, rfl, rfl, rfl⟩
  rw [toFirstKey] at hn
  rw [saveTx]
  split_ifs at hn ⊢ with h0
  · obtain rfl : b.keyStmts = n := Option.some.inj hn
    have hdbKey : Unconcerned b fun _ m => m.dbKey = s.nxtcid := unconcerned_mem fun _ _ h => h
    refine .bind ?_ fun key => (keeps_saveNumbersTx hdbKey fun _ _ _ _ _ _ _ h => h).bind
      fun _ => keeps_deleteNumbersTx hdbKey
    exact turns_insertContactTx hsame
  · obtain ⟨i, hi, rfl⟩ := Option.map_eq_some_iff.mp hn
    have hkey := hc.resolve_left h0
    have hids : c.dbKey ∈ (updateContact c.dbKey c s).contacts.map (·.id) := by
      rwa [updateContact_ids]
    have hkeyAt : Unconcerned b fun _ m => ∃ i : Nat, KeyAt c.dbKey i s.nxtnid m :=
      unconcerned_mem fun _ pidx ⟨i, h⟩ => ⟨i, h.flag pidx⟩
    refine .later (updateContactTx_takes s c c) (keeps_updateContactTx fun _ _ h => h) hsame ?_
    refine .bind ?_ fun _ => keeps_deleteNumbersTx hkeyAt
    have hturn := turns_saveNumbersTx (b := b) (s := updateContact c.dbKey c s) (m := c) []
      hids hsame hi
    exact ⟨hturn.before, fun k hk => ⟨_, hturn.after k hk⟩⟩

/-- Without a new contact or phone no key is ever set. -/
theorem keeps_sameKeys (hn : toFirstKey b c = none) :
    Tx.Keeps (fun _ m => SameKeys c m) (saveTx b c) := by
  rw [toFirstKey] at hn
  split_ifs at hn with h0
  have hnone := List.findIdx?_eq_none_iff.mp (Option.map_eq_none_iff.mp hn)
  have hsame : Unconcerned b fun _ m => SameKeys c m := unconcerned_mem fun _ _ h => h.flag _
  rw [saveTx]
  rw [if_neg h0]
  refine (keeps_updateContactTx fun _ _ h => h).bind fun key => ?_
  refine Tx.Keeps.bind (keeps_saveNumbersTx hsame fun i ph hph h0 => ?_) fun _ =>
    keeps_deleteNumbersTx hsame
  exact absurd h0 (by simpa using hnone ph (List.mem_of_getElem? hph))

/-- What a failed save leaves. -/
theorem failed_contact (hd : c.isDirty.1 = true)
    (hc : c.dbKey = 0 ∨ c.dbKey ∈ s.contacts.map (·.id))
    (hf : (insertUpdateEntry b true (some k) s c).committed = false) :
    RolledBack b s (insertUpdateEntry b true (some k) s c).db ∧
      ((∀ n, toFirstKey b c = some n → k < n) →
        SameKeys (c.setDirty true) (insertUpdateEntry b true (some k) s c).contact) ∧
      ∀ n, toFirstKey b c = some n → n ≤ k →
        if c.dbKey = 0 then (insertUpdateEntry b true (some k) s c).contact.dbKey = s.nxtcid
        else ∃ i : Nat,
          KeyAt c.dbKey i s.nxtnid (insertUpdateEntry b true (some k) s c).contact := by
  rw [insertUpdateEntry_dirty hd] at hf ⊢
  have hf : (attempt b (some k) s (c.setDirty true)).1 = false := hf
  rw [if_neg (by rw [hf]; exact Bool.false_ne_true)]
  refine ⟨attempt_failed hf, fun hbefore => ?_, fun n hn hk => ?_⟩
  · cases hn : toFirstKey b c with
    | none =>
        obtain ⟨ok, s', m, e, hm⟩ := attempt_keeps (s := s)
          (keeps_sameKeys (c := c.setDirty true) hn) (some k) ⟨rfl, rfl, rfl, rfl⟩
        rw [e]
        exact hm
    | some n => exact Tx.transact_before (turns_saveTx (c := c.setDirty true) hc hn) (hbefore n hn)
  · exact Tx.transact_after (turns_saveTx (c := c.setDirty true) hc hn) hk

theorem dirty_of_committed (h : (insertUpdateEntry b true fault s c).committed = true) :
    c.isDirty.1 = true := by
  by_contra hd
  rw [Bool.not_eq_true] at hd
  have hclean : c.isDirty = (false, c.isDirty.2) := Prod.ext hd rfl
  rw [insertUpdateEntry, hclean] at h
  cases h

/-- A contact with a key that no row has is not stored by its next save. -/
theorem not_storesOnly_of_key {key : Int} (h0 : key ≠ 0) (hm : m.dbKey = key)
    (hnot : key ∉ s.contacts.map (·.id)) :
    ¬ StoresOnly s c (insertUpdateEntry b true none s m) := by
  intro h
  have hkeeps : Tx.Keeps (fun (s : ContactDb) (m : Contact) =>
      m.dbKey = key ∧ key ∉ s.contacts.map (·.id)) (saveTx b (m.setDirty true)) := by
    have hI : Unconcerned b fun (s : ContactDb) (m : Contact) =>
        m.dbKey = key ∧ key ∉ s.contacts.map (·.id) :=
      ⟨fun _ _ _ h => h, fun _ _ _ _ h => h, fun _ _ _ h => h⟩
    have hne : (m.setDirty true).dbKey ≠ 0 := hm ▸ h0
    rw [saveTx]
    rw [if_neg hne]
    refine (keeps_updateContactTx fun s' m' h' => ⟨h'.1, ?_⟩).bind fun _ =>
      (keeps_saveNumbersTx hI fun _ _ _ _ _ _ _ h => h).bind fun _ => keeps_deleteNumbersTx hI
    rw [updateContact_ids]
    exact h'.2
  have hd := dirty_of_committed h.committed
  obtain ⟨ok, s', m', e, hdb⟩ := attempt_keeps hkeeps none ⟨hm, hnot⟩
  rw [insertUpdateEntry_dirty hd, e] at h
  obtain rfl : ok = true := h.committed
  have hrow : contactRow m'.dbKey (m'.setDirty false) ∈
      s'.contacts.filter fun r => r.id = m'.dbKey := by
    have hstored := h.stored.contact
    exact hstored ▸ List.mem_singleton_self _
  refine hdb.2 (List.mem_map.mpr ⟨_, List.mem_of_mem_filter hrow, ?_⟩)
  exact hdb.1

/-- A contact with a phone whose key no row of it has is not stored by its next save. -/
theorem not_storesOnly_of_phoneKey {key : Int} {i : Nat} {n₀ : Int} (hm : KeyAt key i n₀ m)
    (hkey : key ≠ 0) (h0 : n₀ ≠ 0) (hmem : key ∈ s.contacts.map (·.id)) (hlt : n₀ < s.nxtnid)
    (hrow : ∀ r ∈ s.numbers, r.id = n₀ → r.cref ≠ key) :
    ¬ StoresOnly s c (insertUpdateEntry b true none s m) := by
  intro h
  obtain ⟨rfl, hphone⟩ := hm
  rw [insertUpdateEntry_free (dirty_of_committed h.committed) (.inr hmem)] at h
  have hdb : (saved s (m.setDirty true)).2.dbKey = m.dbKey := by
    rw [saved_key]
    exact if_neg hkey
  -- the phone keeps its key, so a row under it would have to be there
  obtain ⟨ph, hph, hk⟩ := List.mem_map.mp (List.mem_of_getElem? hphone)
  obtain ⟨q, hq, -, hqk⟩ := exists_saved (c := m.setDirty true) s hph
  have hqk := hqk (hk ▸ h0)
  rcases of_mem_saved (h.stored.row hq) with ⟨r, hr, hid, hcref⟩ | hle
  · exact hrow r hr (hid.trans (hqk.trans hk)) (hcref.trans hdb)
  · exact absurd (hle.trans_eq (hqk.trans hk)) (not_le.mpr hlt)

/-- Somebody new, with one number. -/
def newcomer : Contact := { Contact.create with dirty := true, phones := [Phone.create .general] }

/-- The tables after a newcomer was saved. -/
theorem saveOther_newcomer (b : BookKind) (s : ContactDb) :
    saveOther b s (none, newcomer) = deleteNumbers s.nxtcid [s.nxtnid]
      (addNumber s.nxtcid (Phone.create .general)
        (setNxtcid (s.nxtcid + 1) (insertContact (contactRow s.nxtcid newcomer) s))) := by
  rw [saveOther, insertUpdateEntry_free (c := newcomer) rfl (.inl rfl)]
  rfl

/-- A contact that has got a key from a save that was rolled back has no row. -/
theorem not_repeatable_of_key (hs : WF s)
    (hback : RolledBack b s (insertUpdateEntry b true (some k) s c).db)
    (hkey : (insertUpdateEntry b true (some k) s c).contact.dbKey = s.nxtcid) :
    ¬ Repeatable b k s c := by
  intro h
  refine not_storesOnly_of_key hs.contacts.pos.ne' hkey ?_ (h.retry [] trivial)
  rw [run_nil, hback.contacts]
  exact fun hmem => absurd (hs.contacts.of_mem hmem).2 (lt_irrefl _)

/-- A phone that has got a key from a save that was rolled back has no row, and once a newcomer
is saved its key may be that of the newcomer's number. -/
theorem not_repeatable_of_phoneKey (hs : WF s) (h0 : c.dbKey ≠ 0)
    (hmem : c.dbKey ∈ s.contacts.map (·.id))
    (hback : RolledBack b s (insertUpdateEntry b true (some k) s c).db) {i : Nat}
    (hi : KeyAt c.dbKey i s.nxtnid (insertUpdateEntry b true (some k) s c).contact) :
    ¬ Repeatable b k s c := by
  intro h
  have hapart : Apart c (insertUpdateEntry b true (some k) s c).db newcomer := by
    refine ⟨.inl rfl, ?_⟩
    intro q hq r hr hid
    obtain rfl := List.mem_singleton.mp hq
    have hpos := (hs.numbers.ids r (hback.numbers ▸ hr)).1
    exact absurd hid hpos.ne'
  have hretry := h.retry [(none, newcomer)] ⟨hapart, trivial⟩
  rw [run_cons, run_nil] at hretry
  revert hretry
  generalize (insertUpdateEntry b true (some k) s c).db = s₁ at hback ⊢
  rw [saveOther_newcomer]
  refine not_storesOnly_of_phoneKey hi h0 hs.numbers.pos.ne' ?_ ?_ ?_
  · show c.dbKey ∈ (s₁.contacts ++ [contactRow s₁.nxtcid newcomer]).map (·.id)
    rw [List.map_append, hback.contacts]
    exact List.mem_append_left _ hmem
  · show s.nxtnid < s₁.nxtnid + 1
    exact Int.lt_add_one_of_le hback.nxtnid
  · -- no number of the contact has the key: the old ones lie below it, the new one is another's
    intro r hr hid hcref
    rcases List.mem_append.mp (List.mem_of_mem_filter hr) with hr | hr
    · have := (hs.numbers.ids r (hback.numbers ▸ hr)).2
      omega
    · obtain rfl := List.mem_singleton.mp hr
      have hlt := (hs.contacts.of_mem hmem).2
      have hle := hback.nxtcid
      have hcref : s₁.nxtcid = c.dbKey := hcref
      omega

/-- A contact that has kept its keys fits the tables at any later time. -/
theorem repeatable_of_sameKeys (hs : WF s) (hc : Fits s c)
    (hback : RolledBack b s (insertUpdateEntry b true (some k) s c).db)
    (hsame : SameKeys (c.setDirty true) (insertUpdateEntry b true (some k) s c).contact) :
    Repeatable b k s c := by
  refine ⟨hback.contacts, hback.numbers, hback.config, ?_⟩
  intro others ho
  have hlater : Later c s (run (saveOther b) (insertUpdateEntry b true (some k) s c).db others) :=
    (Later.rolledBack hs hback).trans
      (later_saveOthers (hback.wf hs) (hback.contacts.symm ▸ hc.row) ho)
  have hfits := Fits.later (c := c.setDirty true) ⟨hc.row, hc.owns⟩
    ⟨hlater.wf, hlater.contacts, hlater.numbers⟩ hsame
  have hstores := storesOnly_free (b := b) hlater.wf hfits ?_
  · exact ⟨hstores.committed, hstores.content.trans hsame.bare,
      fun h0 => (hstores.key (hsame.dbKey ▸ h0)).trans hsame.dbKey, hstores.stored,
      hsame.dbKey ▸ hstores.contacts, hsame.dbKey ▸ hstores.numbers⟩
  · show (_ || _) = true
    rw [hsame.dirty]
    rfl

/-- **A failed save can be repeated exactly when it failed before the first key was set.** -/
theorem repeatable_iff (hs : WF s) (hc : Fits s c) (hd : c.isDirty.1 = true)
    (hf : (insertUpdateEntry b true (some k) s c).committed = false) :
    Repeatable b k s c ↔ ∀ n, toFirstKey b c = some n → k < n := by
  obtain ⟨hback, hbefore, hafter⟩ := failed_contact hd hc.row hf
  constructor
  · intro h n hn
    by_contra hk
    have hkeys := hafter n hn (Nat.le_of_not_lt hk)
    split_ifs at hkeys with h0
    · exact not_repeatable_of_key hs hback hkeys h
    · obtain ⟨i, hi⟩ := hkeys
      exact not_repeatable_of_phoneKey hs h0 (hc.row.resolve_left h0) hback hi h
  · intro h
    exact repeatable_of_sameKeys hs hc hback (hbefore h)

theorem repeatable_newcomer :
    Repeatable .sqlite 1 initial newcomer ↔
      ∀ n, toFirstKey .sqlite newcomer = some n → 1 < n :=
  repeatable_iff WF.initial (.of_new rfl (by decide)) rfl (by decide)

/-- A new contact with a name and one number. -/
def withName (sn number : String) : Contact where
  dbKey := 0
  dirty := true
  texts := { Contact.create.texts with sn }
  phones := [(Phone.create .general).setNumber number]

/-- The insert of a number fails, in both kinds of books: the contact's next save is refused.  In
an SQLite book, after somebody else was saved under the id the contact has kept, it overwrites
that contact's row. -/
theorem phone_fault_overwrites :
    ¬ Repeatable .sqlite 5 initial (withName "Ann" "110") ∧
      ¬ Repeatable .psql 2 initial (withName "Ann" "110") ∧
      let failed := insertUpdateEntry .sqlite true (some 5) initial (withName "Ann" "110")
      let db := saveOther .sqlite failed.db (none, withName "Bob" "112")
      db.contacts = [contactRow 1 (withName "Bob" "112")] ∧
        (insertUpdateEntry .sqlite true none db failed.contact).db.contacts =
          [contactRow 1 (withName "Ann" "110")] := by
  refine ⟨fun h => ?_, fun h => ?_, by decide, by decide⟩
  · have hretry := (h.retry [] trivial).committed
    revert hretry
    decide
  · have hretry := (h.retry [] trivial).committed
    revert hretry
    decide

end Cmon.ContactDb
