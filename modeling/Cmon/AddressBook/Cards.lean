import Mathlib.Data.Multiset.MapFold
import Cmon.AddressBook.Dialog
import Cmon.AddressBook.ReadBack

/-!
# Address book — cards

What an address book is to its user: cards under keys.  A card has the texts of a contact and its
numbers in no order, without keys and flags; `cards` is the book of cards that the tables stand
for.

* `cards_saveEntry`: a save puts one card under one key, or changes nothing; for both kinds of
  books, for every failure.
* `cards_deleteEntry`: a deletion takes one card away.
* `Read.card`, `Read.owns`: a contact that was read is its card, and however it is edited, its
  phones are new or have their rows.
-/

namespace Cmon
open Library

/-- A contact as its user knows it. -/
structure Card where
  texts : ContactTexts
  phones : Multiset Phone
  deriving DecidableEq

/-- The card of a contact. -/
def Contact.card (c : Contact) : Card := ⟨c.texts, c.phones.map (·.bare)⟩

namespace ContactDb

/-- The numbers of a contact. -/
def cardPhones (s : ContactDb) (k : Int) : Multiset Phone :=
  (s.numbers.filter fun r => r.cref = k).map fun r => (fetchPhone r).bare

/-- **The cards of a book.** -/
def cards (s : ContactDb) (k : Int) : Option Card :=
  (s.contacts.filter fun r => r.id = k).head?.map fun r => ⟨r.texts, s.cardPhones k⟩

/-- The card that is read after a save of the contact, `none` when a text of it is refused. -/
def storedCard (b : BookKind) (c : Contact) : Option Card :=
  (columns b c).map fun m =>
    ⟨toColumns m.texts, m.phones.map fun ph => (fetchPhone (numberRow 0 0 ph)).bare⟩

variable {b : BookKind} {s s' : ContactDb} {c m : Contact} {k : Int}

/-! ### Cards and rows -/

theorem cards_of_row (hs : WF s) {r : ContactRow} (hr : r ∈ s.contacts) :
    cards s r.id = some ⟨r.texts, s.cardPhones r.id⟩ := by
  rw [cards, Table.filter_key_of_nodup hs.contacts.nodup hr rfl]
  rfl

theorem cards_eq_none (h : k ∉ s.contacts.map (·.id)) : cards s k = none := by
  have hnil : (s.contacts.filter fun r => r.id = k) = [] :=
    List.filter_eq_nil_iff.mpr fun r hr e => h (List.mem_map.mpr ⟨r, hr, of_decide_eq_true e⟩)
  rw [cards, hnil]
  rfl

/-- Keys are positive. -/
theorem cards_of_nonpos (hs : WF s) (h : k ≤ 0) : cards s k = none :=
  cards_eq_none fun hk => absurd (hs.contacts.of_mem hk).1 (Int.not_lt.mpr h)

/-- The next key is free. -/
theorem cards_nxtcid (hs : WF s) : cards s s.nxtcid = none :=
  cards_eq_none fun hk => absurd (hs.contacts.of_mem hk).2 (Int.lt_irrefl _)

/-- A card depends on the rows of its key. -/
theorem cards_congr
    (hcontacts : (s'.contacts.filter fun r => r.id = k) = s.contacts.filter fun r => r.id = k)
    (hnumbers : (s'.numbers.filter fun r => r.cref = k) = s.numbers.filter fun r => r.cref = k) :
    cards s' k = cards s k := by
  rw [cards, cards, cardPhones, cardPhones, hcontacts, hnumbers]

/-- The rows of one key, among those that are not another's. -/
theorem filter_id_ne {k' : Int} (h : k ≠ k') (contacts : List ContactRow) :
    ((contacts.filter fun r => r.id ≠ k').filter fun r => r.id = k) =
      contacts.filter fun r => r.id = k := by
  rw [List.filter_filter]
  refine List.filter_congr fun r _ => ?_
  by_cases hr : r.id = k
  · simp [hr, h]
  · simp [hr]

/-- **A save that stores a contact and nothing else** puts its card under its key. -/
theorem StoresOnly.cards {o : Saved} (h : StoresOnly s m o) (hs : WF s) (hwf : WF o.db) :
    cards o.db = Function.update (cards s) o.contact.dbKey (some ⟨toColumns m.texts,
      m.phones.map fun ph => (fetchPhone (numberRow 0 0 ph)).bare⟩) := by
  funext k
  by_cases hk : k = o.contact.dbKey
  · subst hk
    obtain ⟨-, -, htexts, hbare⟩ := Contact.mk.inj h.content
    have hphones : cardPhones o.db o.contact.dbKey =
        m.phones.map fun ph => (fetchPhone (numberRow 0 0 ph)).bare := by
      refine Multiset.coe_eq_coe.mpr ((h.stored.numbers.map _).trans (.of_eq ?_))
      have hrow : ∀ l : List Phone, (l.map fun ph => (fetchPhone (numberRow 0 0 ph)).bare) =
          (l.map (·.bare)).map fun ph => (fetchPhone (numberRow 0 0 ph)).bare := by
        intro l
        rw [List.map_map]
        rfl
      rw [hrow m.phones, ← hbare, ← hrow, List.map_map]
      rfl
    rw [Function.update_self, ContactDb.cards, h.stored.contact, hphones, contactRow, htexts]
    rfl
  · rw [Function.update_of_ne hk]
    by_cases hm : k = m.dbKey
    · -- the contact was a new one, and no card has the key 0
      have h0 : k = 0 := by
        by_contra hne
        exact hk (hm.trans (h.key (hm ▸ hne)).symm)
      rw [cards_of_nonpos hwf h0.le, cards_of_nonpos hs h0.le]
    · refine cards_congr ?_ ?_
      · rw [← filter_id_ne hk, h.contacts, filter_id_ne hm]
      · rw [← filter_cref_ne hk, h.numbers, filter_cref_ne hm]

/-- A deletion takes the card away. -/
theorem cards_deleteEntry (hs : WF s) (c : Contact) :
    cards (deleteEntry c s) = Function.update (cards s) c.dbKey none := by
  rw [deleteEntry_eq hs]
  funext k
  by_cases hk : k = c.dbKey
  · subst hk
    rw [Function.update_self]
    refine cards_eq_none fun hmem => ?_
    obtain ⟨r, hr, hid⟩ := List.mem_map.mp hmem
    exact of_decide_eq_true (List.mem_filter.mp hr).2 hid
  · rw [Function.update_of_ne hk]
    exact cards_congr (filter_id_ne hk _) (filter_cref_ne hk)

/-! ### The save -/

/-- The statements that stand before the deletion of numbers. -/
theorem saveTx_stmts (b : BookKind) (h : c.dbKey = 0 ∨ c.dbKey ∈ s.contacts.map (·.id)) :
    ∃ n, (if c.dbKey = 0 then b.keyStmts else 1) + (c.phones.map (numberStmts b)).sum ≤ n ∧
      Tx.Takes (saveTx b c) s c n () (saved s c).1 (saved s c).2 := by
  have h₁ : Tx.Takes (if c.dbKey = 0 then insertContactTx c b else updateContactTx c) s c
      (if c.dbKey = 0 then b.keyStmts else 1)
      (savedContact s c).2.dbKey (savedContact s c).1 (savedContact s c).2 := by
    rw [savedContact]
    split_ifs
    · exact insertContactTx_takes b s c c
    · exact updateContactTx_takes s c c
  have hrow := mem_savedContact h
  have hphones := savedContact_phones s c
  rw [saved]
  generalize savedContact s c = sc at h₁ hrow hphones ⊢
  obtain ⟨s₁, c₁⟩ := sc
  have hstart : ({ c₁ with phones := [] ++ c.phones } : Contact) = c₁ := by
    rw [List.nil_append, ← hphones]
  have h₂ := saveNumbersTx_takes b hrow c₁ [] c.phones
  rw [hstart, List.nil_append] at h₂
  obtain ⟨n₃, h₃⟩ := deleteNumbersTx_takes c₁.dbKey (savedNumbers c₁.dbKey s₁ c.phones).1
    { c₁ with phones := (savedNumbers c₁.dbKey s₁ c.phones).2 }
    (fun e : c.phones = [] => by rw [e]; rfl)
  exact ⟨_, by omega, h₁.bind (Tx.Takes.bind h₂ h₃)⟩

/-- The refused statement is one of them. -/
theorem refusedAt_le (b : BookKind) (c : Contact) :
    refusedAt b c ≤
      (if c.dbKey = 0 then b.keyStmts else 1) + (c.phones.map (numberStmts b)).sum := by
  have hphones : ((c.phones.takeWhile fun ph => (columnPhone b ph).isSome).map
      (numberStmts b)).sum ≤ (c.phones.map (numberStmts b)).sum := by
    have hsplit := List.takeWhile_append_dropWhile (p := fun ph => (columnPhone b ph).isSome)
      (l := c.phones)
    rw [← congrArg (List.map (numberStmts b)) hsplit, List.map_append, List.sum_append]
    exact Nat.le_add_right _ _
  rw [refusedAt]
  split
  · exact Nat.zero_le _
  · exact Nat.add_le_add_left hphones _

/-- A save that is not committed leaves the tables as they were. -/
theorem insertUpdateEntry_not_committed {fault : Option Nat}
    (h : (insertUpdateEntry b true fault s c).committed = false) :
    RolledBack b s (insertUpdateEntry b true fault s c).db := by
  by_cases hd : c.isDirty.1 = true
  · rw [insertUpdateEntry_dirty hd] at h ⊢
    exact attempt_failed h
  · rw [insertUpdateEntry_clean (by simpa using hd)]
    exact ⟨rfl, rfl, fun _ => rfl, le_refl _, le_refl _⟩

/-- A book that is not usable stays as it is. -/
theorem insertUpdateEntry_not_ok (b : BookKind) (fault : Option Nat) (s : ContactDb)
    (c : Contact) : (insertUpdateEntry b false fault s c).db = s := by
  rw [insertUpdateEntry]
  obtain ⟨dirty, c'⟩ := c.isDirty
  cases dirty <;> rfl

/-- The outcomes of a save: the contact, as the columns store it, is stored and nothing else, or
the tables stay as they were. -/
theorem saveEntry_cases (hs : WF s) (hc : Fits s c) (b : BookKind) (isOk : Bool)
    (fault : Option Nat) :
    WF (saveEntry b isOk fault s c).db ∧
      ((saveEntry b isOk fault s c).committed = false ∧
          (saveEntry b isOk fault s c).db.contacts = s.contacts ∧
          (saveEntry b isOk fault s c).db.numbers = s.numbers ∨
        (saveEntry b isOk fault s c).committed = true ∧ ∃ m o, columns b c = some m ∧
          StoresOnly s m o ∧ o.db = (saveEntry b isOk fault s c).db ∧ m.dbKey = c.dbKey ∧
          o.contact.dbKey = if c.dbKey = 0 then s.nxtcid else c.dbKey) := by
  cases hok : (saveEntry b isOk fault s c).committed with
  | true =>
      obtain ⟨m, hm, hcommitted, hsave⟩ := committed_saveEntry hok
      obtain ⟨hkey, hkeys, -, -⟩ := of_columns hm
      have hfits : Fits s m := hc.of_keys hkey.symm hkeys.symm
      obtain ⟨hstores, hwf⟩ := committed_stores hs hfits hcommitted
      have hnew : (insertUpdateEntry b true fault s m).contact.dbKey =
          if c.dbKey = 0 then s.nxtcid else c.dbKey := by
        obtain ⟨hd, hfree⟩ := committed_free hfits.row hcommitted
        rw [hfree, insertUpdateEntry_free hd hfits.row, ← hkey]
        exact saved_key s (m.setDirty true)
      rw [hsave]
      exact ⟨hwf, .inr ⟨rfl, m, _, hm, hstores, rfl, hkey, hnew⟩⟩
  | false =>
      have hback : RolledBack b s (saveEntry b isOk fault s c).db := by
        rw [saveEntry] at hok ⊢
        cases isOk with
        | false =>
            split <;> exact (insertUpdateEntry_not_ok b _ s _).symm ▸
              ⟨rfl, rfl, fun _ => rfl, le_refl _, le_refl _⟩
        | true =>
            cases hm : columns b c with
            | some m =>
                rw [hm] at hok
                exact insertUpdateEntry_not_committed hok
            | none =>
                -- the transaction does not come past the refused statement
                refine insertUpdateEntry_not_committed ?_
                by_cases hd : c.isDirty.1 = true
                · obtain ⟨n, hle, htakes⟩ := saveTx_stmts (c := c.setDirty true) b hc.row
                  rw [insertUpdateEntry_dirty hd]
                  refine Tx.transact_short htakes ?_
                  have hrefused := refusedAt_le b c
                  have hmin : fault.elim (refusedAt b c) (min (refusedAt b c)) ≤ refusedAt b c := by
                    cases fault with
                    | none => exact le_refl _
                    | some j => exact min_le_left _ _
                  rw [Contact.setDirty_dbKey, Contact.setDirty_phones] at hle
                  omega
                · rw [insertUpdateEntry_clean (by simpa using hd)]
      exact ⟨hback.wf hs, .inl ⟨rfl, hback.contacts, hback.numbers⟩⟩

/-- **What a save does to the cards.**  It is committed, and the card of the contact is put under
its key, the next one if it is new; or they stay as they were. -/
theorem cards_saveEntry (hs : WF s) (hc : Fits s c) (b : BookKind) (isOk : Bool)
    (fault : Option Nat) :
    (saveEntry b isOk fault s c).committed = false ∧
        cards (saveEntry b isOk fault s c).db = cards s ∨
      (saveEntry b isOk fault s c).committed = true ∧ ∃ card, storedCard b c = some card ∧
        cards (saveEntry b isOk fault s c).db = Function.update (cards s)
          (if c.dbKey = 0 then s.nxtcid else c.dbKey) (some card) := by
  obtain ⟨hwf, ⟨hno, hcontacts, hnumbers⟩ | ⟨hok, m, o, hm, hstores, hdb, -, hnew⟩⟩ :=
    saveEntry_cases hs hc b isOk fault
  · exact .inl ⟨hno, funext fun k => cards_congr (by rw [hcontacts]) (by rw [hnumbers])⟩
  · have hcards := hstores.cards hs (hdb ▸ hwf)
    rw [hnew, hdb] at hcards
    exact .inr ⟨hok, _, by rw [storedCard, hm, Option.map_some], hcards⟩

/-! ### A contact that was read -/

/-- The contact has the texts of its row and a phone for each of its numbers. -/
structure Read (s : ContactDb) (c : Contact) : Prop where
  row : ⟨c.dbKey, c.texts⟩ ∈ s.contacts
  phones : c.phones.Perm ((s.numbers.filter fun r => r.cref = c.dbKey).map fetchPhone)

theorem Fetched.read {rows : List (ContactRow × List NumberRow)} (h : Fetched s rows)
    (hc : c ∈ getEntries rows) : Read s c := by
  obtain ⟨row, hrow, rfl⟩ := of_mem_getEntries hc
  obtain ⟨hmem, hperm⟩ := h row hrow
  exact ⟨hmem, hperm.map fetchPhone⟩

/-- **What is shown is the card.** -/
theorem Read.card (h : Read s c) (hs : WF s) : cards s c.dbKey = some c.card := by
  have hcard := cards_of_row hs h.row
  have hphones : s.cardPhones c.dbKey = c.phones.map (·.bare) := by
    refine Multiset.coe_eq_coe.mpr (.trans (.of_eq ?_) (h.phones.symm.map _))
    rw [List.map_map]
    rfl
  rw [Contact.card, ← hphones]
  exact hcard

theorem Read.key_mem (h : Read s c) : c.dbKey ∈ s.contacts.map (·.id) :=
  List.mem_map.mpr ⟨_, h.row, rfl⟩

theorem Read.key_ne (h : Read s c) (hs : WF s) : c.dbKey ≠ 0 :=
  (hs.contacts.of_mem h.key_mem).1.ne'

theorem Read.trim_number (h : Read s c) : ∀ ph ∈ c.phones, trim ph.number = ph.number := by
  intro ph hph
  obtain ⟨r, -, rfl⟩ := List.mem_map.mp (h.phones.subset hph)
  exact trim_trim _

/-- However it is edited, its phones are new or have their rows. -/
theorem Read.owns {d : ContactDialogData} (h : Read s c) (hs : WF s) (he : Edited c d) :
    Owns s c.dbKey d.phones := by
  have hkeys : c.phoneKeys.Perm
      ((s.numbers.filter fun r => r.cref = c.dbKey).map (·.id)) := by
    refine (h.phones.map (·.dbKey)).trans (.of_eq ?_)
    rw [List.map_map]
    rfl
  have hnodup : c.phoneKeys.Nodup :=
    hkeys.nodup_iff.mpr (hs.numbers.nodup.sublist (List.filter_sublist.map _))
  constructor
  · intro ph hph h0
    have hkey : ph.dbKey ∈ c.phoneKeys :=
      he.keys.subset (List.mem_filter.mpr ⟨List.mem_map_of_mem hph, by simpa using h0⟩)
    obtain ⟨r, hr, hid⟩ := List.mem_map.mp (hkeys.subset hkey)
    exact ⟨r, List.mem_of_mem_filter hr, hid, of_decide_eq_true (List.mem_filter.mp hr).2⟩
  · have hpair := List.pairwise_map.mp (List.pairwise_filter.mp (hnodup.sublist he.keys))
    refine hpair.imp fun {a b} hab h0 => ?_
    by_cases hb : b.dbKey = 0
    · rwa [hb]
    · exact hab (by simpa using h0) (by simpa using hb)

/-- Edited from a contact that was read, it fits the tables. -/
theorem Read.fits {d : ContactDialogData} (h : Read s c) (hs : WF s) (he : Edited c d) :
    Fits s (c.ofDialog d) := ⟨.inr h.key_mem, h.owns hs he⟩

/-- A contact that the rows of another key leave alone stays as it was read. -/
theorem Read.congr (h : Read s c)
    (hcontacts : (s'.contacts.filter fun r => r.id = c.dbKey) =
      s.contacts.filter fun r => r.id = c.dbKey)
    (hnumbers : (s'.numbers.filter fun r => r.cref = c.dbKey) =
      s.numbers.filter fun r => r.cref = c.dbKey) : Read s' c := by
  have hmem : (⟨c.dbKey, c.texts⟩ : ContactRow) ∈ s'.contacts.filter fun r => r.id = c.dbKey :=
    hcontacts ▸ List.mem_filter.mpr ⟨h.row, decide_eq_true rfl⟩
  exact ⟨List.mem_of_mem_filter hmem, hnumbers ▸ h.phones⟩

/-- The save of another contact leaves it as it was read. -/
theorem Read.saveEntry {d : Contact} (h : Read s d) (hs : WF s) (hc : Fits s c)
    (hne : d.dbKey ≠ c.dbKey) (b : BookKind) (isOk : Bool) (fault : Option Nat) :
    Read (saveEntry b isOk fault s c).db d := by
  obtain ⟨-, ⟨-, hcontacts, hnumbers⟩ | ⟨-, m, o, -, hstores, hdb, hkey, hnew⟩⟩ :=
    saveEntry_cases hs hc b isOk fault
  · exact h.congr (by rw [hcontacts]) (by rw [hnumbers])
  · have hlt := (hs.contacts.of_mem h.key_mem).2
    have hsaved : d.dbKey ≠ o.contact.dbKey := by
      rw [hnew]
      split_ifs
      · exact hlt.ne
      · exact hne
    rw [← hkey] at hne
    rw [← hdb]
    refine h.congr ?_ ?_
    · rw [← filter_id_ne hsaved, hstores.contacts, filter_id_ne hne]
    · rw [← filter_cref_ne hsaved, hstores.numbers, filter_cref_ne hne]

end ContactDb
end Cmon
