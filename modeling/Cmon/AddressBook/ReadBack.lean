import Mathlib.Data.List.Perm.Subperm
import Cmon.AddressBook.Fetch

/-!
# Address book — what a save gives back

`getEntries` after a save that was committed, and after a deletion, for both kinds of books.  The
columns of a PostgreSQL book have a length (`CPSqlConnection`): a text that is longer is refused,
but blanks behind the limit are cut off without a word.

* `saveEntry`: `insertUpdateEntry`, into columns of the types of the schema.
* `ReadBack`: the contact is read with its texts and phones, the others are read as before, and
  each number belongs to one contact.
* `Fits`, `Uncut`: the contact is new or has its row, its phones are new or have theirs, and no
  text is longer than its column.
* `readBack_iff`: a committed save is read back exactly when the contact fits and is not cut; a
  deletion removes the contact and its numbers.
-/

namespace Cmon
open Library

/-! ### The columns -/

/-- The length of the column of a text, `none` for the type `text`. -/
def BookKind.textLimit : BookKind → TextField → Option Nat
  | .sqlite, _ => none
  | .psql, .sn => some 150
  | .psql, .image => none
  | .psql, _ => some 60

/-- The length of the column `canonical`. -/
def BookKind.canonicalLimit : BookKind → Option Nat
  | .sqlite => none
  | .psql => some 30

/-- The length of the column `note` of the table `numbers`. -/
def BookKind.noteLimit : BookKind → Option Nat
  | .sqlite => none
  | .psql => some 60

/-- What a column stores: a longer text is refused, unless only blanks stand behind the limit. -/
def varchar : Option Nat → String → Option String
  | none, s => some s
  | some n, s =>
      if (s.toList.drop n).all (· = ' ') then some (String.ofList (s.toList.take n)) else none

namespace ContactDb

def columnTexts (b : BookKind) (t : ContactTexts) : Option ContactTexts := do
  let fn ← varchar (b.textLimit .fn) t.fn
  let mn ← varchar (b.textLimit .mn) t.mn
  let ln ← varchar (b.textLimit .ln) t.ln
  let nn ← varchar (b.textLimit .nn) t.nn
  let sn ← varchar (b.textLimit .sn) t.sn
  let title ← varchar (b.textLimit .title) t.title
  let organization ← varchar (b.textLimit .organization) t.organization
  let email ← varchar (b.textLimit .email) t.email
  let image ← varchar (b.textLimit .image) t.image
  pure { fn, mn, ln, nn, sn, title, organization, email, image }

def columnPhone (b : BookKind) (ph : Phone) : Option Phone := do
  let number ← varchar b.canonicalLimit (toAscii ph.number)
  let note ← varchar b.noteLimit (toUTF8 ph.note)
  pure { ph with number, note }

def columnPhones (b : BookKind) : List Phone → Option (List Phone)
  | [] => some []
  | ph :: l => do
      let ph' ← columnPhone b ph
      let l' ← columnPhones b l
      pure (ph' :: l')

/-- The contact with its texts as the columns store them, `none` when one is refused. -/
def columns (b : BookKind) (c : Contact) : Option Contact := do
  let texts ← columnTexts b (toColumns c.texts)
  let phones ← columnPhones b c.phones
  pure { c with texts, phones }

/-- The statement whose value is refused. -/
def refusedAt (b : BookKind) (c : Contact) : Nat :=
  if (columnTexts b (toColumns c.texts)).isNone then 0
  else (if c.dbKey = 0 then b.keyStmts else 1) +
    ((c.phones.takeWhile fun ph => (columnPhone b ph).isSome).map (numberStmts b)).sum

/-- The texts in memory are those of `c`; keys and flags are those of `m`. -/
def withTexts (c m : Contact) : Contact :=
  { m with
    texts := c.texts
    phones := List.zipWith (fun q ph => { q with number := ph.number, note := ph.note })
      m.phones c.phones }

/-- `insertUpdateEntry`, into the columns of the schema. -/
def saveEntry (b : BookKind) (isOk : Bool) (fault : Option Nat) (s : ContactDb) (c : Contact) :
    Saved :=
  match columns b c with
  | some c' =>
      let o := insertUpdateEntry b isOk fault s c'
      { o with contact := withTexts c o.contact }
  | none =>
      let fault := fault.elim (refusedAt b c) (min (refusedAt b c))
      let o := insertUpdateEntry b isOk (some fault) s c
      { o with committed := false }

/-! ### The property and the condition -/

/-- What the statements of `getEntries` give without a filter. -/
def AllFetched (s : ContactDb) (rows : List (ContactRow × List NumberRow)) : Prop :=
  Fetched s rows ∧ (rows.map (·.1)).Perm s.contacts

/-- One contact, its phones in any order. -/
structure Same (c d : Contact) : Prop where
  dbKey : c.dbKey = d.dbKey
  texts : c.texts = d.texts
  phones : c.phones.Perm d.phones

/-- The contact is read as it was saved, by `o` into `s`, and the others as before. -/
structure ReadBack (s : ContactDb) (c : Contact) (o : Saved) : Prop where
  saved : ∀ rows, AllFetched o.db rows → ∃ d ∈ getEntries rows,
    d.dbKey = o.contact.dbKey ∧ d.texts = c.texts ∧
      (d.phones.map (·.bare)).Perm (c.phones.map (·.bare))
  others : ∀ rows rows', AllFetched s rows → AllFetched o.db rows' →
    ∀ d : Contact, d.dbKey ≠ o.contact.dbKey →
      ((∃ d' ∈ getEntries rows', Same d' d) ↔ ∃ d' ∈ getEntries rows, Same d' d)
  belongs : ∀ r ∈ o.db.numbers, ∃! row, row ∈ o.db.contacts ∧ row.id = r.cref

/-- The deletion removes the contact and its numbers. -/
structure Deleted (s : ContactDb) (c : Contact) (s' : ContactDb) : Prop where
  contacts : ∀ rows rows', AllFetched s rows → AllFetched s' rows' → ∀ d : Contact,
    (∃ d' ∈ getEntries rows', Same d' d) ↔
      d.dbKey ≠ c.dbKey ∧ ∃ d' ∈ getEntries rows, Same d' d
  numbers : ∀ r, r ∈ s'.numbers ↔ r ∈ s.numbers ∧ r.cref ≠ c.dbKey

/-- Texts without NUL, numbers and image in ASCII; a number is stored without blanks around it by
`setNumber`. -/
structure Clear (c : Contact) : Prop where
  texts : ∀ f, '\x00' ∉ (c.texts.get f).toList
  image : ∀ ch ∈ c.texts.image.toList, ch.val < 128
  numbers : ∀ ph ∈ c.phones,
    (∀ ch ∈ ph.number.toList, ch.val < 128 ∧ ch ≠ '\x00') ∧ trim ph.number = ph.number
  notes : ∀ ph ∈ c.phones, '\x00' ∉ ph.note.toList

/-- No text is longer than its column. -/
structure Uncut (b : BookKind) (c : Contact) : Prop where
  texts : ∀ f n, b.textLimit f = some n → (c.texts.get f).toList.length ≤ n
  numbers : ∀ ph ∈ c.phones, ∀ n, b.canonicalLimit = some n → ph.number.toList.length ≤ n
  notes : ∀ ph ∈ c.phones, ∀ n, b.noteLimit = some n → ph.note.toList.length ≤ n

/-! ### The columns store what is not cut -/

variable {b : BookKind} {s s' : ContactDb} {c m : Contact} {key : Int} {l : List Phone}

theorem varchar_of_length {n : Option Nat} {val : String}
    (h : ∀ k, n = some k → val.toList.length ≤ k) : varchar n val = some val := by
  cases n with
  | none => rfl
  | some k =>
      have hk := h k rfl
      rw [varchar, List.drop_eq_nil_of_le hk, List.take_of_length_le hk, String.ofList_toList]
      rfl

theorem varchar_length {n : Option Nat} {val val' : String} (h : varchar n val = some val') :
    ∀ k, n = some k → val'.toList.length ≤ k := by
  rintro k rfl
  rw [varchar] at h
  split_ifs at h
  obtain rfl := Option.some.inj h
  rw [String.toList_ofList]
  exact List.length_take_le k _

theorem columnTexts_iff {t t' : ContactTexts} : columnTexts b t = some t' ↔
    ∀ f, varchar (b.textLimit f) (t.get f) = some (t'.get f) := by
  simp only [columnTexts, Option.bind_eq_bind, Option.pure_def, Option.bind_eq_some_iff]
  constructor
  · rintro ⟨_, h₁, _, h₂, _, h₃, _, h₄, _, h₅, _, h₆, _, h₇, _, h₈, _, h₉, ⟨⟩⟩ f
    cases f <;> assumption
  · intro h
    exact ⟨_, h .fn, _, h .mn, _, h .ln, _, h .nn, _, h .sn, _, h .title, _, h .organization, _,
      h .email, _, h .image, rfl⟩

theorem columnPhone_iff {ph ph' : Phone} : columnPhone b ph = some ph' ↔
    ∃ number note, varchar b.canonicalLimit (toAscii ph.number) = some number ∧
      varchar b.noteLimit (toUTF8 ph.note) = some note ∧ ph' = { ph with number, note } := by
  simp only [columnPhone, Option.bind_eq_bind, Option.pure_def, Option.bind_eq_some_iff]
  constructor
  · rintro ⟨number, hnumber, note, hnote, ⟨⟩⟩
    exact ⟨number, note, hnumber, hnote, rfl⟩
  · rintro ⟨number, note, hnumber, hnote, rfl⟩
    exact ⟨number, hnumber, note, hnote, rfl⟩

theorem columnPhones_cons {ph : Phone} {l' : List Phone} :
    columnPhones b (ph :: l) = some l' ↔ ∃ ph' l'', columnPhone b ph = some ph' ∧
      columnPhones b l = some l'' ∧ l' = ph' :: l'' := by
  simp only [columnPhones, Option.bind_eq_bind, Option.pure_def, Option.bind_eq_some_iff]
  constructor
  · rintro ⟨ph', hph, l'', hl, ⟨⟩⟩
    exact ⟨ph', l'', hph, hl, rfl⟩
  · rintro ⟨ph', l'', hph, hl, rfl⟩
    exact ⟨ph', hph, l'', hl, rfl⟩

/-- What is stored of the phones: their keys, and texts that are not longer than the columns. -/
theorem of_columnPhones {l' : List Phone} (h : columnPhones b l = some l') :
    l'.map (·.dbKey) = l.map (·.dbKey) ∧ (∀ ph ∈ l',
      (∀ n, b.canonicalLimit = some n → ph.number.toList.length ≤ n) ∧
        ∀ n, b.noteLimit = some n → ph.note.toList.length ≤ n) := by
  induction l generalizing l' with
  | nil =>
      obtain rfl := Option.some.inj h
      exact ⟨rfl, fun _ hph => absurd hph List.not_mem_nil⟩
  | cons ph l ih =>
      obtain ⟨ph', l'', hph, hl, rfl⟩ := columnPhones_cons.mp h
      obtain ⟨number, note, hnumber, hnote, rfl⟩ := columnPhone_iff.mp hph
      obtain ⟨hkeys, hlengths⟩ := ih hl
      refine ⟨by rw [List.map_cons, List.map_cons, hkeys], fun q hq => ?_⟩
      rcases List.mem_cons.mp hq with rfl | hq
      · exact ⟨varchar_length hnumber, varchar_length hnote⟩
      · exact hlengths q hq

theorem Clear.toColumns (h : Clear c) : toColumns c.texts = c.texts := by
  have htext : ∀ f, toUTF8 (c.texts.get f) = c.texts.get f := fun f =>
    cString_of_noNul (h.texts f)
  have himage : toAscii c.texts.image = c.texts.image :=
    toAscii_of_ascii fun ch hch => ⟨h.image ch hch, fun e => h.texts .image (e ▸ hch)⟩
  rw [ContactDb.toColumns, himage, show toUTF8 c.texts.fn = c.texts.fn from htext .fn,
    show toUTF8 c.texts.mn = c.texts.mn from htext .mn,
    show toUTF8 c.texts.ln = c.texts.ln from htext .ln,
    show toUTF8 c.texts.nn = c.texts.nn from htext .nn,
    show toUTF8 c.texts.sn = c.texts.sn from htext .sn,
    show toUTF8 c.texts.title = c.texts.title from htext .title,
    show toUTF8 c.texts.organization = c.texts.organization from htext .organization,
    show toUTF8 c.texts.email = c.texts.email from htext .email]

/-- A contact that is not cut is stored as it is. -/
theorem columns_of_uncut (h : Clear c) (hcut : Uncut b c) : columns b c = some c := by
  have htexts : columnTexts b c.texts = some c.texts :=
    columnTexts_iff.mpr fun f => varchar_of_length (hcut.texts f)
  have hphones : ∀ l ⊆ c.phones, columnPhones b l = some l := by
    intro l hl
    induction l with
    | nil => rfl
    | cons ph l ih =>
        have hph : ph ∈ c.phones := hl (.head _)
        refine columnPhones_cons.mpr ⟨ph, l, columnPhone_iff.mpr ⟨ph.number, ph.note, ?_, ?_, rfl⟩,
          ih fun q hq => hl (.tail _ hq), rfl⟩
        · rw [toAscii_of_ascii (h.numbers ph hph).1]
          exact varchar_of_length (hcut.numbers ph hph)
        · rw [show toUTF8 ph.note = ph.note from cString_of_noNul (h.notes ph hph)]
          exact varchar_of_length (hcut.notes ph hph)
  rw [columns, h.toColumns, htexts, hphones c.phones (List.Subset.refl _)]
  rfl

/-! ### What is read -/

theorem getEntries_eq (rows : List (ContactRow × List NumberRow)) : getEntries rows =
    rows.map fun row => ⟨row.1.id, false, row.1.texts, row.2.map fetchPhone⟩ := by
  have hloop : ∀ c, fetchEntries c rows =
      rows.map fun row => ⟨row.1.id, false, row.1.texts, row.2.map fetchPhone⟩ := by
    induction rows with
    | nil => exact fun _ => rfl
    | cons row rows ih =>
        intro c
        rw [fetchEntries, ih, List.map_cons, fetchContact]
        simp [Contact.setDirty, Contact.setTexts_texts]
  exact hloop _

/-- Without a filter, every row of a contact is read, and nothing else. -/
theorem exists_same_iff {rows : List (ContactRow × List NumberRow)} (h : AllFetched s rows)
    (d : Contact) : (∃ d' ∈ getEntries rows, Same d' d) ↔
      (⟨d.dbKey, d.texts⟩ : ContactRow) ∈ s.contacts ∧
        ((s.numbers.filter fun r => r.cref = d.dbKey).map fetchPhone).Perm d.phones := by
  obtain ⟨hfetched, hall⟩ := h
  rw [getEntries_eq]
  constructor
  · rintro ⟨d', hd', hkey, htexts, hphones⟩
    obtain ⟨row, hrow, rfl⟩ := List.mem_map.mp hd'
    obtain ⟨hmem, hperm⟩ := hfetched row hrow
    dsimp only at hkey htexts hphones
    rw [← hkey, ← htexts]
    exact ⟨hmem, (hperm.symm.map _).trans hphones⟩
  · rintro ⟨hmem, hphones⟩
    obtain ⟨row, hrow, hfst⟩ := List.mem_map.mp (hall.mem_iff.mpr hmem)
    obtain ⟨-, hperm⟩ := hfetched row hrow
    have hkey : row.1.id = d.dbKey := congrArg ContactRow.id hfst
    refine ⟨_, List.mem_map_of_mem hrow, hkey, congrArg ContactRow.texts hfst, ?_⟩
    rw [hkey] at hperm
    exact (hperm.map _).trans hphones

/-- What `getEntries` may be given. -/
theorem exists_allFetched (s : ContactDb) : ∃ rows, AllFetched s rows := by
  refine ⟨s.contacts.map fun row => (row, s.numbers.filter fun r => r.cref = row.id), ?_, ?_⟩
  · intro row hrow
    obtain ⟨r, hr, rfl⟩ := List.mem_map.mp hrow
    exact ⟨hr, .refl _⟩
  · rw [List.map_map]
    exact .of_eq (List.map_id _)

/-- The numbers of one contact, among those that are not another's. -/
theorem filter_cref_ne {k k' : Int} (h : k ≠ k') {numbers : List NumberRow} :
    ((numbers.filter fun r => r.cref ≠ k').filter fun r => r.cref = k) =
      numbers.filter fun r => r.cref = k := by
  rw [List.filter_filter]
  refine List.filter_congr fun r _ => ?_
  by_cases hr : r.cref = k
  · simp [hr, h]
  · simp [hr]

/-! ### A contact that fits -/

/-- A phone of the contact is read as it was. -/
theorem Clear.bare_fetchPhone (h : Clear c) {ph q : Phone} (hph : ph ∈ c.phones)
    (hq : q.bare = ph.bare) (id cref : Int) :
    (fetchPhone (numberRow id cref q)).bare = ph.bare := by
  rw [numberRow_bare id cref hq]
  show (⟨0, false, ph.type, trim (toAscii ph.number), toUTF8 ph.note⟩ : Phone) = ph.bare
  obtain ⟨hascii, htrim⟩ := h.numbers ph hph
  rw [toAscii_of_ascii hascii, htrim, show toUTF8 ph.note = ph.note from
    cString_of_noNul (h.notes ph hph)]
  rfl

/-- The phones of a stored contact are read. -/
theorem Stored.perm_phones (h : Stored s m) (hbare : m.bare = c.bare) (hc : Clear c) :
    ((s.numbers.filter fun r => r.cref = m.dbKey).map fun r => (fetchPhone r).bare).Perm
      (c.phones.map (·.bare)) := by
  refine (h.numbers.map _).trans (.of_eq ?_)
  have hphones : m.phones.map (·.bare) = c.phones.map (·.bare) := congrArg Contact.phones hbare
  rw [List.map_map, ← hphones]
  refine List.map_congr_left fun q hq => ?_
  have hmem : q.bare ∈ c.phones.map (·.bare) := hphones ▸ List.mem_map_of_mem hq
  obtain ⟨ph, hph, he⟩ := List.mem_map.mp hmem
  exact (hc.bare_fetchPhone hph he.symm _ _).trans he

/-- **A save that stores a contact and nothing else is read back.** -/
theorem StoresOnly.readBack {o : Saved} (h : StoresOnly s c o) (hs : WF s) (hwf : WF o.db)
    (hc : Clear c) : ReadBack s c o := by
  have hbare : o.contact.bare.texts = c.bare.texts := congrArg Contact.texts h.content
  have htexts : o.contact.texts = c.texts := hbare
  have hrow : (⟨o.contact.dbKey, c.texts⟩ : ContactRow) ∈ o.db.contacts := by
    have hmem : contactRow o.contact.dbKey o.contact ∈
        o.db.contacts.filter fun r => r.id = o.contact.dbKey :=
      h.stored.contact ▸ List.mem_singleton_self _
    rw [contactRow, htexts, hc.toColumns] at hmem
    exact List.mem_of_mem_filter hmem
  constructor
  · intro rows hrows
    have hsame := (exists_same_iff hrows ⟨o.contact.dbKey, false, c.texts,
      (o.db.numbers.filter fun r => r.cref = o.contact.dbKey).map fetchPhone⟩).mpr
        ⟨hrow, .refl _⟩
    obtain ⟨d, hd, hkey, hdtexts, hphones⟩ := hsame
    refine ⟨d, hd, hkey, hdtexts, (hphones.map _).trans ?_⟩
    rw [List.map_map]
    exact h.stored.perm_phones h.content hc
  · intro rows rows' hrows hrows' d hd
    rw [exists_same_iff hrows, exists_same_iff hrows']
    by_cases hk : d.dbKey = c.dbKey
    · -- no row has the key of a contact that was a new one
      have h0 : c.dbKey = 0 := by
        by_contra hne
        exact hd (hk.trans (h.key hne).symm)
      have hnone : ∀ {t : ContactDb}, WF t → ⟨d.dbKey, d.texts⟩ ∉ t.contacts := by
        intro t ht hmem
        exact (ht.contacts.ids _ hmem).1.ne' (hk.trans h0)
      exact iff_of_false (fun hmem => hnone hwf hmem.1) (fun hmem => hnone hs hmem.1)
    · have hcontacts : (⟨d.dbKey, d.texts⟩ : ContactRow) ∈ o.db.contacts ↔
          ⟨d.dbKey, d.texts⟩ ∈ s.contacts := by
        have hmem := congrArg ((⟨d.dbKey, d.texts⟩ : ContactRow) ∈ ·) h.contacts
        simpa [hd, hk] using hmem
      have hnumbers : (o.db.numbers.filter fun r => r.cref = d.dbKey) =
          s.numbers.filter fun r => r.cref = d.dbKey := by
        rw [← filter_cref_ne hd, h.numbers, filter_cref_ne hk]
      rw [hcontacts, hnumbers]
  · intro r hr
    obtain ⟨row, hrow, hid⟩ := List.mem_map.mp (hwf.crefs r hr)
    refine ⟨row, ⟨hrow, hid⟩, fun row' hrow' => ?_⟩
    exact List.inj_on_of_nodup_map hwf.contacts.nodup hrow'.1 hrow (hrow'.2.trans hid.symm)

/-! ### A save that is committed -/

/-- A committed save of a contact that is new or has its row is one without a failure. -/
theorem committed_free {fault : Option Nat} (h : c.dbKey = 0 ∨ c.dbKey ∈ s.contacts.map (·.id))
    (hok : (insertUpdateEntry b true fault s c).committed = true) :
    c.isDirty.1 = true ∧
      insertUpdateEntry b true fault s c = insertUpdateEntry b true none s c := by
  by_cases hd : c.isDirty.1 = true
  · obtain ⟨n, hn⟩ := saveTx_takes (c := c.setDirty true) b h
    rw [insertUpdateEntry_dirty hd] at hok ⊢
    rw [insertUpdateEntry_dirty hd]
    rcases Tx.transact_cases (restore b) hn fault with e | e
    · rw [show attempt b fault s (c.setDirty true) = _ from e,
        show attempt b none s (c.setDirty true) = _ from Tx.transact_free hn]
      exact ⟨hd, rfl⟩
    · exact absurd (hok.symm.trans e) Bool.false_ne_true.symm
  · rw [insertUpdateEntry_clean (by simpa using hd)] at hok
    cases hok

/-- A committed save of a contact that fits stores it, and nothing else. -/
theorem committed_stores {fault : Option Nat} (hs : WF s) (h : Fits s c)
    (hok : (insertUpdateEntry b true fault s c).committed = true) :
    StoresOnly s c (insertUpdateEntry b true fault s c) ∧
      WF (insertUpdateEntry b true fault s c).db := by
  obtain ⟨hd, hfree⟩ := committed_free h.row hok
  rw [hfree]
  refine ⟨storesOnly_free hs h hd, ?_⟩
  rw [insertUpdateEntry_free hd h.row]
  exact hs.saved (c := c.setDirty true) h.row

/-- A contact with a key gets no row. -/
theorem keeps_contacts (s₀ : ContactDb) (h : c.dbKey ≠ 0) :
    Tx.Keeps (fun s m => s.contacts.map (·.id) = s₀.contacts.map (·.id) ∧ m.dbKey = c.dbKey)
      (saveTx b c) := by
  have hI : Unconcerned b fun s m =>
      s.contacts.map (·.id) = s₀.contacts.map (·.id) ∧ m.dbKey = c.dbKey :=
    ⟨fun _ _ _ h => h, fun _ _ _ _ h => h, fun _ _ _ h => h⟩
  refine Tx.Keeps.bind ?_ fun key =>
    (keeps_saveNumbersTx hI fun _ _ _ _ _ _ _ h => h).bind fun _ => keeps_deleteNumbersTx hI
  rw [if_neg h]
  exact keeps_updateContactTx fun s m h => ⟨(updateContact_ids _ _ s).trans h.1, h.2⟩

/-- After a committed save, a contact with a key has the row it had, if any. -/
theorem committed_keyed {fault : Option Nat} (h : c.dbKey ≠ 0)
    (hok : (insertUpdateEntry b true fault s c).committed = true) :
    (insertUpdateEntry b true fault s c).contact.dbKey = c.dbKey ∧
      (insertUpdateEntry b true fault s c).db.contacts.map (·.id) = s.contacts.map (·.id) := by
  by_cases hd : c.isDirty.1 = true
  · obtain ⟨ok, s', m, e, hids, hkey⟩ := attempt_keeps (b := b) (c := c.setDirty true)
      (keeps_contacts s h) fault ⟨rfl, rfl⟩
    rw [insertUpdateEntry_dirty hd, e] at hok ⊢
    obtain rfl : ok = true := hok
    exact ⟨hkey, hids⟩
  · rw [insertUpdateEntry_clean (by simpa using hd)] at hok
    cases hok

/-! ### A contact that does not fit -/

/-- A row was there with its id and contact, or was made for a phone. -/
theorem exists_of_mem_savedNumber {r : NumberRow} {ph : Phone}
    (hr : r ∈ (savedNumber key s ph).1.numbers) :
    (∃ r₀ ∈ s.numbers, r₀.id = r.id ∧ r₀.cref = r.cref) ∨
      ph.dbKey = 0 ∧ r.id = (savedNumber key s ph).2.dbKey := by
  by_cases h0 : ph.dbKey = 0
  · rcases of_mem_savedNumber hr with h | ⟨hid, -⟩
    · exact .inl h
    · exact .inr ⟨h0, by rw [savedNumber_key, if_pos h0, hid]⟩
  · rw [savedNumber, if_neg h0] at hr
    exact .inl (of_mem_updateNumber hr)

theorem exists_of_mem_savedNumbers {r : NumberRow} (hr : r ∈ (savedNumbers key s l).1.numbers) :
    (∃ r₀ ∈ s.numbers, r₀.id = r.id ∧ r₀.cref = r.cref) ∨
      r.id ∈ (savedNumbers key s l).2.map (·.dbKey) := by
  induction l generalizing s with
  | nil => exact .inl ⟨r, hr, rfl, rfl⟩
  | cons ph l ih =>
      rw [savedNumbers_cons] at hr ⊢
      rcases ih hr with ⟨r₁, hr₁, hid, hcref⟩ | hmem
      · rcases exists_of_mem_savedNumber hr₁ with ⟨r₀, hr₀, hid₀, hcref₀⟩ | ⟨-, hid₀⟩
        · exact .inl ⟨r₀, hr₀, hid₀.trans hid, hcref₀.trans hcref⟩
        · exact .inr (List.mem_cons.mpr (.inl (hid.symm.trans hid₀)))
      · exact .inr (.tail _ hmem)

/-- When the keys afterwards are different ones, the row with the key of a phone was there. -/
theorem row_of_nodup (h : ((savedNumbers key s l).2.map (·.dbKey)).Nodup) {ph : Phone}
    (hph : ph ∈ l) (h0 : ph.dbKey ≠ 0) {r : NumberRow}
    (hr : r ∈ (savedNumbers key s l).1.numbers) (hid : r.id = ph.dbKey) :
    ∃ r₀ ∈ s.numbers, r₀.id = r.id ∧ r₀.cref = r.cref := by
  induction l generalizing s with
  | nil => exact absurd hph List.not_mem_nil
  | cons q l ih =>
      rw [savedNumbers_cons] at h hr
      obtain ⟨hnot, hnodup⟩ := List.nodup_cons.mp h
      rcases List.mem_cons.mp hph with rfl | hph
      · -- no later row has the key of the first phone
        rcases exists_of_mem_savedNumbers hr with ⟨r₁, hr₁, hid₁, hcref₁⟩ | hmem
        · rcases exists_of_mem_savedNumber hr₁ with ⟨r₀, hr₀, hid₀, hcref₀⟩ | ⟨hnew, -⟩
          · exact ⟨r₀, hr₀, hid₀.trans hid₁, hcref₀.trans hcref₁⟩
          · exact absurd hnew h0
        · have hkey : (savedNumber key s ph).2.dbKey = r.id :=
            ((savedNumber_key key s ph).trans (if_neg h0)).trans hid.symm
          rw [← hkey] at hmem
          exact absurd hmem hnot
      · obtain ⟨r₁, hr₁, hid₁, hcref₁⟩ := ih hnodup hph hr
        rcases exists_of_mem_savedNumber hr₁ with ⟨r₀, hr₀, hid₀, hcref₀⟩ | ⟨-, hid₀⟩
        · exact ⟨r₀, hr₀, hid₀.trans hid₁, hcref₀.trans hcref₁⟩
        · obtain ⟨p, hp, -, hkey⟩ := exists_savedNumbers key (savedNumber key s q).1 hph
          have hmem : (savedNumber key s q).2.dbKey ∈
              (savedNumbers key (savedNumber key s q).1 l).2.map (·.dbKey) :=
            List.mem_map.mpr ⟨p, hp, by rw [hkey h0, ← hid, ← hid₁, hid₀]⟩
          exact absurd hmem hnot

theorem distinct_of_nodup (h : ((savedNumbers key s l).2.map (·.dbKey)).Nodup) :
    l.Pairwise fun a b => a.dbKey ≠ 0 → a.dbKey ≠ b.dbKey := by
  induction l generalizing s with
  | nil => exact .nil
  | cons ph l ih =>
      rw [savedNumbers_cons] at h
      obtain ⟨hnot, hnodup⟩ := List.nodup_cons.mp h
      refine .cons (fun q hq h0 he => ?_) (ih hnodup)
      obtain ⟨p, hp, -, hkey⟩ := exists_savedNumbers key (savedNumber key s ph).1 hq
      have hsaved : (savedNumber key s ph).2.dbKey = ph.dbKey :=
        (savedNumber_key key s ph).trans (if_neg h0)
      exact hnot (List.mem_map.mpr ⟨p, hp, (hkey (he ▸ h0)).trans (he.symm.trans hsaved.symm)⟩)

theorem length_savedNumbers (key : Int) (s : ContactDb) (l : List Phone) :
    (savedNumbers key s l).2.length = l.length := by
  simpa using congrArg List.length (savedNumbers_bare key s l)

/-- **A contact with a row for each phone fits.** -/
theorem owns_of_length (hs : WF s) (hc : c.dbKey = 0 ∨ c.dbKey ∈ s.contacts.map (·.id))
    (h : c.phones.length ≤
      ((saved s c).1.numbers.filter fun r => r.cref = (saved s c).2.dbKey).length) :
    Owns s c.dbKey c.phones := by
  have hids : (((saved s c).1.numbers.filter fun r => r.cref = (saved s c).2.dbKey).map
      (·.id)).Nodup := (hs.saved hc).numbers.nodup.sublist (List.filter_sublist.map _)
  have hsub : ((saved s c).1.numbers.filter fun r => r.cref = (saved s c).2.dbKey).map (·.id) ⊆
      (saved s c).2.phones.map (·.dbKey) := by
    intro id hid
    obtain ⟨r, hr, rfl⟩ := List.mem_map.mp hid
    obtain ⟨hr, hcref⟩ := List.mem_filter.mp hr
    -- the deletion has left the rows with the keys of the phones
    obtain ⟨-, hkept⟩ := List.mem_filter.mp hr
    exact (of_decide_eq_true hkept).resolve_left (not_not.mpr (of_decide_eq_true hcref))
  have hlength : (saved s c).2.phones.length = c.phones.length :=
    length_savedNumbers _ (savedContact s c).1 c.phones
  have hperm := (List.subperm_of_subset hids hsub).perm_of_length_le (by simpa [hlength] using h)
  have hnodup : ((savedNumbers (savedContact s c).2.dbKey (savedContact s c).1 c.phones).2.map
      (·.dbKey)).Nodup := hperm.nodup_iff.mp hids
  refine ⟨fun ph hph h0 => ?_, distinct_of_nodup hnodup⟩
  obtain ⟨q, hq, -, hkey⟩ := exists_saved s hph
  obtain ⟨r, hr, hid⟩ := List.mem_map.mp (hperm.mem_iff.mpr (List.mem_map_of_mem hq))
  obtain ⟨hr, hcref⟩ := List.mem_filter.mp hr
  have hrow : r ∈
      (savedNumbers (savedContact s c).2.dbKey (savedContact s c).1 c.phones).1.numbers :=
    List.mem_of_mem_filter hr
  obtain ⟨r₀, hr₀, hid₀, hcref₀⟩ := row_of_nodup hnodup hph h0 hrow (hid.trans (hkey h0))
  rw [(savedContact_numbers s c).1] at hr₀
  refine ⟨r₀, hr₀, hid₀.trans (hid.trans (hkey h0)), hcref₀.trans ?_⟩
  have hlt := (hs.contacts.of_mem (hs.crefs r₀ hr₀)).2
  rw [hcref₀, of_decide_eq_true hcref, saved_key] at hlt
  rw [of_decide_eq_true hcref, saved_key]
  split_ifs at hlt ⊢ with hnew
  · exact absurd hlt (Int.lt_irrefl _)
  · rfl

/-! ### What follows from a contact that is read -/

/-- The keys of the contact, and texts that are not longer than the columns. -/
theorem of_columns (h : columns b c = some m) : m.dbKey = c.dbKey ∧ m.phoneKeys = c.phoneKeys ∧
    (∀ f n, b.textLimit f = some n → (m.texts.get f).toList.length ≤ n) ∧
    ∀ ph ∈ m.phones, (∀ n, b.canonicalLimit = some n → ph.number.toList.length ≤ n) ∧
      ∀ n, b.noteLimit = some n → ph.note.toList.length ≤ n := by
  simp only [columns, Option.bind_eq_bind, Option.pure_def, Option.bind_eq_some_iff] at h
  obtain ⟨texts, htexts, phones, hphones, ⟨⟩⟩ := h
  obtain ⟨hkeys, hlengths⟩ := of_columnPhones hphones
  exact ⟨rfl, hkeys, fun f => varchar_length (columnTexts_iff.mp htexts f), hlengths⟩

/-- What is read of the contact that was saved: its row and the rows of its numbers. -/
theorem ReadBack.row {o : Saved} (h : ReadBack s c o) : ∃ row ∈ o.db.contacts,
    row.id = o.contact.dbKey ∧ row.texts = c.texts ∧
      ((o.db.numbers.filter fun r => r.cref = o.contact.dbKey).map fun r =>
        (fetchPhone r).bare).Perm (c.phones.map (·.bare)) := by
  obtain ⟨rows, hrows⟩ := exists_allFetched o.db
  obtain ⟨d, hd, hkey, htexts, hphones⟩ := h.saved rows hrows
  obtain ⟨row, hrow, rfl⟩ := of_mem_getEntries hd
  obtain ⟨hmem, hperm⟩ := hrows.1 row hrow
  dsimp only at hkey htexts hphones
  rw [hkey] at hperm
  rw [List.map_map] at hphones
  exact ⟨row.1, hmem, hkey, htexts, (hperm.symm.map _).trans hphones⟩

/-- **A contact that is read back fits.** -/
theorem ReadBack.fits {fault : Option Nat} (hs : WF s) (hm : columns b c = some m)
    (hok : (insertUpdateEntry b true fault s m).committed = true)
    (h : ReadBack s c (insertUpdateEntry b true fault s m)) : Fits s m := by
  obtain ⟨hkey, hkeys, -, -⟩ := of_columns hm
  obtain ⟨row, hrow, hid, -, hnumbers⟩ := h.row
  have hcontact : m.dbKey = 0 ∨ m.dbKey ∈ s.contacts.map (·.id) := by
    by_cases h0 : m.dbKey = 0
    · exact .inl h0
    · obtain ⟨hsame, hids⟩ := committed_keyed h0 hok
      rw [hsame] at hid
      exact .inr (hids ▸ List.mem_map.mpr ⟨row, hrow, hid⟩)
  refine ⟨hcontact, ?_⟩
  obtain ⟨hd, hfree⟩ := committed_free hcontact hok
  rw [hfree, insertUpdateEntry_free hd hcontact] at hnumbers
  have hlength : m.phones.length = c.phones.length := by
    simpa [Contact.phoneKeys] using congrArg List.length hkeys
  refine owns_of_length (c := m.setDirty true) hs hcontact ?_
  have hrows := hnumbers.length_eq
  rw [List.length_map, List.length_map] at hrows
  rw [Contact.setDirty_phones, hlength]
  exact Nat.le_of_eq hrows.symm

theorem length_toUTF8 (val : String) : (toUTF8 val).toList.length ≤ val.toList.length := by
  rw [toUTF8, toList_cString]
  exact List.IsPrefix.length_le ( List.takeWhile_prefix _)

theorem length_toAscii (val : String) : (toAscii val).toList.length ≤ val.toList.length := by
  rw [toAscii, toList_cString, String.toList_ofList]
  exact (List.IsPrefix.length_le ( List.takeWhile_prefix _)).trans_eq (List.length_map _)

theorem length_trim (val : String) : (trim val).toList.length ≤ val.toList.length := by
  rw [toList_trim]
  exact (List.IsPrefix.length_le ( List.rdropWhile_prefix _ _)).trans
    (List.dropWhile_sublist _).length_le

/-- The texts of a row are not longer than those of the contact. -/
theorem length_toColumns (t : ContactTexts) (f : TextField) :
    ((toColumns t).get f).toList.length ≤ (t.get f).toList.length := by
  cases f with
  | image => exact length_toAscii t.image
  | _ => exact length_toUTF8 _

/-- **A contact that is read back is not cut.** -/
theorem ReadBack.uncut {o : Saved} (h : ReadBack s c o) (hstored : Stored o.db o.contact)
    (hm : columns b c = some m) (hbare : o.contact.bare = m.bare) : Uncut b c := by
  obtain ⟨-, -, htextLengths, hphoneLengths⟩ := of_columns hm
  obtain ⟨row, hrow, hid, htexts, hnumbers⟩ := h.row
  have hbareTexts : o.contact.bare.texts = m.bare.texts := congrArg Contact.texts hbare
  have hrowTexts : row.texts = toColumns m.texts := by
    have hmem : row ∈ o.db.contacts.filter fun r => r.id = o.contact.dbKey :=
      List.mem_filter.mpr ⟨hrow, decide_eq_true hid⟩
    rw [hstored.contact, List.mem_singleton] at hmem
    rw [hmem]
    exact congrArg toColumns hbareTexts
  -- each phone was read from a row, which was written for a phone of `m`
  have hphone : ∀ ph ∈ c.phones, ∃ q ∈ m.phones,
      ph.number = trim (toAscii q.number) ∧ ph.note = toUTF8 q.note := by
    intro ph hph
    obtain ⟨r, hr, hread⟩ := List.mem_map.mp (hnumbers.mem_iff.mpr (List.mem_map_of_mem hph))
    obtain ⟨q, hq, rfl⟩ := List.mem_map.mp (hstored.numbers.mem_iff.mp hr)
    have hphones : o.contact.bare.phones = m.bare.phones := congrArg Contact.phones hbare
    have hmem : q.bare ∈ m.bare.phones := hphones ▸ List.mem_map_of_mem hq
    obtain ⟨q', hq', he⟩ := List.mem_map.mp hmem
    rw [numberRow_bare _ _ he.symm] at hread
    exact ⟨q', hq', (congrArg Phone.number hread).symm, (congrArg Phone.note hread).symm⟩
  constructor
  · intro f n hn
    rw [← htexts, hrowTexts]
    exact (length_toColumns m.texts f).trans (htextLengths f n hn)
  · intro ph hph n hn
    obtain ⟨q, hq, hnumber, -⟩ := hphone ph hph
    rw [hnumber]
    exact ((length_trim _).trans (length_toAscii _)).trans ((hphoneLengths q hq).1 n hn)
  · intro ph hph n hn
    obtain ⟨q, hq, -, hnote⟩ := hphone ph hph
    rw [hnote]
    exact (length_toUTF8 _).trans ((hphoneLengths q hq).2 n hn)

/-- A committed save has stored what the columns take. -/
theorem committed_saveEntry {isOk : Bool} {fault : Option Nat}
    (h : (saveEntry b isOk fault s c).committed = true) :
    ∃ m, columns b c = some m ∧ (insertUpdateEntry b true fault s m).committed = true ∧
      saveEntry b isOk fault s c = { insertUpdateEntry b true fault s m with
        contact := withTexts c (insertUpdateEntry b true fault s m).contact } := by
  rw [saveEntry] at h ⊢
  cases hm : columns b c with
  | none =>
      rw [hm] at h
      cases h
  | some m =>
      rw [hm] at h
      cases isOk with
      | true => exact ⟨m, rfl, h, rfl⟩
      | false =>
          have hno : (insertUpdateEntry b false fault s m).committed = false := by
            rw [insertUpdateEntry]
            obtain ⟨dirty, c'⟩ := m.isDirty
            cases dirty <;> rfl
          exact absurd (h.symm.trans hno) Bool.false_ne_true.symm

/-- The keys of `m` are those of `c`. -/
theorem Fits.of_keys (h : Fits s m) (hkey : m.dbKey = c.dbKey)
    (hkeys : m.phoneKeys = c.phoneKeys) : Fits s c :=
  ⟨hkey ▸ h.row, hkey ▸ h.owns.congr hkeys.symm⟩

/-- No row has the key 0. -/
theorem deleteEntry_eq (hs : WF s) (c : Contact) :
    deleteEntry c s = { s with
      contacts := s.contacts.filter fun r => r.id ≠ c.dbKey
      numbers := s.numbers.filter fun r => r.cref ≠ c.dbKey } := by
  rw [deleteEntry]
  split_ifs with h
  · rfl
  · have h0 : c.dbKey = 0 := not_not.mp h
    have hcontacts : (s.contacts.filter fun r => r.id ≠ c.dbKey) = s.contacts :=
      List.filter_eq_self.mpr fun r hr => by simpa [h0] using (hs.contacts.ids r hr).1.ne'
    have hnumbers : (s.numbers.filter fun r => r.cref ≠ c.dbKey) = s.numbers :=
      List.filter_eq_self.mpr fun r hr => by
        simpa [h0] using (hs.contacts.of_mem (hs.crefs r hr)).1.ne'
    rw [hcontacts, hnumbers]

/-- **A deletion removes the contact and its numbers.** -/
theorem deleted_deleteEntry (hs : WF s) (c : Contact) : Deleted s c (deleteEntry c s) := by
  rw [deleteEntry_eq hs]
  constructor
  · intro rows rows' hrows hrows' d
    rw [exists_same_iff hrows, exists_same_iff hrows']
    by_cases hd : d.dbKey = c.dbKey
    · simp [hd]
    · rw [filter_cref_ne hd]
      simp [hd]
  · intro r
    simp

/-- **What a committed save gives back, and what a deletion leaves.** -/
theorem readBack_iff (hs : WF s) :
    (∀ (b : BookKind) (isOk : Bool) (fault : Option Nat) (c : Contact), Clear c →
      (saveEntry b isOk fault s c).committed = true →
        (ReadBack s c (saveEntry b isOk fault s c) ↔ Fits s c ∧ Uncut b c)) ∧
      ∀ c, Deleted s c (deleteEntry c s) := by
  refine ⟨fun b isOk fault c hc hok => ?_, deleted_deleteEntry hs⟩
  obtain ⟨m, hm, hcommitted, hsave⟩ := committed_saveEntry hok
  -- the texts in memory are not read again
  have hcongr : ReadBack s c (saveEntry b isOk fault s c) ↔
      ReadBack s c (insertUpdateEntry b true fault s m) := by
    rw [hsave]
    exact ⟨fun h => ⟨h.saved, h.others, h.belongs⟩, fun h => ⟨h.saved, h.others, h.belongs⟩⟩
  rw [hcongr]
  constructor
  · intro h
    have hfits := h.fits hs hm hcommitted
    obtain ⟨hkey, hkeys, -, -⟩ := of_columns hm
    obtain ⟨hstores, -⟩ := committed_stores hs hfits hcommitted
    exact ⟨hfits.of_keys hkey hkeys, h.uncut hstores.stored hm hstores.content⟩
  · rintro ⟨hfits, hcut⟩
    obtain rfl : c = m := Option.some.inj ((columns_of_uncut hc hcut).symm.trans hm)
    obtain ⟨hstores, hwf⟩ := committed_stores hs hfits hcommitted
    exact hstores.readBack hs hwf hc

/-! ### A contact that is gone -/

/-- A contact with one number, under the keys `key`. -/
def bobWith (key : Int) : Contact :=
  ⟨key, true, { Contact.create.texts with sn := "Bob" }, [⟨key, true, .home, "+49 30 12345", ""⟩]⟩

theorem clear_bobWith (key : Int) : Clear (bobWith key) := by
  refine ⟨fun f => ?_, fun _ hch => absurd hch List.not_mem_nil, ?_, ?_⟩
  · cases f <;> simp only [bobWith, ContactTexts.get] <;> decide +kernel
  · simp only [bobWith, List.forall_mem_singleton]
    exact ⟨List.forall_iff_forall_mem.mp (by decide +kernel), by decide +kernel⟩
  · simp only [bobWith, List.forall_mem_singleton]
    decide +kernel

theorem uncut_sqlite (c : Contact) : Uncut .sqlite c :=
  ⟨fun _ _ h => (nomatch (h : none = some _)), fun _ _ _ h => (nomatch (h : none = some _)),
    fun _ _ _ h => (nomatch (h : none = some _))⟩

/-- A new contact is read back from a new book. -/
theorem readBack_bob :
    ReadBack initial (bobWith 0) (saveEntry .sqlite true none initial (bobWith 0)) :=
  ((readBack_iff WF.initial).1 .sqlite true none (bobWith 0) (clear_bobWith 0)
    (by decide +kernel)).mpr ⟨.of_new rfl (by decide), uncut_sqlite _⟩

/-- The book of `bobWith 1`, after another program has deleted him. -/
def goneBook : ContactDb := ⟨[], [], 2, 2⟩

/-- He is edited and saved: the save is committed, and there is no row of him. -/
theorem gone_not_readBack :
    deleteEntry (bobWith 1) (saveEntry .sqlite true none initial (bobWith 0)).db = goneBook ∧
      ∀ b, (saveEntry b true none goneBook (bobWith 1)).committed = true ∧
        ¬ ReadBack goneBook (bobWith 1) (saveEntry b true none goneBook (bobWith 1)) := by
  refine ⟨by decide +kernel, fun b => ⟨by cases b <;> rfl, fun h => ?_⟩⟩
  obtain ⟨row, hrow, -⟩ := h.row
  have hnone : (saveEntry b true none goneBook (bobWith 1)).db.contacts = [] := by cases b <;> rfl
  rw [hnone] at hrow
  exact absurd hrow List.not_mem_nil

end ContactDb
end Cmon
