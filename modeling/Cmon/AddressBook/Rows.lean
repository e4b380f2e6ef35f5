import Mathlib.Data.List.Nodup
import Cmon.AddressBook.Save

/-!
# Address book — the rows of a contact

What `saved` does to the tables.

* `WF`: ids are unique and lie below the counters, and every number belongs to a contact.
  `WF.saved` is its preservation.
* `Stored`: the rows of the contact's keys are its texts and its phones, and there are no others.
  `stored_saved` says that a save stores a contact that `Fits` the tables: a new one, or one whose
  keys are those of its rows.
* `saved_frame`: a save leaves the rows of other contacts as they are.
-/

namespace Cmon.ContactDb
open Library

variable {s s' : ContactDb} {c : Contact} {key : Int} {ph : Phone} {l : List Phone}

/-! ### What is asked of tables and contacts -/

/-- Ids are unique and lie below the counters, and every number belongs to a contact. -/
structure WF (s : ContactDb) : Prop where
  contacts : Table.Counted (·.id) s.nxtcid s.contacts
  numbers : Table.Counted (·.id) s.nxtnid s.numbers
  crefs : ∀ r ∈ s.numbers, r.cref ∈ s.contacts.map (·.id)

theorem WF.initial : WF initial := ⟨.nil, .nil, fun _ h => absurd h List.not_mem_nil⟩

/-- The keys of the phones are those of rows of the contact, each for one phone. -/
structure Owns (s : ContactDb) (key : Int) (l : List Phone) : Prop where
  rows : ∀ ph ∈ l, ph.dbKey ≠ 0 → ∃ r ∈ s.numbers, r.id = ph.dbKey ∧ r.cref = key
  distinct : l.Pairwise fun a b => a.dbKey ≠ 0 → a.dbKey ≠ b.dbKey

/-- The contact is new or has its row, and its phones are new or have theirs. -/
structure Fits (s : ContactDb) (c : Contact) : Prop where
  row : c.dbKey = 0 ∨ c.dbKey ∈ s.contacts.map (·.id)
  owns : Owns s c.dbKey c.phones

/-- A contact without keys fits any tables. -/
theorem Fits.of_new (h0 : c.dbKey = 0) (h : ∀ ph ∈ c.phones, ph.dbKey = 0) : Fits s c := by
  refine ⟨.inl h0, fun ph hph hk => absurd (h ph hph) hk, ?_⟩
  exact List.pairwise_iff_forall_sublist.mpr fun hsub hk =>
    absurd (h _ (hsub.subset (.head _))) hk

/-- The tables have the rows of the contact, and no others under its key. -/
structure Stored (s : ContactDb) (c : Contact) : Prop where
  contact : (s.contacts.filter fun r => r.id = c.dbKey) = [contactRow c.dbKey c]
  numbers : (s.numbers.filter fun r => r.cref = c.dbKey).Perm
    (c.phones.map fun ph => numberRow ph.dbKey c.dbKey ph)

theorem Stored.row (h : Stored s c) (hph : ph ∈ c.phones) :
    numberRow ph.dbKey c.dbKey ph ∈ s.numbers :=
  List.mem_of_mem_filter (h.numbers.mem_iff.mpr (List.mem_map_of_mem hph))

theorem Stored.has_row (h : Stored s c) : c.dbKey ∈ s.contacts.map (·.id) := by
  have hrow : contactRow c.dbKey c ∈ s.contacts.filter fun r => r.id = c.dbKey := by
    rw [h.contact]
    exact List.mem_singleton_self _
  exact List.mem_map.mpr ⟨_, List.mem_of_mem_filter hrow, rfl⟩

theorem Stored.nodup_keys (h : Stored s c) (hs : WF s) : c.phoneKeys.Nodup := by
  have hids : ((s.numbers.filter fun r => r.cref = c.dbKey).map (·.id)).Nodup :=
    hs.numbers.nodup.sublist (List.filter_sublist.map _)
  have hkeys := ((h.numbers.map (·.id)).nodup_iff).mp hids
  rwa [List.map_map] at hkeys

/-- A contact that is stored fits: its keys are those of its rows. -/
theorem Stored.fits (h : Stored s c) (hs : WF s) : Fits s c := by
  refine ⟨.inr h.has_row, fun ph hph _ => ⟨_, h.row hph, rfl, rfl⟩, ?_⟩
  · have hne : c.phones.Pairwise fun a b => a.dbKey ≠ b.dbKey :=
      List.pairwise_map.mp (h.nodup_keys hs)
    refine hne.imp ?_
    intro a b hab _
    exact hab

/-! ### A phone -/

theorem updateNumber_ids (key : Int) (ph : Phone) (s : ContactDb) :
    (updateNumber key ph s).numbers.map (·.id) = s.numbers.map (·.id) :=
  Table.keys_update fun _ hr => hr

theorem mem_updateNumber_of_ne {r : NumberRow} (hk : r.id ≠ key) :
    r ∈ (updateNumber key ph s).numbers ↔ r ∈ s.numbers :=
  Table.mem_update_of_ne (fun r (hr : r.id = key) => (hr : (numberRow r.id r.cref ph).id = key)) hk

/-- An update keeps the ids and the contacts of the rows. -/
theorem of_mem_updateNumber {r : NumberRow} (hr : r ∈ (updateNumber key ph s).numbers) :
    ∃ r₀ ∈ s.numbers, r₀.id = r.id ∧ r₀.cref = r.cref := by
  by_cases hk : r.id = key
  · obtain ⟨r₀, hr₀, -, rfl⟩ := Table.exists_of_mem_update hr hk
    exact ⟨r₀, hr₀, rfl, rfl⟩
  · exact ⟨r, (mem_updateNumber_of_ne hk).mp hr, rfl, rfl⟩

theorem savedNumber_key (key : Int) (s : ContactDb) (ph : Phone) :
    (savedNumber key s ph).2.dbKey = if ph.dbKey = 0 then s.nxtnid else ph.dbKey := by
  rw [savedNumber]
  split_ifs <;> rfl

theorem savedNumber_bare (key : Int) (s : ContactDb) (ph : Phone) :
    (savedNumber key s ph).2.bare = ph.bare := by
  rw [savedNumber]
  split_ifs <;> rfl

theorem savedNumber_nxtnid (key : Int) (s : ContactDb) (ph : Phone) :
    (savedNumber key s ph).1.nxtnid = if ph.dbKey = 0 then s.nxtnid + 1 else s.nxtnid := by
  rw [savedNumber]
  split_ifs <;> rfl

/-- The rows keep their ids and contacts. -/
theorem exists_savedNumber (key : Int) (ph : Phone) {r : NumberRow} (hr : r ∈ s.numbers) :
    ∃ r' ∈ (savedNumber key s ph).1.numbers, r'.id = r.id ∧ r'.cref = r.cref := by
  rw [savedNumber]
  split_ifs
  · exact ⟨r, List.mem_append_left _ hr, rfl, rfl⟩
  · by_cases hk : r.id = ph.dbKey
    · exact ⟨numberRow r.id r.cref ph, Table.mem_update_self hr hk, rfl, rfl⟩
    · exact ⟨r, (mem_updateNumber_of_ne hk).mpr hr, rfl, rfl⟩

/-- A row was there with its id and contact, or is a new one. -/
theorem of_mem_savedNumber {r : NumberRow} (hr : r ∈ (savedNumber key s ph).1.numbers) :
    (∃ r₀ ∈ s.numbers, r₀.id = r.id ∧ r₀.cref = r.cref) ∨ r.id = s.nxtnid ∧ r.cref = key := by
  rw [savedNumber] at hr
  split_ifs at hr with h0
  · rcases List.mem_append.mp hr with hr | hr
    · exact .inl ⟨r, hr, rfl, rfl⟩
    · obtain rfl := List.mem_singleton.mp hr
      exact .inr ⟨rfl, rfl⟩
  · exact .inl (of_mem_updateNumber hr)

/-- A row whose id is not the phone's key stays. -/
theorem mem_savedNumber {r : NumberRow} (hr : r ∈ s.numbers) (hk : r.id ≠ ph.dbKey) :
    r ∈ (savedNumber key s ph).1.numbers := by
  rw [savedNumber]
  split_ifs
  · exact List.mem_append_left _ hr
  · exact (mem_updateNumber_of_ne hk).mpr hr

theorem numberRow_bare (id cref : Int) {ph ph' : Phone} (h : ph.bare = ph'.bare) :
    numberRow id cref ph = numberRow id cref ph' := by
  obtain ⟨-, -, htype, hnumber, hnote⟩ := Phone.mk.inj h
  rw [numberRow, htype, hnumber, hnote, numberRow]

/-- The phone has its row. -/
theorem row_savedNumber (h : ph.dbKey ≠ 0 → ∃ r ∈ s.numbers, r.id = ph.dbKey ∧ r.cref = key) :
    numberRow (savedNumber key s ph).2.dbKey key (savedNumber key s ph).2 ∈
      (savedNumber key s ph).1.numbers := by
  rw [numberRow_bare _ _ (savedNumber_bare key s ph), savedNumber_key]
  rw [savedNumber]
  split_ifs with h0
  · exact List.mem_append_right _ (List.mem_singleton_self _)
  · obtain ⟨r, hr, hid, hcref⟩ := h h0
    have hrow := Table.mem_update_self (f := fun r => numberRow r.id r.cref ph) hr hid
    rwa [hid, hcref] at hrow

theorem WF.savedNumber (h : WF s) (hkey : key ∈ s.contacts.map (·.id)) (ph : Phone) :
    WF (savedNumber key s ph).1 := by
  rw [ContactDb.savedNumber]
  split_ifs
  · refine ⟨h.contacts, h.numbers.append rfl, ?_⟩
    intro r hr
    rcases List.mem_append.mp hr with hr | hr
    · exact h.crefs r hr
    · obtain rfl := List.mem_singleton.mp hr
      exact hkey
  · refine ⟨h.contacts, h.numbers.of_keys (updateNumber_ids ph.dbKey ph s), ?_⟩
    intro r hr
    obtain ⟨r₀, hr₀, -, hcref⟩ := of_mem_updateNumber hr
    exact hcref ▸ h.crefs r₀ hr₀

/-- The rows of contacts that the phone's key does not concern are left as they are. -/
theorem savedNumber_frame {P : Int → Prop} [DecidablePred P] (hkey : ¬ P key)
    (hph : ∀ r ∈ s.numbers, r.id = ph.dbKey → ¬ P r.cref) :
    ((savedNumber key s ph).1.numbers.filter fun r => P r.cref) =
      s.numbers.filter fun r => P r.cref := by
  rw [savedNumber]
  split_ifs
  · show (s.numbers ++ [numberRow s.nxtnid key ph]).filter _ = _
    rw [List.filter_append, List.filter_singleton]
    simp [numberRow, hkey]
  · exact Table.filter_update fun r hr hk => ⟨hph r hr hk, hph r hr hk⟩

/-! ### The phones -/

theorem savedNumbers_cons (key : Int) (s : ContactDb) (ph : Phone) (l : List Phone) :
    savedNumbers key s (ph :: l) =
      ((savedNumbers key (savedNumber key s ph).1 l).1,
        (savedNumber key s ph).2 :: (savedNumbers key (savedNumber key s ph).1 l).2) := rfl

theorem savedNumbers_contacts (key : Int) (s : ContactDb) (l : List Phone) :
    (savedNumbers key s l).1.contacts = s.contacts := by
  induction l generalizing s with
  | nil => rfl
  | cons ph l ih =>
      rw [savedNumbers_cons]
      exact (ih _).trans (savedNumber_contacts key s ph)

theorem nxtnid_le_savedNumber (key : Int) (s : ContactDb) (ph : Phone) :
    s.nxtnid ≤ (savedNumber key s ph).1.nxtnid := by
  rw [savedNumber_nxtnid]
  split_ifs
  · exact (Int.lt_succ _).le
  · exact le_refl _

theorem savedNumbers_bare (key : Int) (s : ContactDb) (l : List Phone) :
    (savedNumbers key s l).2.map (·.bare) = l.map (·.bare) := by
  induction l generalizing s with
  | nil => rfl
  | cons ph l ih =>
      rw [savedNumbers_cons, List.map_cons, List.map_cons, ih, savedNumber_bare]

theorem WF.savedNumbers (h : WF s) (hkey : key ∈ s.contacts.map (·.id)) (l : List Phone) :
    WF (savedNumbers key s l).1 := by
  induction l generalizing s with
  | nil => exact h
  | cons ph l ih =>
      have hkey' : key ∈ (ContactDb.savedNumber key s ph).1.contacts.map (·.id) := by
        rwa [savedNumber_contacts]
      exact ih (h.savedNumber hkey ph) hkey'

theorem savedNumbers_frame {P : Int → Prop} [DecidablePred P] (hkey : ¬ P key)
    (hl : ∀ ph ∈ l, ∀ r ∈ s.numbers, r.id = ph.dbKey → ¬ P r.cref) :
    ((savedNumbers key s l).1.numbers.filter fun r => P r.cref) =
      s.numbers.filter fun r => P r.cref := by
  induction l generalizing s with
  | nil => rfl
  | cons ph l ih =>
      have hrest : ∀ q ∈ l, ∀ r ∈ (savedNumber key s ph).1.numbers,
          r.id = q.dbKey → ¬ P r.cref := by
        intro q hq r hr hid
        rcases of_mem_savedNumber hr with ⟨r₀, hr₀, hid₀, hcref⟩ | ⟨-, hcref⟩
        · exact hcref ▸ hl q (.tail _ hq) r₀ hr₀ (hid₀.trans hid)
        · exact hcref ▸ hkey
      exact (ih hrest).trans (savedNumber_frame hkey (hl ph (.head _)))

/-- A row was there with its id and contact, or is a new one. -/
theorem of_mem_savedNumbers {r : NumberRow} (hr : r ∈ (savedNumbers key s l).1.numbers) :
    (∃ r₀ ∈ s.numbers, r₀.id = r.id ∧ r₀.cref = r.cref) ∨ s.nxtnid ≤ r.id := by
  induction l generalizing s with
  | nil => exact .inl ⟨r, hr, rfl, rfl⟩
  | cons ph l ih =>
      rcases ih hr with ⟨r₁, hr₁, hid, hcref⟩ | hid
      · rcases of_mem_savedNumber hr₁ with ⟨r₀, hr₀, hid₀, hcref₀⟩ | ⟨hid₀, -⟩
        · exact .inl ⟨r₀, hr₀, hid₀.trans hid, hcref₀.trans hcref⟩
        · exact .inr (hid₀.symm.trans hid).le
      · exact .inr ((nxtnid_le_savedNumber key s ph).trans hid)

/-- A row whose id is no phone's key stays. -/
theorem mem_savedNumbers {r : NumberRow} (hr : r ∈ s.numbers) (hk : ∀ ph ∈ l, r.id ≠ ph.dbKey) :
    r ∈ (savedNumbers key s l).1.numbers := by
  induction l generalizing s with
  | nil => exact hr
  | cons ph l ih =>
      exact ih (mem_savedNumber hr (hk ph (.head _))) fun q hq => hk q (.tail _ hq)

/-- The keys afterwards: the old ones, and new ones. -/
theorem savedNumbers_keys {q : Phone} (hq : q ∈ (savedNumbers key s l).2) :
    (∃ ph ∈ l, ph.dbKey ≠ 0 ∧ q.dbKey = ph.dbKey) ∨ s.nxtnid ≤ q.dbKey := by
  induction l generalizing s with
  | nil => exact absurd hq List.not_mem_nil
  | cons ph l ih =>
      rw [savedNumbers_cons] at hq
      rcases List.mem_cons.mp hq with hhead | hq
      · rw [hhead, savedNumber_key]
        split_ifs with h0
        · exact .inr (le_refl _)
        · exact .inl ⟨ph, .head _, h0, rfl⟩
      · rcases ih hq with ⟨ph', hph', h0, hk⟩ | hk
        · exact .inl ⟨ph', .tail _ hph', h0, hk⟩
        · exact .inr ((nxtnid_le_savedNumber key s ph).trans hk)

/-- Every phone is there afterwards, with the key it had. -/
theorem exists_savedNumbers (key : Int) (s : ContactDb) (hph : ph ∈ l) :
    ∃ q ∈ (savedNumbers key s l).2, q.bare = ph.bare ∧ (ph.dbKey ≠ 0 → q.dbKey = ph.dbKey) := by
  induction l generalizing s with
  | nil => exact absurd hph List.not_mem_nil
  | cons ph' l ih =>
      rcases List.mem_cons.mp hph with rfl | hph
      · exact ⟨_, .head _, savedNumber_bare key s ph,
          fun h0 => (savedNumber_key key s ph).trans (if_neg h0)⟩
      · obtain ⟨q, hq, hk⟩ := ih _ hph
        exact ⟨q, .tail _ hq, hk⟩

theorem Owns.lt (h : Owns s key l) (hs : WF s) : ∀ ph ∈ l, ph.dbKey < s.nxtnid := by
  intro ph hph
  by_cases h0 : ph.dbKey = 0
  · rw [h0]
    exact hs.numbers.pos
  · obtain ⟨r, hr, hid, -⟩ := h.rows ph hph h0
    exact hid ▸ (hs.numbers.ids r hr).2

theorem Owns.tail (h : Owns s key (ph :: l)) :
    Owns (savedNumber key s ph).1 key l := by
  refine ⟨fun q hq h0 => ?_, (List.pairwise_cons.mp h.distinct).2⟩
  obtain ⟨r, hr, hid, hcref⟩ := h.rows q (.tail _ hq) h0
  obtain ⟨r', hr', hid', hcref'⟩ := exists_savedNumber key ph hr
  exact ⟨r', hr', hid'.trans hid, hcref'.trans hcref⟩

/-- The key that a phone is given is none of the other phones'. -/
theorem Owns.key_ne (h : Owns s key (ph :: l)) (hs : WF s) :
    ∀ q ∈ l, (savedNumber key s ph).2.dbKey ≠ q.dbKey := by
  intro q hq
  rw [savedNumber_key]
  split_ifs with h0
  · exact (h.lt hs q (.tail _ hq)).ne'
  · exact (List.pairwise_cons.mp h.distinct).1 q hq h0

/-- **The phones have their rows, each its own.** -/
theorem savedNumbers_rows (hs : WF s) (hkey : key ∈ s.contacts.map (·.id)) (h : Owns s key l) :
    (∀ q ∈ (savedNumbers key s l).2,
      numberRow q.dbKey key q ∈ (savedNumbers key s l).1.numbers) ∧
    ((savedNumbers key s l).2.map (·.dbKey)).Nodup := by
  induction l generalizing s with
  | nil => exact ⟨fun _ hq => absurd hq List.not_mem_nil, List.nodup_nil⟩
  | cons ph l ih =>
      have hkey' : key ∈ (savedNumber key s ph).1.contacts.map (·.id) := by
        rwa [savedNumber_contacts]
      obtain ⟨hrows, hnodup⟩ := ih (hs.savedNumber hkey ph) hkey' h.tail
      have hne := h.key_ne hs
      rw [savedNumbers_cons]
      constructor
      · intro q hq
        rcases List.mem_cons.mp hq with rfl | hq
        · exact mem_savedNumbers (row_savedNumber (h.rows ph (.head _))) hne
        · exact hrows q hq
      · refine List.nodup_cons.mpr ⟨fun hmem => ?_, hnodup⟩
        obtain ⟨q, hq, hk⟩ := List.mem_map.mp hmem
        rcases savedNumbers_keys hq with ⟨ph', hph', -, hk'⟩ | hk'
        · exact hne ph' hph' (hk.symm.trans hk')
        · -- a later new key lies behind the counter, which is behind this phone's key
          have hle : (savedNumber key s ph).1.nxtnid ≤ (savedNumber key s ph).2.dbKey :=
            hk'.trans_eq hk
          rw [savedNumber_key, savedNumber_nxtnid] at hle
          have hlt := h.lt hs ph (.head _)
          split_ifs at hle <;> omega

/-! ### The save -/

theorem savedContact_numbers (s : ContactDb) (c : Contact) :
    (savedContact s c).1.numbers = s.numbers ∧ (savedContact s c).1.nxtnid = s.nxtnid := by
  rw [savedContact]
  split_ifs <;> exact ⟨rfl, rfl⟩

theorem savedContact_key (s : ContactDb) (c : Contact) :
    (savedContact s c).2.dbKey = if c.dbKey = 0 then s.nxtcid else c.dbKey := by
  rw [savedContact]
  split_ifs <;> rfl

theorem updateContact_ids (key : Int) (c : Contact) (s : ContactDb) :
    (updateContact key c s).contacts.map (·.id) = s.contacts.map (·.id) :=
  Table.keys_update fun _ hr => hr

theorem WF.savedContact (h : WF s) (c : Contact) : WF (savedContact s c).1 := by
  rw [ContactDb.savedContact]
  split_ifs
  · refine ⟨h.contacts.append rfl, h.numbers, ?_⟩
    intro r hr
    show r.cref ∈ (s.contacts ++ [contactRow s.nxtcid c]).map (·.id)
    rw [List.map_append]
    exact List.mem_append_left _ (h.crefs r hr)
  · refine ⟨h.contacts.of_keys (updateContact_ids c.dbKey c s), h.numbers, ?_⟩
    rw [updateContact_ids]
    exact h.crefs

theorem WF.deleteNumbers (h : WF s) (key : Int) (keys : List Int) :
    WF (deleteNumbers key keys s) :=
  ⟨h.contacts, h.numbers.sublist List.filter_sublist,
    fun r hr => h.crefs r (List.mem_of_mem_filter hr)⟩

/-- **A save keeps the tables well formed.** -/
theorem WF.saved (h : WF s) (hc : c.dbKey = 0 ∨ c.dbKey ∈ s.contacts.map (·.id)) :
    WF (saved s c).1 :=
  ((h.savedContact c).savedNumbers (mem_savedContact hc) c.phones).deleteNumbers _ _

/-- The phones of the contact, once it has its row, are new or have theirs. -/
theorem Fits.owns_saved (h : Fits s c) (hs : WF s) :
    Owns (savedContact s c).1 (savedContact s c).2.dbKey c.phones := by
  refine ⟨fun ph hph h0 => ?_, h.owns.distinct⟩
  obtain ⟨r, hr, hid, hcref⟩ := h.owns.rows ph hph h0
  -- no row belongs to a contact without a key
  have hc : c.dbKey ≠ 0 := by
    have := (hs.contacts.of_mem (hs.crefs r hr)).1
    omega
  rw [savedContact_key, if_neg hc, (savedContact_numbers s c).1]
  exact ⟨r, hr, hid, hcref⟩

theorem savedContact_texts (s : ContactDb) (c : Contact) :
    (savedContact s c).2.texts = c.texts := by
  rw [savedContact]
  split_ifs <;> rfl

theorem saved_contacts (s : ContactDb) (c : Contact) :
    (saved s c).1.contacts = (savedContact s c).1.contacts := savedNumbers_contacts _ _ _

/-- The row of a contact after the save. -/
theorem savedContact_row (hs : WF s) (hc : c.dbKey = 0 ∨ c.dbKey ∈ s.contacts.map (·.id)) :
    ((savedContact s c).1.contacts.filter fun r => r.id = (savedContact s c).2.dbKey) =
      [contactRow (savedContact s c).2.dbKey c] := by
  rw [savedContact_key]
  rw [savedContact]
  split_ifs with h0
  · show (s.contacts ++ [contactRow s.nxtcid c]).filter _ = _
    have hnone : (s.contacts.filter fun r => r.id = s.nxtcid) = [] :=
      List.filter_eq_nil_iff.mpr fun r hr => by simpa using (hs.contacts.ids r hr).2.ne
    rw [List.filter_append, hnone]
    simp [contactRow]
  · obtain ⟨r, hr, hid⟩ := List.mem_map.mp (hc.resolve_left h0)
    have hupd : ((updateContact c.dbKey c s).contacts.filter fun r => r.id = c.dbKey) =
        (s.contacts.filter fun r => r.id = c.dbKey).map fun r => contactRow r.id c :=
      Table.filter_update_self fun _ h => h
    rw [Table.filter_key_of_nodup hs.contacts.nodup hr hid] at hupd
    exact hupd.trans (by rw [List.map_singleton, hid])

/-- **A save stores a contact that fits the tables.** -/
theorem stored_saved (hs : WF s) (hc : Fits s c) : Stored (saved s c).1 (saved s c).2 := by
  have hrow := savedContact_row hs hc.row
  have hkey := mem_savedContact hc.row
  have howns := hc.owns_saved hs
  have hs₁ := hs.savedContact c
  have htexts := savedContact_texts s c
  rw [saved]
  generalize savedContact s c = sc at hrow hkey howns hs₁ htexts ⊢
  obtain ⟨s₁, c₁⟩ := sc
  obtain ⟨hrows, hnodup⟩ := savedNumbers_rows hs₁ hkey howns
  have hs₂ := hs₁.savedNumbers hkey c.phones
  have hcontacts := savedNumbers_contacts c₁.dbKey s₁ c.phones
  dsimp only at hrows hnodup hs₂ hrow htexts hcontacts ⊢
  generalize savedNumbers c₁.dbKey s₁ c.phones = sl at hrows hnodup hs₂ hcontacts ⊢
  obtain ⟨s₂, l⟩ := sl
  constructor
  · show (s₂.contacts.filter _) = [contactRow c₁.dbKey { c₁ with phones := l }]
    rw [hcontacts, contactRow, htexts]
    exact hrow
  · show ((s₂.numbers.filter _).filter _).Perm _
    refine (List.perm_ext_iff_of_nodup ?_ ?_).mpr fun r => ?_
    · exact ((hs₂.numbers.nodup.of_map).filter _).filter _
    · refine List.Nodup.of_map NumberRow.id ?_
      rwa [List.map_map]
    · simp only [List.mem_filter, decide_eq_true_eq, List.mem_map]
      constructor
      · -- a row of the contact that the deletion has left is that of a phone
        rintro ⟨⟨hr, hkept⟩, hcref⟩
        obtain ⟨q, hq, hid⟩ := (hkept.resolve_left (not_not.mpr hcref))
        exact ⟨q, hq, List.inj_on_of_nodup_map hs₂.numbers.nodup (hrows q hq) hr hid⟩
      · rintro ⟨q, hq, rfl⟩
        exact ⟨⟨hrows q hq, .inr ⟨q, hq, rfl⟩⟩, rfl⟩

/-- A save changes keys and flags of the contact only. -/
theorem saved_bare (s : ContactDb) (c : Contact) : (saved s c).2.bare = c.bare := by
  show Contact.mk 0 false (savedContact s c).2.texts
    ((savedNumbers _ _ c.phones).2.map (·.bare)) = c.bare
  rw [savedContact_texts, savedNumbers_bare]
  rfl

theorem saved_key (s : ContactDb) (c : Contact) :
    (saved s c).2.dbKey = if c.dbKey = 0 then s.nxtcid else c.dbKey := savedContact_key s c

/-- A row was there with its id and contact, or is a new one. -/
theorem of_mem_saved {r : NumberRow} (hr : r ∈ (saved s c).1.numbers) :
    (∃ r₀ ∈ s.numbers, r₀.id = r.id ∧ r₀.cref = r.cref) ∨ s.nxtnid ≤ r.id := by
  have h : r ∈ (savedNumbers (savedContact s c).2.dbKey (savedContact s c).1 c.phones).1.numbers :=
    List.mem_of_mem_filter hr
  have hrow := of_mem_savedNumbers h
  rwa [(savedContact_numbers s c).1, (savedContact_numbers s c).2] at hrow

/-- Every phone is there afterwards, with the key it had. -/
theorem exists_saved (s : ContactDb) (hph : ph ∈ c.phones) :
    ∃ q ∈ (saved s c).2.phones, q.bare = ph.bare ∧ (ph.dbKey ≠ 0 → q.dbKey = ph.dbKey) :=
  exists_savedNumbers (savedContact s c).2.dbKey (savedContact s c).1 hph

/-- The keys afterwards: the old ones, and new ones. -/
theorem saved_keys {q : Phone} (hq : q ∈ (saved s c).2.phones) :
    (∃ ph ∈ c.phones, q.dbKey = ph.dbKey) ∨ s.nxtnid ≤ q.dbKey := by
  rcases savedNumbers_keys hq with ⟨ph, hph, -, hk⟩ | hk
  · exact .inl ⟨ph, hph, hk⟩
  · exact .inr ((savedContact_numbers s c).2 ▸ hk)

theorem deleteNumbers_frame {P : Int → Prop} [DecidablePred P] (hkey : ¬ P key) (keys : List Int)
    (s : ContactDb) : ((deleteNumbers key keys s).numbers.filter fun r => P r.cref) =
      s.numbers.filter fun r => P r.cref := by
  rw [deleteNumbers, List.filter_filter]
  refine List.filter_congr ?_
  intro r _
  by_cases hP : P r.cref
  · have hne : r.cref ≠ key := fun e => hkey (e ▸ hP)
    simp [hP, hne]
  · simp [hP]

/-- **A save leaves the rows of other contacts as they are:** of all whose keys are not the
contact's and none of whose numbers has the key of a phone. -/
theorem saved_frame {P : Int → Prop} [DecidablePred P] (hkey : ¬ P (saved s c).2.dbKey)
    (hl : ∀ ph ∈ c.phones, ∀ r ∈ s.numbers, r.id = ph.dbKey → ¬ P r.cref) :
    ((saved s c).1.contacts.filter fun r => P r.id) = (s.contacts.filter fun r => P r.id) ∧
      ((saved s c).1.numbers.filter fun r => P r.cref) = s.numbers.filter fun r => P r.cref := by
  constructor
  · rw [saved_contacts]
    rw [saved_key] at hkey
    rw [savedContact]
    split_ifs at hkey ⊢
    · show (s.contacts ++ [contactRow s.nxtcid c]).filter _ = _
      rw [List.filter_append, List.filter_singleton]
      simp [contactRow, hkey]
    · exact Table.filter_update fun r _ hk => ⟨fun hP => hkey (hk ▸ hP), fun hP => hkey (hk ▸ hP)⟩
  · have hnumbers := (savedContact_numbers s c).1
    refine (deleteNumbers_frame hkey _ _).trans ?_
    rw [← hnumbers] at hl ⊢
    exact savedNumbers_frame hkey hl

end Cmon.ContactDb
