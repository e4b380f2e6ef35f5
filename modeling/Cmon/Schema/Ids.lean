import Cmon.Library.Counter
import Cmon.Journal.Model
import Cmon.AddressBook.Fetch

/-!
# Schema — ids

The ids of the tables `calls`, `contacts` and `numbers` of the two SQLite files come from counters
in the table `config`, which start at 1 and are written in the transaction that inserts the row.
A contact is saved with any key and any phones here, those of rows that are no longer there among
them: such a save updates no row, or is refused and rolled back when it has a new phone.

* `saveTx_grown`: a save that is committed leaves the keys counted, and has taken new ones from
  the counters.
* `ids_never_reused`: along every run of the journal and of the address book, no id is given twice.
-/

namespace Cmon
open Library

/-! ### The journal -/

/-- A call that changes the table `calls`. -/
inductive JournalStep where
  | insertUpdateEntry (isOk : Bool) (m : Moment) (j : JournalEntry)
  | purgeEntries (m : Moment)

namespace JournalDb

def journalStep (p : Platform) (db : JournalDb) : JournalStep → JournalDb
  | .insertUpdateEntry isOk m j => (insertUpdateEntry p isOk m db j).db
  | .purgeEntries m => purgeEntries p m db

theorem WF.journalStep {db : JournalDb} (h : WF db) (p : Platform) (st : JournalStep) :
    WF (journalStep p db st) := by
  cases st with
  | insertUpdateEntry isOk m j => exact (insertUpdateEntry_saves p isOk m db j).wf h
  | purgeEntries m => exact h.purge p m

theorem grows_journalStep (p : Platform) (db : JournalDb) (st : JournalStep) :
    Table.Grows db.nextcallid (db.calls.map (·.id)) (journalStep p db st).nextcallid
      ((journalStep p db st).calls.map (·.id)) := by
  cases st with
  | insertUpdateEntry isOk m j =>
      have h := insertUpdateEntry_saves p isOk m db j
      rw [journalStep]
      generalize insertUpdateEntry p isOk m db j = o at h
      cases h with
      | clean | unusable | failed | keyed => exact .refl _ _
      | inserted =>
          have hadd : Table.Grows db.nextcallid (db.calls.map (·.id)) (db.nextcallid + 1)
              ((added p db j).calls.map (·.id)) := by
            rw [added, List.map_append]
            exact .append (Int.le_of_lt (Int.lt_succ _)) (Int.le_refl _)
          obtain ⟨hcalls, hnext⟩ := purgeEntries_sublist p m (added p db j)
          exact hadd.trans (.of_sublist (Int.le_of_eq hnext.symm) (hcalls.map _))
      | updated =>
          rw [updated_ids]
          exact .refl _ _
  | purgeEntries m =>
      obtain ⟨hcalls, hnext⟩ := purgeEntries_sublist p m db
      exact .of_sublist (Int.le_of_eq hnext.symm) (hcalls.map _)

end JournalDb

/-! ### The address book -/

namespace ContactDb

/-- The ids are unique and lie below the counters. -/
structure Numbered (s : ContactDb) : Prop where
  contacts : Table.Counted (·.id) s.nxtcid s.contacts
  numbers : Table.Counted (·.id) s.nxtnid s.numbers

theorem Numbered.initial : Numbered initial := ⟨.nil, .nil⟩

/-- From `s₀` to `s`, with ids from the counters. -/
structure Grown (s₀ s : ContactDb) : Prop where
  numbered : Numbered s
  contacts : Table.Grows s₀.nxtcid (s₀.contacts.map (·.id)) s.nxtcid (s.contacts.map (·.id))
  numbers : Table.Grows s₀.nxtnid (s₀.numbers.map (·.id)) s.nxtnid (s.numbers.map (·.id))

namespace Grown
variable {s₀ s : ContactDb} {c : Contact} {key : Int} {ph : Phone}

theorem refl (h : Numbered s) : Grown s s := ⟨h, .refl _ _, .refl _ _⟩

theorem insertContact (h : Grown s₀ s) (c : Contact) :
    Grown s₀ (setNxtcid (s.nxtcid + 1) (insertContact (contactRow s.nxtcid c) s)) := by
  refine ⟨⟨h.numbered.contacts.append rfl, h.numbered.numbers⟩, ?_, h.numbers⟩
  show Table.Grows _ _ (s.nxtcid + 1) ((s.contacts ++ [contactRow s.nxtcid c]).map (·.id))
  rw [List.map_append]
  exact h.contacts.trans (.append (Int.le_of_lt (Int.lt_succ _)) (Int.le_refl _))

theorem addNumber (h : Grown s₀ s) (key : Int) (ph : Phone) : Grown s₀ (addNumber key ph s) := by
  refine ⟨⟨h.numbered.contacts, h.numbered.numbers.append rfl⟩, h.contacts, ?_⟩
  show Table.Grows _ _ (s.nxtnid + 1) ((s.numbers ++ [numberRow s.nxtnid key ph]).map (·.id))
  rw [List.map_append]
  exact h.numbers.trans (.append (Int.le_of_lt (Int.lt_succ _)) (Int.le_refl _))

theorem updateContact (h : Grown s₀ s) (key : Int) (c : Contact) :
    Grown s₀ (updateContact key c s) := by
  have hids : (ContactDb.updateContact key c s).contacts.map (·.id) = s.contacts.map (·.id) :=
    Table.keys_update fun _ hr => hr
  refine ⟨⟨h.numbered.contacts.of_keys hids, h.numbered.numbers⟩, ?_, h.numbers⟩
  rw [hids]
  exact h.contacts

theorem updateNumber (h : Grown s₀ s) (key : Int) (ph : Phone) :
    Grown s₀ (updateNumber key ph s) := by
  have hids : (ContactDb.updateNumber key ph s).numbers.map (·.id) = s.numbers.map (·.id) :=
    Table.keys_update fun _ hr => hr
  refine ⟨⟨h.numbered.contacts, h.numbered.numbers.of_keys hids⟩, h.contacts, ?_⟩
  rw [hids]
  exact h.numbers

/-- Rows are deleted. -/
theorem sublist (h : Grown s₀ s) {s' : ContactDb} (hcid : s'.nxtcid = s.nxtcid)
    (hnid : s'.nxtnid = s.nxtnid) (hc : s'.contacts.Sublist s.contacts)
    (hn : s'.numbers.Sublist s.numbers) : Grown s₀ s' := by
  refine ⟨⟨?_, ?_⟩, ?_, ?_⟩
  · exact hcid ▸ h.numbered.contacts.sublist hc
  · exact hnid ▸ h.numbered.numbers.sublist hn
  · exact h.contacts.trans (.of_sublist (Int.le_of_eq hcid.symm) (hc.map _))
  · exact h.numbers.trans (.of_sublist (Int.le_of_eq hnid.symm) (hn.map _))

theorem deleteNumbers (h : Grown s₀ s) (cref : Int) (keys : List Int) :
    Grown s₀ (deleteNumbers cref keys s) :=
  h.sublist rfl rfl (.refl _) List.filter_sublist

theorem deleteEntry (h : Grown s₀ s) (c : Contact) : Grown s₀ (deleteEntry c s) := by
  rw [ContactDb.deleteEntry]
  split_ifs
  · exact h.sublist rfl rfl List.filter_sublist List.filter_sublist
  · exact h

end Grown

section
variable (s₀ : ContactDb) (c : Contact) (contactkey : Int)

/-- The counter has been read as `key` and written, and the row is still to come. -/
def Taken (s₀ : ContactDb) (set : Int → ContactDb → ContactDb) (get : ContactDb → Int) (key : Int)
    (s : ContactDb) : Prop :=
  ∃ s₁, Grown s₀ s₁ ∧ key = get s₁ ∧ s = set (key + 1) s₁

theorem insertContactTx_grown : Tx.Triple (Grown s₀) (insertContactTx c .sqlite)
    fun _ => Grown s₀ := by
  refine .bind (R := fun key s => Grown s₀ s ∧ key = s.nxtcid) (.read fun s hs => ⟨hs, rfl⟩)
    fun key => ?_
  refine .bind (R := fun _ => Taken s₀ setNxtcid (·.nxtcid) key)
    (.write fun s hs => ⟨s, hs.1, hs.2, rfl⟩) fun _ => ?_
  refine .bind (R := fun _ => Grown s₀) (.write ?_) fun _ => ?_
  · rintro _ ⟨s, hs, rfl, rfl⟩
    exact hs.insertContact c
  · exact .bind (.modMem _) fun _ => .pure fun _ hs => hs

theorem insertNumberTx_grown (pidx : Nat) (ph : Phone) :
    Tx.Triple (Grown s₀) (insertNumberTx contactkey pidx ph .sqlite) fun _ => Grown s₀ := by
  refine .bind (R := fun key s => Grown s₀ s ∧ key = s.nxtnid) (.read fun s hs => ⟨hs, rfl⟩)
    fun key => ?_
  refine .bind (R := fun _ => Taken s₀ setNxtnid (·.nxtnid) key)
    (.write fun s hs => ⟨s, hs.1, hs.2, rfl⟩) fun _ => ?_
  refine .bind (R := fun _ => Grown s₀) (.stmt ?_) fun _ => .modMem _
  rintro _ _ s' ⟨s, hs, rfl, rfl⟩ e
  obtain ⟨s'', hins, e⟩ := Option.map_eq_some_iff.mp e
  cases e
  -- an insert that is not refused
  rw [insertNumber] at hins
  split at hins
  · cases hins
    exact hs.addNumber contactkey ph
  · cases hins

theorem saveNumbersTx_grown (pidx : Nat) (l : List Phone) :
    Tx.Triple (Grown s₀) (saveNumbersTx .sqlite contactkey pidx l) fun _ => Grown s₀ := by
  induction l generalizing pidx with
  | nil => exact .pure fun _ hs => hs
  | cons ph l ih =>
      refine .bind (R := fun _ => Grown s₀) (.bind (R := fun _ => Grown s₀) ?_ fun _ => .modMem _)
        fun _ => ih (pidx + 1)
      split_ifs
      · exact insertNumberTx_grown s₀ contactkey pidx ph
      · exact .write fun s hs => hs.updateNumber ph.dbKey ph

/-- **A committed save takes its ids from the counters.** -/
theorem saveTx_grown : Tx.Triple (Grown s₀) (saveTx .sqlite c) fun _ => Grown s₀ := by
  refine .bind (R := fun _ => Grown s₀) ?_ fun contactkey => ?_
  · split_ifs
    · exact insertContactTx_grown s₀ c
    · exact .bind (.write fun s hs => hs.updateContact c.dbKey c) fun _ => .pure fun _ hs => hs
  · refine .bind (saveNumbersTx_grown s₀ contactkey 0 c.phones) fun _ => ?_
    rw [deleteNumbersTx]
    split_ifs
    · exact .write fun s hs => hs.deleteNumbers contactkey []
    · exact .bind .getMem fun m => .write fun s hs => hs.deleteNumbers contactkey m.phoneKeys

end

/-- A call to the book leaves it as it was, or takes its ids from the counters. -/
theorem grown_bookStep {s : ContactDb} (h : Numbered s) (st : BookStep) :
    Grown s (bookStep s st) := by
  cases st with
  | insertUpdateEntry fault c =>
      rw [bookStep]
      by_cases hd : c.isDirty.1 = true
      · rw [insertUpdateEntry_dirty hd]
        cases hok : (attempt .sqlite fault s (c.setDirty true)).1 with
        | true => exact Tx.transact_triple (saveTx_grown s _) (.refl h) hok
        | false =>
            show Grown s (attempt .sqlite fault s (c.setDirty true)).2.1
            rw [(attempt_failed hok).config rfl]
            exact .refl h
      · rw [insertUpdateEntry_clean (by simpa using hd)]
        exact .refl h
  | deleteEntry fails c =>
      rw [bookStep]
      split_ifs
      · exact .refl h
      · exact (Grown.refl h).deleteEntry c

theorem Numbered.bookStep {s : ContactDb} (h : Numbered s) (st : BookStep) :
    Numbered (bookStep s st) := (grown_bookStep h st).numbered

end ContactDb

/-- **No id is given twice.**  Along every run of calls to the journal and to the address book,
failed ones among them, the ids of each of the three tables are unique and below its counter, the
counter is not turned back, and the ids of new rows have been no row's before. -/
theorem ids_never_reused (p : Platform) (js : List JournalStep) (bs : List ContactDb.BookStep) :
    Table.NeverReused (JournalDb.journalStep p) (·.nextcallid) (·.calls.map (·.id))
      JournalDb.initial js ∧
    Table.NeverReused ContactDb.bookStep (·.nxtcid) (·.contacts.map (·.id)) ContactDb.initial bs ∧
    Table.NeverReused ContactDb.bookStep (·.nxtnid) (·.numbers.map (·.id))
      ContactDb.initial bs := by
  refine ⟨Table.neverReused (I := JournalDb.WF) (fun _ st h => h.journalStep p st) ?_
      (fun db st _ => JournalDb.grows_journalStep p db st) .initial js,
    Table.neverReused (I := ContactDb.Numbered) (fun _ st h => h.bookStep st) ?_
      (fun _ st h => (ContactDb.grown_bookStep h st).contacts) .initial bs,
    Table.neverReused (I := ContactDb.Numbered) (fun _ st h => h.bookStep st) ?_
      (fun _ st h => (ContactDb.grown_bookStep h st).numbers) .initial bs⟩
  · exact fun db h => ⟨h.nodup, fun k hk => (h.of_mem hk).2⟩
  · exact fun s h => ⟨h.contacts.nodup, fun k hk => (h.contacts.of_mem hk).2⟩
  · exact fun s h => ⟨h.numbers.nodup, fun k hk => (h.numbers.of_mem hk).2⟩

end Cmon
