import Mathlib.Algebra.GroupWithZero.Nat
import Mathlib.Data.List.Basic
import Cmon.Library.Table
import Cmon.Library.Transaction
import Cmon.AddressBook.Contact

/-!
# Address book — saving a contact

The tables of an address book and `insertUpdateEntry` of its two kinds.  The SQLite book takes
new ids from counters in its table `config`, which is rolled back with the rest; the PostgreSQL
book takes them from sequences, which a rollback does not turn back.

* A number refers to a contact: an insert whose `cref` no contact has is refused, by both kinds.
* Ids are integers without a bound, and a session reads the value of its own last insert from a
  sequence.
* The loop over the phones goes over the phones as they are at its start: the phone at `pidx` is
  changed in the turn of `pidx` only.

`saved` is what a save means, for both kinds: the tables and the contact it ends with, when no
statement fails.  `saveTx_takes` says that the transaction does that.
-/

namespace Cmon
open Library

/-- A row of the table `contacts`. -/
structure ContactRow where
  id : Int
  texts : ContactTexts
  deriving DecidableEq, Repr

/-- A row of the table `numbers`. -/
structure NumberRow where
  id : Int
  cref : Int
  type : NumberType
  canonical : String
  note : String
  deriving DecidableEq, Repr

/-- The tables, and the ids that come next. -/
structure ContactDb where
  contacts : List ContactRow
  numbers : List NumberRow
  nxtcid : Int
  nxtnid : Int
  deriving DecidableEq, Repr

/-- How many statements insert a row and give its id. -/
def BookKind.keyStmts : BookKind → Nat
  | .sqlite => 3
  | .psql => 2

namespace ContactDb

/-- A new database. -/
def initial : ContactDb := ⟨[], [], 1, 1⟩

/-! ### The source -/

/-- The texts of a contact as they are handed to the statements. -/
def toColumns (t : ContactTexts) : ContactTexts where
  fn := toUTF8 t.fn
  mn := toUTF8 t.mn
  ln := toUTF8 t.ln
  nn := toUTF8 t.nn
  sn := toUTF8 t.sn
  title := toUTF8 t.title
  organization := toUTF8 t.organization
  email := toUTF8 t.email
  image := toAscii t.image

def contactRow (id : Int) (c : Contact) : ContactRow := ⟨id, toColumns c.texts⟩

def numberRow (id cref : Int) (ph : Phone) : NumberRow :=
  ⟨id, cref, ph.type, toAscii ph.number, toUTF8 ph.note⟩

/-- An insert into `contacts`. -/
def insertContact (row : ContactRow) (s : ContactDb) : ContactDb :=
  { s with contacts := s.contacts ++ [row] }

/-- An update of the row of a contact. -/
def updateContact (key : Int) (c : Contact) (s : ContactDb) : ContactDb :=
  { s with contacts := Table.update (·.id) key (fun r => contactRow r.id c) s.contacts }

/-- An insert into `numbers`. -/
def insertNumber (row : NumberRow) (s : ContactDb) : Option ContactDb :=
  if row.cref ∈ s.contacts.map (·.id) then some { s with numbers := s.numbers ++ [row] } else none

/-- An update of the row of a number. -/
def updateNumber (key : Int) (ph : Phone) (s : ContactDb) : ContactDb :=
  { s with numbers := Table.update (·.id) key (fun r => numberRow r.id r.cref ph) s.numbers }

/-- The deletion of the numbers of a contact, but for those with the ids `keys`. -/
def deleteNumbers (cref : Int) (keys : List Int) (s : ContactDb) : ContactDb :=
  { s with numbers := s.numbers.filter fun r => r.cref ≠ cref ∨ r.id ∈ keys }

def setNxtcid (next_id : Int) (s : ContactDb) : ContactDb := { s with nxtcid := next_id }

def setNxtnid (next_id : Int) (s : ContactDb) : ContactDb := { s with nxtnid := next_id }

/-- A statement on an address book that may be refused. -/
def refusable (f : ContactDb → Option ContactDb) : Tx ContactDb Contact Unit :=
  Tx.stmt fun s => (f s).map ((), ·)

/-- `insertUpdateEntry`, a contact without a key: the key it is given. -/
def insertContactTx (c : Contact) : BookKind → Tx ContactDb Contact Int
  | .sqlite => do
      let contactkey ← Tx.read (·.nxtcid)
      let next_id := contactkey + 1
      Tx.write (setNxtcid next_id)
      Tx.write (insertContact (contactRow contactkey c))
      Tx.modMem (·.setDbKey contactkey)
      pure contactkey
  | .psql => do
      Tx.write fun s => setNxtcid (s.nxtcid + 1) (insertContact (contactRow s.nxtcid c) s)
      let contactkey ← Tx.read (·.nxtcid - 1)
      Tx.modMem (·.setDbKey contactkey)
      pure contactkey

/-- `insertUpdateEntry`, a contact with a key. -/
def updateContactTx (c : Contact) : Tx ContactDb Contact Int := do
  Tx.write (updateContact c.dbKey c)
  pure c.dbKey

/-- `insertUpdateEntry`, a phone without a key. -/
def insertNumberTx (contactkey : Int) (pidx : Nat) (ph : Phone) :
    BookKind → Tx ContactDb Contact Unit
  | .sqlite => do
      let phonekey ← Tx.read (·.nxtnid)
      let next_id := phonekey + 1
      Tx.write (setNxtnid next_id)
      refusable (insertNumber (numberRow phonekey contactkey ph))
      Tx.modMem (·.modifyPhone pidx (·.setDbKey phonekey))
  | .psql => do
      refusable fun s =>
        (insertNumber (numberRow s.nxtnid contactkey ph) s).map (setNxtnid (s.nxtnid + 1))
      let phonekey ← Tx.read (·.nxtnid - 1)
      Tx.modMem (·.modifyPhone pidx (·.setDbKey phonekey))

/-- `insertUpdateEntry`, a turn of the loop. -/
def saveNumberTx (b : BookKind) (contactkey : Int) (pidx : Nat) (ph : Phone) :
    Tx ContactDb Contact Unit := do
  (if ph.dbKey = 0 then insertNumberTx contactkey pidx ph b
    else Tx.write (updateNumber ph.dbKey ph))
  Tx.modMem (·.modifyPhone pidx (·.setDirty false))

/-- `insertUpdateEntry`, the loop over the phones from `pidx` on. -/
def saveNumbersTx (b : BookKind) (contactkey : Int) : Nat → List Phone → Tx ContactDb Contact Unit
  | _, [] => pure ()
  | pidx, ph :: lPhones => do
      saveNumberTx b contactkey pidx ph
      saveNumbersTx b contactkey (pidx + 1) lPhones

/-- `insertUpdateEntry`, the numbers that are left out. -/
def deleteNumbersTx (contactkey : Int) (lPhones : List Phone) : Tx ContactDb Contact Unit :=
  if lPhones = [] then Tx.write (deleteNumbers contactkey [])
  else do
    let c ← Tx.getMem
    Tx.write (deleteNumbers contactkey c.phoneKeys)

/-- `insertUpdateEntry`, the transaction without its commit. -/
def saveTx (b : BookKind) (c : Contact) : Tx ContactDb Contact Unit := do
  let contactkey ← (if c.dbKey = 0 then insertContactTx c b else updateContactTx c)
  saveNumbersTx b contactkey 0 c.phones
  deleteNumbersTx contactkey c.phones

/-- What a rollback makes of the book `s'`, in a transaction that began with `s`. -/
def restore : BookKind → ContactDb → ContactDb → ContactDb
  | .sqlite, s, _ => s
  | .psql, s, s' => { s with nxtcid := s'.nxtcid, nxtnid := s'.nxtnid }

/-- The book and the contact after a save, and whether it was committed. -/
structure Saved where
  db : ContactDb
  contact : Contact
  committed : Bool
  deriving DecidableEq, Repr

/-- `CSQLiteAddressbook::insertUpdateEntry` and `CPSQLAddressbook::insertUpdateEntry`; the
statement `fault` fails, when the transaction has so many. -/
def insertUpdateEntry (b : BookKind) (isOk : Bool) (fault : Option Nat) (s : ContactDb)
    (c : Contact) : Saved :=
  let (dirty, c) := c.isDirty
  if dirty then
    if isOk then
      let (ok, s', c') := Tx.transact (restore b) (saveTx b c) fault s c
      ⟨s', if ok then c'.setDirty false else c', ok⟩
    else ⟨s, c.setDirty false, false⟩
  else ⟨s, c, false⟩

/-! ### What a save means -/

/-- The contact has its row. -/
def savedContact (s : ContactDb) (c : Contact) : ContactDb × Contact :=
  if c.dbKey = 0 then
    (setNxtcid (s.nxtcid + 1) (insertContact (contactRow s.nxtcid c) s), c.setDbKey s.nxtcid)
  else (updateContact c.dbKey c s, c)

/-- The row of a new phone. -/
def addNumber (key : Int) (ph : Phone) (s : ContactDb) : ContactDb :=
  { s with numbers := s.numbers ++ [numberRow s.nxtnid key ph], nxtnid := s.nxtnid + 1 }

/-- The phone has its row. -/
def savedNumber (key : Int) (s : ContactDb) (ph : Phone) : ContactDb × Phone :=
  if ph.dbKey = 0 then (addNumber key ph s, (ph.setDbKey s.nxtnid).setDirty false)
  else (updateNumber ph.dbKey ph s, ph.setDirty false)

/-- The phones have their rows. -/
def savedNumbers (key : Int) : ContactDb → List Phone → ContactDb × List Phone
  | s, [] => (s, [])
  | s, ph :: l =>
      let (s', ph') := savedNumber key s ph
      let (s'', l') := savedNumbers key s' l
      (s'', ph' :: l')

/-- The book and the contact after the statements of a save. -/
def saved (s : ContactDb) (c : Contact) : ContactDb × Contact :=
  let (s₁, c₁) := savedContact s c
  let (s₂, l) := savedNumbers c₁.dbKey s₁ c.phones
  (deleteNumbers c₁.dbKey (l.map (·.dbKey)) s₂, { c₁ with phones := l })

variable {b : BookKind} {s : ContactDb} {c m : Contact} {key : Int} {ph : Phone}

/-- The turn of a phone changes that phone. -/
theorem modifyPhone_at (m : Contact) (done l : List Phone) (f : Phone → Phone) :
    ({ m with phones := done ++ ph :: l } : Contact).modifyPhone done.length f =
      { m with phones := done ++ f ph :: l } := by
  have hlist : (done ++ ph :: l).modify done.length f = done ++ f ph :: l := by
    induction done with
    | nil => rfl
    | cons q done ih => simpa using ih
  rw [Contact.modifyPhone, hlist]

theorem insertContactTx_takes (b : BookKind) (s : ContactDb) (c m : Contact) :
    Tx.Takes (insertContactTx c b) s m b.keyStmts s.nxtcid
      (setNxtcid (s.nxtcid + 1) (insertContact (contactRow s.nxtcid c) s))
      (m.setDbKey s.nxtcid) := by
  cases b with
  | sqlite =>
      rw [show BookKind.sqlite.keyStmts = 1 + (1 + (1 + (0 + 0))) from rfl]
      refine (Tx.Takes.read _ s m).bind ?_
      refine (Tx.Takes.write _ _ m).bind ?_
      refine (Tx.Takes.write _ _ m).bind ?_
      exact (Tx.Takes.modMem _ _ m).bind (.pure _ _ _)
  | psql =>
      rw [show BookKind.psql.keyStmts = 1 + (1 + (0 + 0)) from rfl]
      have hread := Tx.Takes.read (·.nxtcid - 1)
        (setNxtcid (s.nxtcid + 1) (insertContact (contactRow s.nxtcid c) s)) m
      rw [show (setNxtcid (s.nxtcid + 1) _).nxtcid - 1 = s.nxtcid from
        Int.add_sub_cancel _ _] at hread
      refine (Tx.Takes.write _ s m).bind ?_
      refine hread.bind ?_
      exact (Tx.Takes.modMem _ _ m).bind (.pure _ _ _)

theorem updateContactTx_takes (s : ContactDb) (c m : Contact) :
    Tx.Takes (updateContactTx c) s m 1 c.dbKey (updateContact c.dbKey c s) m := by
  show Tx.Takes _ _ _ (1 + 0) _ _ _
  exact Tx.Takes.bind (.write _ s m) (.pure _ _ _)

theorem saveContactTx_takes (b : BookKind) (s : ContactDb) (c : Contact) :
    ∃ n, Tx.Takes (if c.dbKey = 0 then insertContactTx c b else updateContactTx c) s c n
      (savedContact s c).2.dbKey (savedContact s c).1 (savedContact s c).2 := by
  rw [savedContact]
  split_ifs with h
  · exact ⟨_, insertContactTx_takes b s c c⟩
  · exact ⟨_, updateContactTx_takes s c c⟩

/-- An insert of a number for a contact that is there. -/
theorem refusable_takes {f : ContactDb → Option ContactDb} {s' : ContactDb} (h : f s = some s')
    (m : Contact) : Tx.Takes (refusable f) s m 1 () s' m :=
  Tx.Takes.stmt (by rw [h]; rfl) m

/-- The insert of an SQLite book, the counter being set. -/
theorem insertNumber_counted (hkey : key ∈ s.contacts.map (·.id)) (ph : Phone) :
    insertNumber (numberRow s.nxtnid key ph) (setNxtnid (s.nxtnid + 1) s) =
      some (addNumber key ph s) := if_pos hkey

/-- The insert of a PostgreSQL book, with the next value of the sequence. -/
theorem insertNumber_nextval (hkey : key ∈ s.contacts.map (·.id)) (ph : Phone) :
    (insertNumber (numberRow s.nxtnid key ph) s).map (setNxtnid (s.nxtnid + 1)) =
      some (addNumber key ph s) := by
  rw [show insertNumber (numberRow s.nxtnid key ph) s = _ from if_pos hkey]
  rfl

/-- The value that the session has taken from the sequence. -/
theorem currval_takes (key : Int) (ph : Phone) (s : ContactDb) (m : Contact) :
    Tx.Takes (Tx.read (·.nxtnid - 1)) (addNumber key ph s) m 1 s.nxtnid (addNumber key ph s) m := by
  have h := Tx.Takes.read (·.nxtnid - 1) (addNumber key ph s) m
  rwa [show (addNumber key ph s).nxtnid - 1 = s.nxtnid from Int.add_sub_cancel _ _] at h

theorem insertNumberTx_takes (b : BookKind) (hkey : key ∈ s.contacts.map (·.id)) (m : Contact)
    (pidx : Nat) (ph : Phone) :
    Tx.Takes (insertNumberTx key pidx ph b) s m b.keyStmts () (addNumber key ph s)
      (m.modifyPhone pidx (·.setDbKey s.nxtnid)) := by
  cases b with
  | sqlite =>
      rw [show BookKind.sqlite.keyStmts = 1 + (1 + (1 + 0)) from rfl]
      refine (Tx.Takes.read _ s m).bind ?_
      refine (Tx.Takes.write _ _ m).bind ?_
      exact (refusable_takes (insertNumber_counted hkey ph) m).bind (Tx.Takes.modMem _ _ m)
  | psql =>
      rw [show BookKind.psql.keyStmts = 1 + (1 + 0) from rfl]
      refine (refusable_takes (insertNumber_nextval hkey ph) m).bind ?_
      exact (currval_takes key ph s m).bind (Tx.Takes.modMem _ _ m)

/-- The statements for a phone. -/
def numberStmts (b : BookKind) (ph : Phone) : Nat := if ph.dbKey = 0 then b.keyStmts else 1

theorem saveNumberTx_takes (b : BookKind) (hkey : key ∈ s.contacts.map (·.id)) (m : Contact)
    (done l : List Phone) (ph : Phone) :
    Tx.Takes (saveNumberTx b key done.length ph) s { m with phones := done ++ ph :: l }
      (numberStmts b ph) () (savedNumber key s ph).1
      { m with phones := done ++ (savedNumber key s ph).2 :: l } := by
  have hflag : ∀ (s' : ContactDb) (ph' : Phone),
      Tx.Takes (Tx.modMem fun c : Contact => c.modifyPhone done.length (·.setDirty false)) s'
        { m with phones := done ++ ph' :: l } 0 () s'
        { m with phones := done ++ ph'.setDirty false :: l } := by
    intro s' ph'
    have h := Tx.Takes.modMem (fun c : Contact => c.modifyPhone done.length (·.setDirty false)) s'
      { m with phones := done ++ ph' :: l }
    rwa [modifyPhone_at] at h
  rw [saveNumberTx, numberStmts, savedNumber]
  split_ifs with h
  · have hins := insertNumberTx_takes b hkey { m with phones := done ++ ph :: l } done.length ph
    rw [modifyPhone_at] at hins
    show Tx.Takes _ _ _ (b.keyStmts + 0) _ _ _
    exact hins.bind (hflag _ _)
  · show Tx.Takes _ _ _ (1 + 0) _ _ _
    exact (Tx.Takes.write _ _ _).bind (hflag _ _)

theorem savedNumber_contacts (key : Int) (s : ContactDb) (ph : Phone) :
    (savedNumber key s ph).1.contacts = s.contacts := by
  rw [savedNumber]
  split_ifs <;> rfl

theorem saveNumbersTx_takes (b : BookKind) (hkey : key ∈ s.contacts.map (·.id)) (m : Contact)
    (done l : List Phone) :
    Tx.Takes (saveNumbersTx b key done.length l) s { m with phones := done ++ l }
      (l.map (numberStmts b)).sum () (savedNumbers key s l).1
      { m with phones := done ++ (savedNumbers key s l).2 } := by
  induction l generalizing s done with
  | nil => exact .pure _ _ _
  | cons ph l ih =>
      have hkey' : key ∈ (savedNumber key s ph).1.contacts.map (·.id) := by
        rwa [savedNumber_contacts]
      have hrest := ih hkey' (done ++ [(savedNumber key s ph).2])
      rw [List.length_append, List.append_assoc, List.append_assoc] at hrest
      exact (saveNumberTx_takes b hkey m done l ph).bind hrest

theorem deleteNumbersTx_takes (key : Int) (s : ContactDb) (m : Contact) {l : List Phone}
    (h : l = [] → m.phones = []) : ∃ n, Tx.Takes (deleteNumbersTx key l) s m n ()
      (deleteNumbers key m.phoneKeys s) m := by
  rw [deleteNumbersTx]
  split_ifs with hl
  · rw [Contact.phoneKeys, h hl]
    exact ⟨_, .write _ _ _⟩
  · exact ⟨_, (Tx.Takes.getMem s m).bind (.write _ _ _)⟩

theorem savedContact_phones (s : ContactDb) (c : Contact) :
    (savedContact s c).2.phones = c.phones := by
  rw [savedContact]
  split_ifs <;> rfl

/-- The contact has a row, when it had one or had no key. -/
theorem mem_savedContact (h : c.dbKey = 0 ∨ c.dbKey ∈ s.contacts.map (·.id)) :
    (savedContact s c).2.dbKey ∈ (savedContact s c).1.contacts.map (·.id) := by
  rw [savedContact]
  split_ifs with h0
  · simp [setNxtcid, insertContact, contactRow]
  · have hids : (updateContact c.dbKey c s).contacts.map (·.id) = s.contacts.map (·.id) :=
      Table.keys_update fun _ hr => hr
    rw [hids]
    exact h.resolve_left h0

/-- **The transaction does what a save means,** for a contact that is new or has its row. -/
theorem saveTx_takes (b : BookKind) (h : c.dbKey = 0 ∨ c.dbKey ∈ s.contacts.map (·.id)) :
    ∃ n, Tx.Takes (saveTx b c) s c n () (saved s c).1 (saved s c).2 := by
  obtain ⟨n₁, h₁⟩ := saveContactTx_takes b s c
  have hrow := mem_savedContact h
  have hphones := savedContact_phones s c
  rw [saved]
  generalize savedContact s c = sc at h₁ hrow hphones ⊢
  obtain ⟨s₁, c₁⟩ := sc
  have hstart : ({ c₁ with phones := [] ++ c.phones } : Contact) = c₁ := by
    rw [List.nil_append, ← hphones]
  have h₂ := saveNumbersTx_takes b hrow c₁ [] c.phones
  rw [hstart, List.nil_append] at h₂
  obtain ⟨n₃, h₃⟩ := deleteNumbersTx_takes c₁.dbKey (savedNumbers c₁.dbKey s₁ c.phones).1
    { c₁ with phones := (savedNumbers c₁.dbKey s₁ c.phones).2 }
    (fun e : c.phones = [] => by rw [e]; rfl)
  refine ⟨n₁ + ((c.phones.map (numberStmts b)).sum + n₃), h₁.bind ?_⟩
  exact Tx.Takes.bind h₂ h₃

end ContactDb
end Cmon
