import Cmon.Shared.Platform

/-!
# Address book — contacts

`CContact` and `CPhone`, as far as the address books read and write them.  A key of 0 says that
the object has no row yet.  The flag of a contact and the flags of its phones are kept apart;
`isDirty` of a contact gathers them, and keeps what it finds.

A phone's number is the text that was entered; what libphonenumber makes of it is not stored.
-/

namespace Cmon

/-- The two kinds of address books. -/
inductive BookKind where
  | sqlite | psql
  deriving DecidableEq, Repr

/-- `CPhone::TNumberType`. -/
inductive NumberType where
  | general | cell | work | home | pager | fax | other
  deriving DecidableEq, Repr

/-- `CPhone`. -/
structure Phone where
  dbKey : Int
  dirty : Bool
  type : NumberType
  number : String
  note : String
  deriving DecidableEq, Repr

namespace Phone

/-- The constructor. -/
def create (type : NumberType) : Phone := ⟨0, true, type, "", ""⟩

def setType (ph : Phone) (val : NumberType) : Phone :=
  { ph with dirty := ph.dirty || ph.type != val, type := val }

/-- The flag looks at the text as it was given, the number is stored without blanks around it. -/
def setNumber (ph : Phone) (val : String) : Phone :=
  { ph with dirty := ph.dirty || ph.number != val, number := trim val }

def setNote (ph : Phone) (val : String) : Phone :=
  { ph with dirty := ph.dirty || ph.note != val, note := val }

def setDirty (ph : Phone) (flag : Bool) : Phone := { ph with dirty := flag }

def setDbKey (ph : Phone) (key : Int) : Phone :=
  { ph with dirty := ph.dirty || ph.dbKey != key, dbKey := key }

@[simp] theorem setDirty_dbKey (ph : Phone) (flag : Bool) : (ph.setDirty flag).dbKey = ph.dbKey :=
  rfl

@[simp] theorem setDbKey_dbKey (ph : Phone) (key : Int) : (ph.setDbKey key).dbKey = key := rfl

/-- The phone without its key and its flag. -/
def bare (ph : Phone) : Phone := ⟨0, false, ph.type, ph.number, ph.note⟩

@[simp] theorem bare_setDirty (ph : Phone) (flag : Bool) : (ph.setDirty flag).bare = ph.bare := rfl

@[simp] theorem bare_setDbKey (ph : Phone) (key : Int) : (ph.setDbKey key).bare = ph.bare := rfl

end Phone

/-- The text fields of a contact and its image. -/
structure ContactTexts where
  fn : String
  mn : String
  ln : String
  nn : String
  sn : String
  title : String
  organization : String
  email : String
  image : String
  deriving DecidableEq, Repr

/-- The members that are a text. -/
inductive TextField where
  | fn | mn | ln | nn | sn | title | organization | email | image
  deriving DecidableEq, Repr

namespace ContactTexts

def get (t : ContactTexts) : TextField → String
  | .fn => t.fn
  | .mn => t.mn
  | .ln => t.ln
  | .nn => t.nn
  | .sn => t.sn
  | .title => t.title
  | .organization => t.organization
  | .email => t.email
  | .image => t.image

def set (t : ContactTexts) (val : String) : TextField → ContactTexts
  | .fn => { t with fn := val }
  | .mn => { t with mn := val }
  | .ln => { t with ln := val }
  | .nn => { t with nn := val }
  | .sn => { t with sn := val }
  | .title => { t with title := val }
  | .organization => { t with organization := val }
  | .email => { t with email := val }
  | .image => { t with image := val }

end ContactTexts

/-- `CContact`. -/
structure Contact where
  dbKey : Int
  dirty : Bool
  texts : ContactTexts
  phones : List Phone
  deriving DecidableEq, Repr

namespace Contact

/-- The constructor. -/
def create : Contact := ⟨0, false, ⟨"", "", "", "", "", "", "", "", ""⟩, []⟩

def setDirty (c : Contact) (flag : Bool) : Contact := { c with dirty := flag }

def setDbKey (c : Contact) (key : Int) : Contact :=
  { c with dirty := c.dirty || c.dbKey != key, dbKey := key }

/-- The setter of a text. -/
def setText (f : TextField) (c : Contact) (val : String) : Contact :=
  { c with dirty := c.dirty || c.texts.get f != val, texts := c.texts.set val f }

def setFN : Contact → String → Contact := setText .fn
def setMN : Contact → String → Contact := setText .mn
def setLN : Contact → String → Contact := setText .ln
def setNN : Contact → String → Contact := setText .nn
def setSN : Contact → String → Contact := setText .sn
def setTitle : Contact → String → Contact := setText .title
def setOrganization : Contact → String → Contact := setText .organization
def setEmail : Contact → String → Contact := setText .email
def setImage : Contact → String → Contact := setText .image

/-- The nine setters, one after the other. -/
def setTexts (c : Contact) (t : ContactTexts) : Contact :=
  ((((((((c.setFN t.fn).setMN t.mn).setLN t.ln).setNN t.nn).setSN t.sn).setTitle t.title
    ).setOrganization t.organization).setEmail t.email).setImage t.image

/-- `isDirty`, and the contact it leaves. -/
def isDirty (c : Contact) : Bool × Contact :=
  let flag := c.dirty || c.phones.any (·.dirty)
  (flag, c.setDirty flag)

/-- `getPhones()[pidx]`, changed in place. -/
def modifyPhone (c : Contact) (pidx : Nat) (f : Phone → Phone) : Contact :=
  { c with phones := c.phones.modify pidx f }

/-- The contact without its keys and flags. -/
def bare (c : Contact) : Contact := ⟨0, false, c.texts, c.phones.map (·.bare)⟩

/-- The keys of the phones. -/
def phoneKeys (c : Contact) : List Int := c.phones.map (·.dbKey)

@[simp] theorem setDirty_dbKey (c : Contact) (flag : Bool) :
    (c.setDirty flag).dbKey = c.dbKey := rfl

@[simp] theorem setDirty_phones (c : Contact) (flag : Bool) : (c.setDirty flag).phones = c.phones :=
  rfl

@[simp] theorem bare_setDirty (c : Contact) (flag : Bool) : (c.setDirty flag).bare = c.bare := rfl

@[simp] theorem setDbKey_dbKey (c : Contact) (key : Int) : (c.setDbKey key).dbKey = key := rfl

@[simp] theorem setDbKey_phones (c : Contact) (key : Int) :
    (c.setDbKey key).phones = c.phones := rfl

@[simp] theorem bare_setDbKey (c : Contact) (key : Int) : (c.setDbKey key).bare = c.bare := rfl

@[simp] theorem setText_texts (f : TextField) (c : Contact) (val : String) :
    (setText f c val).texts = c.texts.set val f := rfl

@[simp] theorem setText_dbKey (f : TextField) (c : Contact) (val : String) :
    (setText f c val).dbKey = c.dbKey := rfl

@[simp] theorem setText_phones (f : TextField) (c : Contact) (val : String) :
    (setText f c val).phones = c.phones := rfl

/-- The flag is raised by a text that differs. -/
theorem setText_dirty (f : TextField) (c : Contact) (val : String) :
    (setText f c val).dirty = true ↔ c.dirty = true ∨ c.texts.get f ≠ val := by
  simp [setText]

theorem setTexts_texts (c : Contact) (t : ContactTexts) : (c.setTexts t).texts = t := by
  simp only [setTexts, setFN, setMN, setLN, setNN, setSN, setTitle, setOrganization, setEmail,
    setImage, setText_texts, ContactTexts.set]

@[simp] theorem setTexts_dbKey (c : Contact) (t : ContactTexts) : (c.setTexts t).dbKey = c.dbKey :=
  rfl

@[simp] theorem setTexts_phones (c : Contact) (t : ContactTexts) :
    (c.setTexts t).phones = c.phones := rfl

/-- The flag is raised by texts that differ. -/
theorem setTexts_dirty (c : Contact) (t : ContactTexts) :
    (c.setTexts t).dirty = true ↔ c.dirty = true ∨ c.texts ≠ t := by
  have heq : c.texts = t ↔ c.texts.fn = t.fn ∧ c.texts.mn = t.mn ∧ c.texts.ln = t.ln ∧
      c.texts.nn = t.nn ∧ c.texts.sn = t.sn ∧ c.texts.title = t.title ∧
      c.texts.organization = t.organization ∧ c.texts.email = t.email ∧
      c.texts.image = t.image := by
    generalize c.texts = t₀
    obtain ⟨⟩ := t₀
    obtain ⟨⟩ := t
    exact ContactTexts.mk.injEq ..▸ Iff.rfl
  rw [ne_eq, heq]
  simp only [setTexts, setFN, setMN, setLN, setNN, setSN, setTitle, setOrganization, setEmail,
    setImage, setText_dirty, setText_texts, ContactTexts.get, ContactTexts.set, not_and_or,
    or_assoc]

end Contact
end Cmon
