import Mathlib.Logic.Function.Basic
import Cmon.AddressBook.Dialog

/-!
# Address book — copies of contacts

Contacts and dialog data as objects in memory, and what copying one into another does: the copy
constructor of `CContact` (the compiler's, member by member), the assignment operator that is
written by hand, and the way through `CContactDialogData`.

* `ContactMemory.Copied`: the target has the texts and phones of the source, and no other object
  has changed.
* `ContactMemory.copied_iff`: both other ways copy every contact; the assignment leaves the
  organization and the e-mail address of the target as they were.
-/

namespace Cmon

/-! ### The source -/

/-- `CPhone::copyFrom`; what libphonenumber has made of the number is copied with it. -/
def Phone.copyFrom (ph ref : Phone) : Phone :=
  { ph with
    dbKey := ref.dbKey
    dirty := ref.dirty
    type := ref.type
    number := ref.number
    note := ref.note }

/-- The assignment of a `TPhoneList`: a phone that is there is assigned, another one is constructed
where `raw` stood in memory, and what is left over is destroyed. -/
def assignPhones (raw : Phone) : List Phone → List Phone → List Phone
  | _, [] => []
  | [], ref :: refs => raw.copyFrom ref :: assignPhones raw [] refs
  | ph :: phs, ref :: refs => ph.copyFrom ref :: assignPhones raw phs refs

/-- The copy constructor of `CContact`. -/
def Contact.copy (raw : Phone) (rContact : Contact) : Contact where
  dbKey := rContact.dbKey
  dirty := rContact.dirty
  texts := rContact.texts
  phones := assignPhones raw [] rContact.phones

/-- `CContact::operator=`. -/
def Contact.assign (raw : Phone) (c rContact : Contact) : Contact where
  dbKey := rContact.dbKey
  dirty := rContact.dirty
  texts :=
    { c.texts with
      fn := rContact.texts.fn
      mn := rContact.texts.mn
      ln := rContact.texts.ln
      nn := rContact.texts.nn
      sn := rContact.texts.sn
      title := rContact.texts.title
      image := rContact.texts.image }
  phones := assignPhones raw c.phones rContact.phones

/-- The objects of a program, by their addresses. -/
structure ContactMemory where
  contacts : Nat → Contact
  dialogs : Nat → ContactDialogData

namespace ContactMemory

def setContact (m : ContactMemory) (d : Nat) (c : Contact) : ContactMemory :=
  { m with contacts := Function.update m.contacts d c }

/-- A copy of the contact at `c` is constructed at `d`. -/
def copyConstruct (raw : Phone) (m : ContactMemory) (d c : Nat) : ContactMemory :=
  m.setContact d ((m.contacts c).copy raw)

/-- The contact at `c` is assigned to the one at `d`. -/
def assign (raw : Phone) (m : ContactMemory) (d c : Nat) : ContactMemory :=
  m.setContact d ((m.contacts d).assign raw (m.contacts c))

/-- The contact at `c` is assigned to the dialog's data at `x`. -/
def toDialog (m : ContactMemory) (x c : Nat) : ContactMemory :=
  { m with dialogs := Function.update m.dialogs x (.ofContact (m.contacts c)) }

/-- The dialog's data at `x` is assigned to the contact at `d`. -/
def ofDialog (m : ContactMemory) (d x : Nat) : ContactMemory :=
  m.setContact d ((m.contacts d).ofDialog (m.dialogs x))

/-! ### What is copied -/

/-- From `m` to `m'` the contact at `c` is copied to `d`: its texts, its image and its phones.  It
is as it was, and so is every contact but the one at `d`. -/
structure Copied (m m' : ContactMemory) (d c : Nat) : Prop where
  texts : (m'.contacts d).texts = (m.contacts c).texts
  phones : (m'.contacts d).phones = (m.contacts c).phones
  source : m'.contacts c = m.contacts c
  others : ∀ a ≠ d, m'.contacts a = m.contacts a

variable {raw : Phone} {m : ContactMemory}

theorem assignPhones_eq (raw : Phone) (old refs : List Phone) :
    assignPhones raw old refs = refs := by
  induction refs generalizing old with
  | nil => cases old <;> rfl
  | cons ref refs ih =>
      cases old with
      | nil => exact congrArg (ref :: ·) (ih [])
      | cons ph old => exact congrArg (ref :: ·) (ih old)

theorem copy_eq (raw : Phone) (c : Contact) : c.copy raw = c := by
  rw [Contact.copy, assignPhones_eq]

/-- What an assignment leaves of the target. -/
theorem assign_eq (raw : Phone) (c rContact : Contact) :
    c.assign raw rContact =
      { rContact with
        texts := { rContact.texts with
          organization := c.texts.organization, email := c.texts.email } } := by
  rw [Contact.assign, assignPhones_eq]

theorem ofDialog_texts (c : Contact) (d : ContactDialogData) : (c.ofDialog d).texts = d.texts :=
  Contact.setTexts_texts c d.texts

/-- A contact that takes its own data back is as it was. -/
theorem ofDialog_ofContact (c : Contact) : c.ofDialog (.ofContact c) = c := by
  have hdirty : (c.setTexts c.texts).dirty = c.dirty := by
    rw [Bool.eq_iff_iff, Contact.setTexts_dirty]
    exact or_iff_left fun hne => hne rfl
  have hlength : (c.phones.length != c.phones.length) = false := bne_self_eq_false _
  rw [Contact.ofDialog, ContactDialogData.ofContact]
  simp only [Contact.setTexts_phones, hdirty, hlength, Bool.or_false, Contact.setTexts_texts]
  rfl

/-- **A change of one contact** to another with the texts and phones of the source copies it. -/
theorem copied_setContact {c d : Nat} {new : Contact} (htexts : new.texts = (m.contacts c).texts)
    (hphones : new.phones = (m.contacts c).phones) (hself : c = d → new = m.contacts c) :
    Copied m (m.setContact d new) d c := by
  have hnew : (m.setContact d new).contacts d = new := Function.update_self ..
  have hothers : ∀ a ≠ d, (m.setContact d new).contacts a = m.contacts a :=
    fun a ha => Function.update_of_ne ha ..
  refine ⟨(congrArg Contact.texts hnew).trans htexts, (congrArg Contact.phones hnew).trans hphones,
    ?_, hothers⟩
  by_cases hcd : c = d
  · rw [hcd, hnew, hself hcd, hcd]
  · exact hothers c hcd

theorem copied_copyConstruct (raw : Phone) (m : ContactMemory) (d c : Nat) :
    Copied m (m.copyConstruct raw d c) d c := by
  rw [copyConstruct, copy_eq]
  exact copied_setContact rfl rfl fun _ => rfl

theorem copied_ofDialog (m : ContactMemory) (d x c : Nat) :
    Copied m ((m.toDialog x c).ofDialog d x) d c := by
  have hdata : (m.toDialog x c).dialogs x = .ofContact (m.contacts c) := Function.update_self ..
  have hcopied : Copied (m.toDialog x c) ((m.toDialog x c).ofDialog d x) d c := by
    rw [ofDialog, hdata]
    refine copied_setContact (ofDialog_texts (m.contacts d) (.ofContact (m.contacts c))) rfl ?_
    rintro rfl
    exact ofDialog_ofContact (m.contacts c)
  exact ⟨hcopied.texts, hcopied.phones, hcopied.source, hcopied.others⟩

theorem copied_assign_iff (raw : Phone) (m : ContactMemory) (d c : Nat) :
    Copied m (m.assign raw d c) d c ↔
      (m.contacts d).texts.organization = (m.contacts c).texts.organization ∧
        (m.contacts d).texts.email = (m.contacts c).texts.email := by
  have hnew : (m.assign raw d c).contacts d = (m.contacts d).assign raw (m.contacts c) :=
    Function.update_self ..
  constructor
  · intro h
    have htexts := h.texts
    rw [hnew, assign_eq] at htexts
    exact ⟨(congrArg ContactTexts.organization htexts :), (congrArg ContactTexts.email htexts :)⟩
  · rintro ⟨horganization, hemail⟩
    have heq : (m.contacts d).assign raw (m.contacts c) = m.contacts c := by
      rw [assign_eq, horganization, hemail]
    rw [assign, heq]
    exact copied_setContact rfl rfl fun _ => rfl

/-- **What copies a contact**: the copy constructor and the way through the dialog's data always do,
the assignment when the target has the organization and the e-mail address already. -/
theorem copied_iff (raw : Phone) (m : ContactMemory) (d x c : Nat) :
    (Copied m (m.copyConstruct raw d c) d c ∧ Copied m (m.assign raw d c) d c ∧
        Copied m ((m.toDialog x c).ofDialog d x) d c) ↔
      (m.contacts d).texts.organization = (m.contacts c).texts.organization ∧
        (m.contacts d).texts.email = (m.contacts c).texts.email := by
  rw [← copied_assign_iff raw]
  exact ⟨fun h => h.2.1, fun h => ⟨copied_copyConstruct .., h, copied_ofDialog ..⟩⟩

/-! ### A contact that is not copied -/

/-- A contact with an organization, at 0, and a new one everywhere else. -/
def bobAtWork : ContactMemory where
  contacts
    | 0 => { Contact.create with
        texts := { Contact.create.texts with sn := "Bob", organization := "ACME" } }
    | _ => .create
  dialogs _ := .ofContact .create

/-- The assignment to a new contact loses his organization, the other ways do not. -/
theorem organization_lost :
    ((bobAtWork.assign (.create .general) 1 0).contacts 1).texts.organization = "" ∧
      ((bobAtWork.copyConstruct (.create .general) 1 0).contacts 1).texts.organization = "ACME" ∧
      (((bobAtWork.toDialog 0 0).ofDialog 1 0).contacts 1).texts.organization = "ACME" ∧
      ¬ Copied bobAtWork (bobAtWork.assign (.create .general) 1 0) 1 0 := by
  refine ⟨rfl, rfl, rfl, fun h => ?_⟩
  have horganization : "" = "ACME" := congrArg ContactTexts.organization h.texts
  exact absurd horganization (by decide)

end ContactMemory
end Cmon
