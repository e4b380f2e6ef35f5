import Cmon.Library.Refinement
import Cmon.AddressBook.Cards
import Cmon.Csv.Contacts

/-!
# App — the page of the contacts

`CContactListCtrl` shows the contacts of the chosen address book, and adds, edits and deletes them
there.  Choosing another book is not shown at once: the list is read again when a timer fires, and
until then its commands go to the book it was read from.

The timers fire while a dialog is open, too.  `EditAddress` holds a reference to an element of
`m_liEntries` over `ShowModal`; when the list is read again in the meantime, what it refers to is
left open by the language.  A run is `Orderly` when this does not happen and every reading gives
what the tables hold.

* `ContactPage.refines`: to its user, the page is a shelf of books of cards.
* `ContactPage.shelf_run`: so it is in every orderly run, whatever fails.
* `ContactPage.shown_run`: every contact that is shown is the card that is stored under its key.
-/

namespace Cmon
open Library

/-! ### The source -/

/-- What is given of the books: their kinds, and whether they could be opened. -/
structure BookShelf where
  kind : ℕ → BookKind
  isOk : ℕ → Bool

/-- The books, `m_pCurrentAddressbook` of the application, `m_pAddressbook` and `m_liEntries` of the
list, and the open dialog: the row it edits, or none for a new contact, and its data. -/
structure ContactPage where
  books : ℕ → ContactDb
  current : Option ℕ
  addressbook : Option ℕ
  liEntries : List Contact
  dlg : Option (Option ℕ × ContactDialogData)

/-- What happens to the page.  `rows` is what `getEntries` is given, `fault` the statement of a save
that fails; of the rows that are deleted it is said whether the statement fails. -/
inductive PageStep where
  | selectAbook (book : Option ℕ)
  | update (rows : List (ContactRow × List NumberRow))
  | addAddress
  | editAddress (idx : ℕ)
  | edit (e : DialogEdit)
  | cancel
  | ok (fault : Option ℕ) (rows : List (ContactRow × List NumberRow))
  | delAddress (items : List (ℕ × Bool)) (rows : List (ContactRow × List NumberRow))
  | importLine (ctrl : CsvImportCtrl) (line : ℕ) (fault : Option ℕ)

namespace ContactPage

/-- `Update`, from the timer and from `DoSearch`. -/
def update (s : ContactPage) (rows : List (ContactRow × List NumberRow)) : ContactPage :=
  match s.current with
  | none => { s with addressbook := none }
  | some book => { s with addressbook := some book, liEntries := ContactDb.getEntries rows }

/-- The contact that the dialog was opened for. -/
def contact (s : ContactPage) : Option ℕ → Contact
  | none => .create
  | some idx => s.liEntries.getD idx .create

/-- The tables of a book have become `db`. -/
def setBook (s : ContactPage) (book : ℕ) (db : ContactDb) : ContactPage :=
  { s with books := Function.update s.books book db }

/-- The contact is saved in a book. -/
def save (w : BookShelf) (s : ContactPage) (book : ℕ) (fault : Option ℕ) (c : Contact) :
    ContactPage :=
  s.setBook book ((s.books book).saveEntry (w.kind book) (w.isOk book) fault c).db

/-- `AddAddress` and `EditAddress`, after `ShowModal` up to `Update`; the row that was edited keeps
what the save makes of it. -/
def endModal (w : BookShelf) (s : ContactPage) (target : Option ℕ) (d : ContactDialogData)
    (fault : Option ℕ) : ContactPage :=
  let setEntry := fun c => target.elim s.liEntries fun idx => s.liEntries.set idx c
  let c := (s.contact target).ofDialog d
  match s.addressbook with
  | none => { s with dlg := none, liEntries := setEntry c }
  | some book =>
      let o := (s.books book).saveEntry (w.kind book) (w.isOk book) fault c
      { s.setBook book o.db with dlg := none, liEntries := setEntry o.contact }

/-- `DelAddress`, a turn of the loop; `deleteEntry` does nothing in a book that is not usable. -/
def deleteItem (w : BookShelf) (s : ContactPage) (item : ℕ × Bool) : ContactPage :=
  match s.addressbook, s.liEntries[item.1]? with
  | some book, some c =>
      if !w.isOk book || item.2 then s
      else s.setBook book (ContactDb.deleteEntry c (s.books book))
  | _, _ => s

/-- One step; an open dialog takes the commands. -/
def step (w : BookShelf) (s : ContactPage) : PageStep → ContactPage
  | .selectAbook book => if s.dlg.isSome then s else { s with current := book }
  | .update rows => s.update rows
  | .addAddress => if s.dlg.isSome then s else { s with dlg := some (none, .ofContact .create) }
  | .editAddress idx =>
      if s.dlg.isSome then s
      else match s.liEntries[idx]? with
        | none => s
        | some c => { s with dlg := some (some idx, .ofContact c) }
  | .edit e => { s with dlg := s.dlg.map fun t => (t.1, t.2.edit e) }
  | .cancel => { s with dlg := none }
  | .ok fault rows =>
      match s.dlg with
      | none => s
      | some (target, d) => (s.endModal w target d fault).update rows
  | .delAddress items rows =>
      if s.dlg.isSome then s else (items.foldl (deleteItem w) s).update rows
  | .importLine ctrl line fault =>
      match s.dlg, s.current with
      | none, some book => s.save w book fault (ctrl.importContact line)
      | _, _ => s

/-- After start-up: the books, and the one that is chosen. -/
def start (books : ℕ → ContactDb) (current : Option ℕ) : ContactPage :=
  ⟨books, current, none, [], none⟩

end ContactPage

/-! ### The shelf -/

/-- Books of cards. -/
abbrev Shelf := ℕ → Int → Option Card

/-- What is done to a shelf. -/
inductive ShelfOp where
  | add (book : ℕ) (key : Int) (card : Card)
  | change (book : ℕ) (key : Int) (card : Card)
  | remove (book : ℕ) (key : Int)

namespace Shelf

def put (b : Shelf) (book : ℕ) (key : Int) (card : Option Card) : Shelf :=
  Function.update b book (Function.update (b book) key card)

def apply (b : Shelf) : ShelfOp → Shelf
  | .add book key card => b.put book key (some card)
  | .change book key card => b.put book key (some card)
  | .remove book key => b.put book key none

/-- A new card gets a key that is free, and only a card that is there is changed. -/
def Allows (b : Shelf) : ShelfOp → Prop
  | .add book key _ => 0 < key ∧ b book key = none
  | .change book key _ => b book key ≠ none
  | .remove _ _ => True

end Shelf

namespace ContactPage

/-- The cards of the books. -/
def shelf (s : ContactPage) : Shelf := fun book => (s.books book).cards

/-- What a save is to the shelf: nothing, if it is not committed. -/
def saveOps (w : BookShelf) (s : ContactPage) (book : ℕ) (fault : Option ℕ) (c : Contact) :
    List ShelfOp :=
  if ((s.books book).saveEntry (w.kind book) (w.isOk book) fault c).committed then
    (ContactDb.storedCard (w.kind book) c).toList.map fun card =>
      if c.dbKey = 0 then .add book (s.books book).nxtcid card else .change book c.dbKey card
  else []

/-- What a deletion is to the shelf. -/
def deleteOp (w : BookShelf) (s : ContactPage) (item : ℕ × Bool) : Option ShelfOp :=
  match s.addressbook, s.liEntries[item.1]? with
  | some book, some c =>
      if !w.isOk book || item.2 then none else some (.remove book c.dbKey)
  | _, _ => none

/-- What a step is to the shelf. -/
def ops (w : BookShelf) (s : ContactPage) : PageStep → List ShelfOp
  | .ok fault _ =>
      match s.dlg, s.addressbook with
      | some (target, d), some book => s.saveOps w book fault ((s.contact target).ofDialog d)
      | _, _ => []
  | .delAddress items _ => if s.dlg.isSome then [] else items.filterMap (s.deleteOp w)
  | .importLine ctrl line fault =>
      match s.dlg, s.current with
      | none, some book => s.saveOps w book fault (ctrl.importContact line)
      | _, _ => []
  | _ => []

/-- The reading gives what the tables hold. -/
def Reads (s : ContactPage) (rows : List (ContactRow × List NumberRow)) : Prop :=
  ∀ book ∈ s.current, (s.books book).Fetched rows

/-- The readings give what the tables hold, and the list is not read again while the dialog of one
of its rows is open. -/
def Orderly (w : BookShelf) (s : ContactPage) : PageStep → Prop
  | .update rows => s.Reads rows ∧ s.dlg.bind (·.1) = none
  | .ok fault rows => ∀ t ∈ s.dlg, (s.endModal w t.1 t.2 fault).Reads rows
  | .delAddress items rows => (items.foldl (deleteItem w) s).Reads rows
  | _ => True

instance (s : ContactPage) (rows : List (ContactRow × List NumberRow)) : Decidable (s.Reads rows) :=
  inferInstanceAs (Decidable (∀ book ∈ s.current, (s.books book).Fetched rows))

instance (w : BookShelf) (s : ContactPage) : ∀ a, Decidable (Orderly w s a)
  | .update rows => inferInstanceAs (Decidable (s.Reads rows ∧ s.dlg.bind (·.1) = none))
  | .ok fault rows =>
      inferInstanceAs (Decidable (∀ t ∈ s.dlg, (s.endModal w t.1 t.2 fault).Reads rows))
  | .delAddress items rows => inferInstanceAs (Decidable ((items.foldl (deleteItem w) s).Reads rows))
  | .selectAbook _ | .addAddress | .editAddress _ | .edit _ | .cancel | .importLine .. =>
      inferInstanceAs (Decidable True)

/-- Every contact that is shown is the card that is stored under its key. -/
def Shown (s : ContactPage) : Prop :=
  ∀ book ∈ s.addressbook, ∀ c ∈ s.liEntries, s.shelf book c.dbKey = some c.card

/-- The invariant: the tables are well formed, what is shown was read from them, and the data of
the dialog were edited from its contact. -/
structure Inv (s : ContactPage) : Prop where
  wf : ∀ book, (s.books book).WF
  read : ∀ book ∈ s.addressbook, ∀ c ∈ s.liEntries, (s.books book).Read c
  new : ∀ d, s.dlg = some (none, d) → Edited .create d
  row : ∀ idx d, s.dlg = some (some idx, d) → s.addressbook.isSome →
    ∃ c, s.liEntries[idx]? = some c ∧ Edited c d

variable {w : BookShelf} {s : ContactPage} {book : ℕ} {c : Contact}

theorem Inv.shown (h : Inv s) : Shown s := fun book hbook c hc =>
  (h.read book hbook c hc).card (h.wf book)

theorem Inv.start {books : ℕ → ContactDb} (h : ∀ book, (books book).WF) (current : Option ℕ) :
    Inv (start books current) :=
  ⟨h, by rintro _ ⟨⟩, by rintro _ ⟨⟩, by rintro _ _ ⟨⟩⟩

/-! ### What the parts of a step do -/

/-- The list is read. -/
theorem Inv.update {rows : List (ContactRow × List NumberRow)} (hwf : ∀ book, (s.books book).WF)
    (hnew : ∀ d, s.dlg = some (none, d) → Edited .create d)
    (hrow : ∀ idx d, s.dlg ≠ some (some idx, d)) (hrows : s.Reads rows) :
    Inv (s.update rows) := by
  cases hbook : s.current with
  | none =>
      have he : s.update rows = { s with addressbook := none } := by
        simp only [ContactPage.update, hbook]
      rw [he]
      exact ⟨hwf, by rintro _ ⟨⟩, hnew, fun idx d hd => absurd hd (hrow idx d)⟩
  | some book =>
      have he : s.update rows = { s with
          addressbook := some book, liEntries := ContactDb.getEntries rows } := by
        simp only [ContactPage.update, hbook]
      rw [he]
      refine ⟨hwf, ?_, hnew, fun idx d hd => absurd hd (hrow idx d)⟩
      rintro _ ⟨⟩ c hc
      exact (hrows book hbook).read hc

theorem books_update (rows : List (ContactRow × List NumberRow)) :
    (s.update rows).books = s.books := by
  rw [update]
  split <;> rfl

theorem shelf_congr {s' : ContactPage} (h : s'.books = s.books) : s'.shelf = s.shelf :=
  congrArg (fun books : ℕ → ContactDb => fun book => (books book).cards) h

theorem shelf_update (rows : List (ContactRow × List NumberRow)) :
    (s.update rows).shelf = s.shelf := shelf_congr (books_update rows)

/-- A book of the shelf is replaced. -/
theorem shelf_setBook (s : ContactPage) (book : ℕ) (db : ContactDb) :
    (s.setBook book db).shelf = Function.update s.shelf book db.cards := by
  funext g
  show (Function.update s.books book db g).cards = _
  by_cases hg : g = book
  · subst hg
    rw [Function.update_self, Function.update_self]
  · rw [Function.update_of_ne hg, Function.update_of_ne hg]
    rfl

theorem wf_setBook {db : ContactDb} (hwf : ∀ book, (s.books book).WF) (hdb : db.WF) (g : ℕ) :
    ((s.setBook book db).books g).WF := by
  show (Function.update s.books book db g).WF
  by_cases hg : g = book
  · rw [hg, Function.update_self]
    exact hdb
  · rw [Function.update_of_ne hg]
    exact hwf g

/-- **A save is what `saveOps` says.** -/
theorem save_sim (hwf : ∀ book, (s.books book).WF) (hc : (s.books book).Fits c)
    (fault : Option ℕ) :
    (∀ g, ((s.save w book fault c).books g).WF) ∧
      Along Shelf.apply Shelf.Allows s.shelf (s.saveOps w book fault c) ∧
      (s.save w book fault c).shelf = run Shelf.apply s.shelf (s.saveOps w book fault c) := by
  have hdb := (ContactDb.saveEntry_cases (hwf book) hc (w.kind book) (w.isOk book) fault).1
  refine ⟨wf_setBook hwf hdb, ?_⟩
  rw [save, shelf_setBook, saveOps]
  rcases ContactDb.cards_saveEntry (hwf book) hc (w.kind book) (w.isOk book) fault with
    ⟨hno, hcards⟩ | ⟨hok, card, hcard, hcards⟩
  · rw [hno, hcards]
    exact ⟨trivial, Function.update_eq_self book s.shelf⟩
  · rw [if_pos hok, hcards, hcard]
    by_cases h0 : c.dbKey = 0
    · simp only [Option.toList_some, List.map_singleton, if_pos h0]
      exact ⟨⟨⟨(hwf book).contacts.pos, ContactDb.cards_nxtcid (hwf book)⟩, trivial⟩, rfl⟩
    · simp only [Option.toList_some, List.map_singleton, if_neg h0]
      refine ⟨⟨?_, trivial⟩, rfl⟩
      obtain ⟨r, hr, hid⟩ := List.mem_map.mp (hc.row.resolve_left h0)
      show (s.books book).cards c.dbKey ≠ none
      rw [← hid, ContactDb.cards_of_row (hwf book) hr]
      exact Option.some_ne_none _

/-- **The deletions are what `deleteOp` says.** -/
theorem delete_sim (hwf : ∀ book, (s.books book).WF) (items : List (ℕ × Bool)) :
    (∀ g, ((items.foldl (deleteItem w) s).books g).WF) ∧
      Along Shelf.apply Shelf.Allows s.shelf (items.filterMap (s.deleteOp w)) ∧
      (items.foldl (deleteItem w) s).shelf = run Shelf.apply s.shelf (items.filterMap (s.deleteOp w)) ∧
      (items.foldl (deleteItem w) s).dlg = s.dlg := by
  induction items generalizing s with
  | nil => exact ⟨hwf, trivial, rfl, rfl⟩
  | cons item items ih =>
      -- one turn: a book is replaced, and the list and the book it was read from stay
      have hturn : (s.deleteOp w item = none ∧ s.deleteItem w item = s) ∨
          ∃ book c, s.deleteOp w item = some (.remove book c.dbKey) ∧
            s.deleteItem w item = s.setBook book (ContactDb.deleteEntry c (s.books book)) := by
        cases hbook : s.addressbook with
        | none => exact .inl ⟨by simp only [deleteOp, hbook], by simp only [deleteItem, hbook]⟩
        | some book =>
            cases hc : s.liEntries[item.1]? with
            | none =>
                exact .inl ⟨by simp only [deleteOp, hbook, hc],
                  by simp only [deleteItem, hbook, hc]⟩
            | some c =>
                cases hfails : !w.isOk book || item.2 with
                | true =>
                    exact .inl ⟨by simp only [deleteOp, hbook, hc, hfails, if_true],
                      by simp only [deleteItem, hbook, hc, hfails, if_true]⟩
                | false =>
                    exact .inr ⟨book, c,
                      by simp only [deleteOp, hbook, hc, hfails, Bool.false_eq_true, if_false],
                      by simp only [deleteItem, hbook, hc, hfails, Bool.false_eq_true, if_false]⟩
      rw [List.foldl_cons]
      rcases hturn with ⟨hop, hitem⟩ | ⟨book, c, hop, hitem⟩
      · rw [List.filterMap_cons_none hop, hitem]
        exact ih hwf
      · rw [List.filterMap_cons_some hop, hitem]
        have hset : ∀ g, ((s.setBook book (ContactDb.deleteEntry c (s.books book))).books g).WF :=
          wf_setBook hwf ((hwf book).deleteEntry c)
        have hrest := ih hset
        rw [shelf_setBook, ContactDb.cards_deleteEntry (hwf book)] at hrest
        exact ⟨hrest.1, ⟨trivial, hrest.2.1⟩, hrest.2.2⟩

/-! ### Contacts that fit -/

/-- A phone of a contact that is imported has no key. -/
theorem importContact_keys (ctrl : CsvImportCtrl) (line : ℕ) :
    (ctrl.importContact line).dbKey = 0 ∧
      ∀ ph ∈ (ctrl.importContact line).phones, ph.dbKey = 0 := by
  have hcolumn : ∀ (c : Contact) (col : ℕ), (c.dbKey = 0 ∧ ∀ ph ∈ c.phones, ph.dbKey = 0) →
      (ctrl.importColumn line c col).dbKey = 0 ∧
        ∀ ph ∈ (ctrl.importColumn line c col).phones, ph.dbKey = 0 := by
    intro c col h
    rw [CsvImportCtrl.importColumn]
    dsimp only
    split <;> try exact h
    split_ifs <;> try exact h
    refine ⟨h.1, fun ph hph => ?_⟩
    rcases List.mem_append.mp hph with hph | hph
    · exact h.2 ph hph
    · rw [List.mem_singleton.mp hph]
      rfl
  have hline : ∀ (cols : List ℕ) (c : Contact), (c.dbKey = 0 ∧ ∀ ph ∈ c.phones, ph.dbKey = 0) →
      (cols.foldl (ctrl.importColumn line) c).dbKey = 0 ∧
        ∀ ph ∈ (cols.foldl (ctrl.importColumn line) c).phones, ph.dbKey = 0 := by
    intro cols
    induction cols with
    | nil => exact fun _ h => h
    | cons col cols ih => exact fun c h => ih _ (hcolumn c col h)
  have hname : ∀ c : Contact,
      (constructSN c).dbKey = c.dbKey ∧ (constructSN c).phones = c.phones := by
    intro c
    rw [constructSN]
    split_ifs <;> exact ⟨rfl, rfl⟩
  obtain ⟨hkey, hphones⟩ := hline (List.range ctrl.columnCount) .create
    ⟨rfl, fun _ h => absurd h List.not_mem_nil⟩
  rw [CsvImportCtrl.importContact, (hname _).1, (hname _).2]
  exact ⟨hkey, hphones⟩

/-- What is saved from the dialog fits the tables. -/
theorem Inv.fits (h : Inv s) {target : Option ℕ} {d : ContactDialogData}
    (hd : s.dlg = some (target, d)) (hbook : s.addressbook = some book) :
    (s.books book).Fits ((s.contact target).ofDialog d) := by
  cases target with
  | none =>
      have he := h.new d hd
      refine .of_new rfl fun ph hph => ?_
      by_contra h0
      exact List.not_mem_nil (he.keys.subset
        (List.mem_filter.mpr ⟨List.mem_map_of_mem hph, by simpa using h0⟩))
  | some idx =>
      obtain ⟨c, hc, he⟩ := h.row idx d hd (by rw [hbook]; rfl)
      have hread := h.read book hbook c (List.mem_of_getElem? hc)
      rw [contact, List.getD_eq_getElem?_getD, hc]
      exact hread.fits (h.wf book) he

/-! ### The refinement -/

/-- The dialog's contact is saved in the book that the list was read from. -/
theorem books_endModal (target : Option ℕ) (d : ContactDialogData) (fault : Option ℕ) :
    (s.endModal w target d fault).dlg = none ∧ (s.endModal w target d fault).books =
      (match s.addressbook with
        | none => s
        | some book => s.save w book fault ((s.contact target).ofDialog d)).books := by
  rw [endModal]
  cases s.addressbook <;> exact ⟨rfl, rfl⟩

/-- A step keeps the invariant and is, on the shelf, its operations. -/
def Simulates (w : BookShelf) (s : ContactPage) (a : PageStep) : Prop :=
  Inv (s.step w a) ∧ Along Shelf.apply Shelf.Allows s.shelf (s.ops w a) ∧
    (s.step w a).shelf = run Shelf.apply s.shelf (s.ops w a)

/-- A step that leaves the books as they are. -/
theorem simulates_of_books {a : PageStep} (hinv : Inv (s.step w a))
    (hbooks : (s.step w a).books = s.books) (hops : s.ops w a = []) : Simulates w s a := by
  refine ⟨hinv, ?_⟩
  rw [hops, shelf_congr hbooks]
  exact ⟨trivial, rfl⟩

/-- A step that does nothing. -/
theorem simulates_of_eq (h : Inv s) {a : PageStep} (hstep : s.step w a = s)
    (hops : s.ops w a = []) : Simulates w s a :=
  simulates_of_books (hstep.symm ▸ h) (congrArg ContactPage.books hstep) hops

theorem simulates_selectAbook (h : Inv s) (b : Option ℕ) : Simulates w s (.selectAbook b) := by
  cases hopen : s.dlg.isSome with
  | true => exact simulates_of_eq h (by simp only [step, hopen, if_true]) rfl
  | false =>
      have hstep : s.step w (.selectAbook b) = { s with current := b } := by
        simp only [step, hopen, Bool.false_eq_true, if_false]
      exact simulates_of_books (hstep ▸ ⟨h.wf, h.read, h.new, h.row⟩) (by rw [hstep]) rfl

theorem simulates_update (h : Inv s) {rows : List (ContactRow × List NumberRow)}
    (ha : s.Orderly w (.update rows)) : Simulates w s (.update rows) := by
  obtain ⟨hrows, hrow⟩ := ha
  refine simulates_of_books (.update h.wf h.new (fun idx d hd => ?_) hrows) (books_update rows) rfl
  rw [hd] at hrow
  cases hrow

/-- A dialog is opened on a new contact. -/
theorem simulates_addAddress (h : Inv s) : Simulates w s .addAddress := by
  cases hopen : s.dlg.isSome with
  | true => exact simulates_of_eq h (by simp only [step, hopen, if_true]) rfl
  | false =>
      have hstep : s.step w .addAddress = { s with dlg := some (none, .ofContact .create) } := by
        simp only [step, hopen, Bool.false_eq_true, if_false]
      refine simulates_of_books (hstep ▸ ⟨h.wf, h.read, ?_, ?_⟩) (by rw [hstep]) rfl
      · rintro _ ⟨⟩
        exact .ofContact
      · rintro _ _ ⟨⟩

/-- A dialog is opened on a row. -/
theorem simulates_editAddress (h : Inv s) (idx : ℕ) : Simulates w s (.editAddress idx) := by
  cases hopen : s.dlg.isSome with
  | true => exact simulates_of_eq h (by simp only [step, hopen, if_true]) rfl
  | false =>
      cases hc : s.liEntries[idx]? with
      | none =>
          have hstep : s.step w (.editAddress idx) = s := by
            simp only [step, hopen, hc, Bool.false_eq_true, if_false]
          exact simulates_of_eq h hstep rfl
      | some c =>
          have hstep : s.step w (.editAddress idx) =
              { s with dlg := some (some idx, .ofContact c) } := by
            simp only [step, hopen, hc, Bool.false_eq_true, if_false]
          refine simulates_of_books (hstep ▸ ⟨h.wf, h.read, ?_, ?_⟩) (by rw [hstep]) rfl
          · rintro _ ⟨⟩
          · rintro _ _ ⟨⟩ -
            exact ⟨c, hc, .ofContact⟩

/-- What is typed stays an edit of the dialog's contact. -/
theorem simulates_edit (h : Inv s) (e : DialogEdit) : Simulates w s (.edit e) := by
  refine simulates_of_books ⟨h.wf, h.read, fun d hd => ?_, fun idx d hd hbook => ?_⟩ rfl rfl
  · obtain ⟨⟨target, d₀⟩, hd₀, he⟩ := Option.map_eq_some_iff.mp hd
    obtain ⟨rfl, rfl⟩ := Prod.mk.inj he
    exact (h.new d₀ hd₀).edit (fun _ hph => absurd hph List.not_mem_nil) e
  · obtain ⟨⟨target, d₀⟩, hd₀, he⟩ := Option.map_eq_some_iff.mp hd
    obtain ⟨rfl, rfl⟩ := Prod.mk.inj he
    obtain ⟨c, hc, hedited⟩ := h.row idx d₀ hd₀ hbook
    obtain ⟨book, hbook⟩ := Option.isSome_iff_exists.mp hbook
    exact ⟨c, hc, hedited.edit (h.read book hbook c (List.mem_of_getElem? hc)).trim_number e⟩

/-- The save of the dialog, if there is a book. -/
theorem endModal_sim (h : Inv s) {target : Option ℕ} {d : ContactDialogData}
    (hdlg : s.dlg = some (target, d)) (fault : Option ℕ)
    (rows : List (ContactRow × List NumberRow)) :
    (∀ g, ((s.endModal w target d fault).books g).WF) ∧
      Along Shelf.apply Shelf.Allows s.shelf (s.ops w (.ok fault rows)) ∧
      (s.endModal w target d fault).shelf =
        run Shelf.apply s.shelf (s.ops w (.ok fault rows)) := by
  obtain ⟨-, hbooks⟩ := books_endModal (w := w) (s := s) target d fault
  rw [shelf_congr hbooks, hbooks]
  cases hbook : s.addressbook with
  | none =>
      have hops : s.ops w (.ok fault rows) = [] := by simp only [ops, hdlg, hbook]
      rw [hops]
      exact ⟨h.wf, trivial, rfl⟩
  | some book =>
      have hops : s.ops w (.ok fault rows) =
          s.saveOps w book fault ((s.contact target).ofDialog d) := by
        simp only [ops, hdlg, hbook]
      rw [hops]
      exact save_sim h.wf (h.fits hdlg hbook) fault

theorem simulates_ok (h : Inv s) {fault : Option ℕ} {rows : List (ContactRow × List NumberRow)}
    (ha : s.Orderly w (.ok fault rows)) : Simulates w s (.ok fault rows) := by
  cases hdlg : s.dlg with
  | none => exact simulates_of_eq h (by simp only [step, hdlg]) (by simp only [ops, hdlg])
  | some t =>
      obtain ⟨target, d⟩ := t
      have hstep : s.step w (.ok fault rows) = (s.endModal w target d fault).update rows := by
        simp only [step, hdlg]
      obtain ⟨hclosed, -⟩ := books_endModal (w := w) (s := s) target d fault
      obtain ⟨hwf, hsim⟩ := endModal_sim (w := w) h hdlg fault rows
      rw [Simulates, hstep, shelf_update]
      refine ⟨.update hwf ?_ ?_ (ha (target, d) hdlg), hsim⟩
      · rw [hclosed]
        rintro _ ⟨⟩
      · rw [hclosed]
        rintro _ _ ⟨⟩

theorem simulates_delAddress (h : Inv s) {items : List (ℕ × Bool)}
    {rows : List (ContactRow × List NumberRow)} (ha : s.Orderly w (.delAddress items rows)) :
    Simulates w s (.delAddress items rows) := by
  rw [Simulates, step, ops]
  split_ifs with hopen
  · exact ⟨h, trivial, rfl⟩
  · have hdlg : s.dlg = none := by simpa using hopen
    obtain ⟨hwf, hallowed, hsim, hsame⟩ := delete_sim (w := w) h.wf items
    rw [shelf_update]
    refine ⟨.update hwf ?_ ?_ ha, hallowed, hsim⟩
    · rw [hsame, hdlg]
      rintro _ ⟨⟩
    · rw [hsame, hdlg]
      rintro _ _ ⟨⟩

/-- A contact that is imported is not one of those that are shown. -/
theorem Inv.importContact (h : Inv s) (book : ℕ) (fault : Option ℕ) (ctrl : CsvImportCtrl)
    (line : ℕ) : ∀ g ∈ s.addressbook, ∀ c ∈ s.liEntries,
      ((s.save w book fault (ctrl.importContact line)).books g).Read c := by
  intro g hg c hc
  obtain ⟨hkey, hkeys⟩ := importContact_keys ctrl line
  have hread := h.read g hg c hc
  by_cases hgb : g = book
  · subst hgb
    have hne : c.dbKey ≠ (ctrl.importContact line).dbKey := hkey ▸ hread.key_ne (h.wf g)
    show (Function.update s.books g _ g).Read c
    rw [Function.update_self]
    exact hread.saveEntry (h.wf g) (.of_new hkey hkeys) hne _ _ _
  · show (Function.update s.books book _ g).Read c
    rw [Function.update_of_ne hgb]
    exact hread

theorem simulates_importLine (h : Inv s) (ctrl : CsvImportCtrl) (line : ℕ) (fault : Option ℕ) :
    Simulates w s (.importLine ctrl line fault) := by
  cases hdlg : s.dlg with
  | some t => exact simulates_of_eq h (by simp only [step, hdlg]) (by simp only [ops, hdlg])
  | none =>
      cases hbook : s.current with
      | none =>
          exact simulates_of_eq h (by simp only [step, hdlg, hbook])
            (by simp only [ops, hdlg, hbook])
      | some book =>
          have hstep : s.step w (.importLine ctrl line fault) =
              s.save w book fault (ctrl.importContact line) := by simp only [step, hdlg, hbook]
          have hops : s.ops w (.importLine ctrl line fault) =
              s.saveOps w book fault (ctrl.importContact line) := by
            simp only [ops, hdlg, hbook]
          obtain ⟨hkey, hkeys⟩ := importContact_keys ctrl line
          obtain ⟨hwf, hsim⟩ := save_sim h.wf (w := w) (.of_new hkey hkeys) fault
          rw [Simulates, hstep, hops]
          exact ⟨⟨hwf, h.importContact book fault ctrl line, h.new, h.row⟩, hsim⟩

/-- **Every step.** -/
theorem step_sim (h : Inv s) {a : PageStep} (ha : s.Orderly w a) : Simulates w s a := by
  cases a with
  | selectAbook book => exact simulates_selectAbook h book
  | update rows => exact simulates_update h ha
  | addAddress => exact simulates_addAddress h
  | editAddress idx => exact simulates_editAddress h idx
  | edit e => exact simulates_edit h e
  | cancel =>
      exact simulates_of_books ⟨h.wf, h.read, by rintro _ ⟨⟩, by rintro _ _ ⟨⟩⟩ rfl rfl
  | ok fault rows => exact simulates_ok h ha
  | delAddress items rows => exact simulates_delAddress h ha
  | importLine ctrl line fault => exact simulates_importLine h ctrl line fault

/-- **The page is a shelf of books of cards.** -/
theorem refines (w : BookShelf) :
    Refines (step w) (Orderly w) Inv shelf (ops w) Shelf.apply Shelf.Allows :=
  ⟨fun _ _ h ha => (step_sim h ha).1, fun _ _ h ha => (step_sim h ha).2.1,
    fun _ _ h ha => (step_sim h ha).2.2⟩

/-- **In every orderly run** the cards of all books are those that the operations of the run make
of the shelf, and each operation is allowed: a new card is put under a free key, and only a card
that is there is changed. -/
theorem shelf_run {books : ℕ → ContactDb} (hbooks : ∀ book, (books book).WF)
    (current : Option ℕ) {as : List PageStep}
    (has : Along (step w) (Orderly w) (start books current) as) :
    Along Shelf.apply Shelf.Allows (start books current).shelf
        (trace (step w) (ops w) (start books current) as) ∧
      (run (step w) (start books current) as).shelf = run Shelf.apply (start books current).shelf
        (trace (step w) (ops w) (start books current) as) :=
  ((refines w).run (.start hbooks current) has).2

/-- **What is shown is what is stored,** in every state of an orderly run. -/
theorem shown_run {books : ℕ → ContactDb} (hbooks : ∀ book, (books book).WF)
    (current : Option ℕ) {as : List PageStep}
    (has : Along (step w) (Orderly w) (start books current) as) :
    Shown (run (step w) (start books current) as) :=
  ((refines w).run (.start hbooks current) has).1.shown

/-- Two new books, of both kinds. -/
def twoBooks : BookShelf := ⟨fun book => if book = 0 then .sqlite else .psql, fun _ => true⟩

/-- A contact with a number is added. -/
def adaAdded : List PageStep :=
  [.update [], .addAddress, .edit (.setText .fn "Ada"), .edit (.addItem "110"),
    .ok none [(⟨1, { Contact.create.texts with fn := "Ada" }⟩, [⟨1, 1, .general, "110", ""⟩])]]

/-- Then the other book is chosen, the number is edited before the list is read again, and a save in
the other book fails. -/
def adaEdited : List PageStep :=
  adaAdded ++ [.selectAbook (some 1), .editAddress 0, .edit (.setNumber 0 " 112 "), .ok none [],
    .addAddress, .edit (.setText .fn "Bob"), .ok (some 0) []]

theorem shelf_run_ada :
    Along Shelf.apply Shelf.Allows (start (fun _ => .initial) (some 0)).shelf
        (trace (step twoBooks) (ops twoBooks) (start (fun _ => .initial) (some 0)) adaEdited) ∧
      (run (step twoBooks) (start (fun _ => .initial) (some 0)) adaEdited).shelf =
        run Shelf.apply (start (fun _ => .initial) (some 0)).shelf
          (trace (step twoBooks) (ops twoBooks) (start (fun _ => .initial) (some 0)) adaEdited) :=
  shelf_run (fun _ => ContactDb.WF.initial) (some 0) (by decide +kernel)

theorem shown_run_ada :
    Shown (run (step twoBooks) (start (fun _ => .initial) (some 0)) adaAdded) :=
  shown_run (fun _ => ContactDb.WF.initial) (some 0) (by decide +kernel)

/-- The edit went to the book that was shown. -/
example : ((run (step twoBooks) (start (fun _ => .initial) (some 0)) adaEdited).shelf 0 1).map
    (·.phones) = some {⟨0, false, .general, "112", ""⟩} := by decide +kernel

/-! ### What the user typed -/

theorem columns_isDirty {b : BookKind} {m : Contact} (h : ContactDb.columns b c = some m) :
    m.isDirty.1 = c.isDirty.1 := by
  simp only [ContactDb.columns, Option.bind_eq_bind, Option.pure_def, Option.bind_eq_some_iff] at h
  obtain ⟨texts, -, phones, hphones, ⟨⟩⟩ := h
  have hflags : ∀ {l l' : List Phone}, ContactDb.columnPhones b l = some l' →
      l'.any (·.dirty) = l.any (·.dirty) := by
    intro l
    induction l with
    | nil =>
        intro l' hl
        cases hl
        rfl
    | cons ph l ih =>
        intro l' hl
        obtain ⟨ph', l'', hph, hrest, rfl⟩ := ContactDb.columnPhones_cons.mp hl
        obtain ⟨number, note, -, -, rfl⟩ := ContactDb.columnPhone_iff.mp hph
        rw [List.any_cons, List.any_cons, ih hrest]
  show (c.dirty || phones.any (·.dirty)) = (c.dirty || c.phones.any (·.dirty))
  rw [hflags hphones]

/-- A save in a usable book, without a failure, of a text that the columns take. -/
theorem committed_of_dirty {fault : Option ℕ} {b : BookKind} {db : ContactDb} {card : Card}
    (hc : db.Fits c) (hd : c.isDirty.1 = true) (hcard : ContactDb.storedCard b c = some card)
    (hf : fault = none) : (db.saveEntry b true fault c).committed = true := by
  obtain ⟨m, hm, -⟩ := Option.map_eq_some_iff.mp hcard
  obtain ⟨hkey, hkeys, -, -⟩ := ContactDb.of_columns hm
  have hfits : db.Fits m := hc.of_keys hkey.symm hkeys.symm
  rw [ContactDb.saveEntry, hm, hf]
  show (ContactDb.insertUpdateEntry b true none db m).committed = true
  rw [ContactDb.insertUpdateEntry_free ((columns_isDirty hm).trans hd) hfits.row]

/-- **Nothing that was typed is lost without a failure.**  In every state of an orderly run, OK in a
dialog puts the card of its data on the shelf, or the data say what the contact said before. -/
theorem typed_run {books : ℕ → ContactDb} (hbooks : ∀ book, (books book).WF)
    (current : Option ℕ) {as : List PageStep}
    (has : Along (step w) (Orderly w) (start books current) as) {target : Option ℕ}
    {d : ContactDialogData} {card : Card}
    (hdlg : (run (step w) (start books current) as).dlg = some (target, d))
    (hbook : (run (step w) (start books current) as).addressbook = some book)
    (hok : w.isOk book = true)
    (hcard : ContactDb.storedCard (w.kind book)
      (((run (step w) (start books current) as).contact target).ofDialog d) = some card)
    (rows : List (ContactRow × List NumberRow)) :
    let s := run (step w) (start books current) as
    let c := (s.contact target).ofDialog d
    (s.step w (.ok none rows)).shelf = s.shelf.put book
        (if c.dbKey = 0 then (s.books book).nxtcid else c.dbKey) (some card) ∨
      (s.step w (.ok none rows)).shelf = s.shelf ∧ c.card = (s.contact target).card := by
  intro s c
  have h : Inv s := ((refines w).run (.start hbooks current) has).1
  have hfits : (s.books book).Fits c := h.fits hdlg hbook
  have hshelf : (s.step w (.ok none rows)).shelf = (s.save w book none c).shelf := by
    have hstep : s.step w (.ok none rows) = (s.endModal w target d none).update rows := by
      simp only [step, s, hdlg]
    rw [hstep, shelf_update, shelf_congr (books_endModal target d none).2]
    simp only [s, hbook]
    rfl
  rw [hshelf, save, shelf_setBook, hok]
  rcases ContactDb.cards_saveEntry (h.wf book) hfits (w.kind book) true none with
    ⟨hno, hcards⟩ | ⟨-, card', hcard', hcards⟩
  · refine .inr ⟨by rw [hcards]; exact Function.update_eq_self book s.shelf, ?_⟩
    have hd : c.isDirty.1 = false := by
      by_contra hd
      rw [committed_of_dirty hfits (by simpa using hd) hcard rfl] at hno
      cases hno
    have hedited : Edited (s.contact target) d := by
      cases target with
      | none => exact h.new d hdlg
      | some idx =>
          obtain ⟨c₀, hc₀, he⟩ := h.row idx d hdlg (by rw [hbook]; rfl)
          rw [contact, List.getD_eq_getElem?_getD, hc₀]
          exact he
    obtain ⟨htexts, hphones⟩ := hedited.unchanged hd
    show Card.mk ((s.contact target).ofDialog d).texts (d.phones.map (·.bare)) = _
    rw [Contact.ofDialog, Contact.setTexts_texts, ← htexts, hphones]
    rfl
  · obtain rfl : card = card' := Option.some.inj (hcard.symm.trans hcard')
    rw [hcards]
    exact .inl rfl

/-- The dialog of a new contact is open. -/
theorem typed_run_ada :
    let s := run (step twoBooks) (start (fun _ => .initial) (some 0))
      [.update [], .addAddress, .edit (.setText .fn "Ada")]
    let c := (s.contact none).ofDialog ⟨{ Contact.create.texts with fn := "Ada" }, []⟩
    (s.step twoBooks (.ok none [])).shelf = s.shelf.put 0
        (if c.dbKey = 0 then (s.books 0).nxtcid else c.dbKey)
        (some ⟨{ Contact.create.texts with fn := "Ada" }, 0⟩) ∨
      (s.step twoBooks (.ok none [])).shelf = s.shelf ∧ c.card = (s.contact none).card :=
  typed_run (fun _ => ContactDb.WF.initial) (some 0) (by decide +kernel) rfl rfl rfl
    (by decide +kernel) []

end ContactPage
end Cmon
