import Cmon.App.ContactPage
import Cmon.Csv.RoundTrip

/-!
# App — a book that is exported and imported

`CContactPage::DoExport` writes the contacts of the list to a file, and `CImportCSVDialog::OnImport`
saves the contacts of a file in the current address book, one line after the other.

* `raised_importCells`: a contact of an export is saved, unless there is nothing in it.
* `transferred_run`: after the import of an export the book has its cards as before and, under new
  keys in their order, those of the exported contacts.
-/

namespace Cmon
open Library

/-! ### The flags of an imported contact -/

/-- The flags tell whether there is something in the contact. -/
def Contact.Raised (c : Contact) : Prop := c.isDirty.1 = true ↔ c.bare ≠ .create

namespace Contact
variable {c : Contact}

theorem bare_ne_create : c.bare ≠ .create ↔ c.texts ≠ create.texts ∨ c.phones ≠ [] := by
  have heq : c.bare = .create ↔ c.texts = create.texts ∧ c.phones = [] := by
    constructor
    · intro h
      have htexts : c.bare.texts = create.texts := congrArg (fun c : Contact => c.texts) h
      have hphones : c.bare.phones = [] := congrArg (fun c : Contact => c.phones) h
      exact ⟨htexts, List.map_eq_nil_iff.mp hphones⟩
    · rintro ⟨htexts, hphones⟩
      rw [bare, htexts, hphones]
      rfl
  rw [ne_eq, heq, not_and_or]

/-- The flag of a contact that tells of its texts, and phones that are new. -/
theorem raised_of_new (htexts : c.dirty = true ↔ c.texts ≠ create.texts)
    (hphones : ∀ ph ∈ c.phones, ph.dirty = true) : c.Raised := by
  have hany : c.phones.any (·.dirty) = true ↔ c.phones ≠ [] := by
    rw [List.any_eq_true]
    constructor
    · rintro ⟨ph, hph, -⟩
      exact List.ne_nil_of_mem hph
    · intro hne
      obtain ⟨ph, hph⟩ := List.exists_mem_of_ne_nil _ hne
      exact ⟨ph, hph, hphones ph hph⟩
  rw [Raised, isDirty, bare_ne_create, Bool.or_eq_true, htexts, hany]

/-- A name is made of a last name, which has raised the flag. -/
theorem Raised.constructSN (h : c.Raised) : (constructSN c).Raised := by
  have hname : Cmon.constructSN c = c ∨
      c.texts.ln ≠ "" ∧ ∃ strName, Cmon.constructSN c = c.setSN strName := by
    rw [Cmon.constructSN]
    by_cases hsn : c.texts.sn = ""
    · by_cases hln : c.texts.ln ≠ ""
      · rw [if_pos hsn, if_pos hln]
        exact .inr ⟨hln, _, rfl⟩
      · rw [if_pos hsn, if_neg hln]
        exact .inl rfl
    · rw [if_neg hsn]
      exact .inl rfl
  obtain hsame | ⟨hln, strName, hset⟩ := hname
  · rw [hsame]
    exact h
  · have hne : ∀ {c' : Contact}, c'.texts.ln = c.texts.ln → c'.bare ≠ .create := fun hc' he =>
      hln (hc' ▸ congrArg (fun c : Contact => c.texts.ln) he)
    have hdirty : (c.dirty || c.phones.any (·.dirty)) = true := h.mpr (hne rfl)
    rw [hset]
    refine ⟨fun _ => hne rfl, fun _ => ?_⟩
    show ((c.dirty || _) || c.phones.any (·.dirty)) = true
    rw [Bool.or_right_comm, hdirty, Bool.true_or]

end Contact

/-- The texts of the columns raise the flag, unless all of them are empty. -/
theorem dirty_importTexts (types : Nat → Option NumberType) (cell : Nat → String) :
    ((List.range 9).foldl (importCell types cell) .create).dirty = true ↔
      ((List.range 9).foldl (importCell types cell) .create).texts ≠ Contact.create.texts := by
  rw [foldl_importCell_texts]
  simp only [Contact.setFN, Contact.setMN, Contact.setLN, Contact.setNN, Contact.setTitle,
    Contact.setSN, Contact.setEmail, Contact.setOrganization, Contact.setText_dirty,
    Contact.setText_texts]
  simp only [Contact.create, ContactTexts.get, ContactTexts.set, ne_eq, ContactTexts.mk.injEq,
    Bool.false_eq_true, false_or, eq_comm (a := "")]
  tauto

/-- **A contact of an export is saved,** unless there is nothing in it. -/
theorem raised_importCells (types : Nat → Option NumberType) (numTel : Nat) (c : Contact) :
    (importCells types numTel c).Raised := by
  have hnil : ∀ cell : Nat → String,
      ((List.range 9).foldl (importCell types cell) .create).phones = [] := fun cell => by
    rw [foldl_importCell_texts]
    rfl
  have hdirty := dirty_importTexts types
  rw [importCells, List.range_add, List.foldl_append, foldl_importCell_phones]
  generalize (fun col => unified ((exportCells numTel c).getD col "")) = cell
  specialize hnil cell
  specialize hdirty cell
  generalize (List.range 9).foldl (importCell types cell) .create = texts at hnil hdirty
  refine .constructSN (Contact.raised_of_new hdirty fun ph hph => ?_)
  rw [hnil] at hph
  obtain ⟨j, -, hj⟩ := List.mem_filterMap.mp hph
  rw [importPhone] at hj
  split_ifs at hj
  obtain ⟨t, -, rfl⟩ := Option.map_eq_some_iff.mp hj
  rfl

namespace ContactDb
variable {b : BookKind} {s : ContactDb} {c : Contact}

/-- Keys and flags are not on the card. -/
theorem storedCard_bare (b : BookKind) (c : Contact) : storedCard b c.bare = storedCard b c := by
  have hphones : ∀ l : List Phone, (columnPhones b (l.map (·.bare))) =
      (columnPhones b l).map fun l' => l'.map (·.bare) := by
    intro l
    induction l with
    | nil => rfl
    | cons ph l ih =>
        have hph : columnPhone b ph.bare = (columnPhone b ph).map (·.bare) := by
          have htexts : ph.bare.number = ph.number ∧ ph.bare.note = ph.note := ⟨rfl, rfl⟩
          rw [columnPhone, columnPhone, htexts.1, htexts.2]
          cases varchar b.canonicalLimit (toAscii ph.number) with
          | none => rfl
          | some number => cases varchar b.noteLimit (toUTF8 ph.note) <;> rfl
        rw [List.map_cons, columnPhones, columnPhones, ih, hph]
        cases columnPhone b ph with
        | none => rfl
        | some ph' => cases columnPhones b l <;> rfl
  rw [storedCard, storedCard, columns, columns]
  have htexts : c.bare.texts = c.texts := rfl
  have hbare : c.bare.phones = c.phones.map (·.bare) := rfl
  rw [htexts, hbare, hphones]
  cases columnTexts b (toColumns c.texts) with
  | none => rfl
  | some texts =>
      cases columnPhones b c.phones with
      | none => rfl
      | some phones =>
          show some (Card.mk _ _) = some (Card.mk _ _)
          rw [List.map_map]
          rfl

/-! ### The import of a line -/

/-- A new contact takes one key, without a failure. -/
theorem nxtcid_saveEntry {card : Card} (hkey : c.dbKey = 0) (hd : c.isDirty.1 = true)
    (hcard : storedCard b c = some card) : (saveEntry b true none s c).db.nxtcid =
      s.nxtcid + 1 := by
  have hnumbers : ∀ (key : Int) (l : List Phone) (s : ContactDb),
      (savedNumbers key s l).1.nxtcid = s.nxtcid := by
    intro key l
    induction l with
    | nil => exact fun _ => rfl
    | cons ph l ih =>
        intro s
        rw [savedNumbers_cons, ih, savedNumber]
        split_ifs <;> rfl
  obtain ⟨m, hm, -⟩ := Option.map_eq_some_iff.mp hcard
  obtain ⟨hmkey, -, -, -⟩ := of_columns hm
  have hdb : (saveEntry b true none s c).db = (insertUpdateEntry b true none s m).db := by
    rw [saveEntry, hm]
  rw [hdb, insertUpdateEntry_free ((ContactPage.columns_isDirty hm).trans hd)
    (.inl (hmkey.trans hkey))]
  have hnew : (m.setDirty true).dbKey = 0 := hmkey.trans hkey
  show (savedNumbers _ (savedContact s (m.setDirty true)).1 _).1.nxtcid = s.nxtcid + 1
  rw [hnumbers, savedContact, if_pos hnew]
  rfl

/-- No card is behind the counter. -/
theorem cards_of_nxtcid_le (hs : WF s) {k : Int} (hk : s.nxtcid ≤ k) : cards s k = none :=
  cards_eq_none fun hmem => absurd (hs.contacts.of_mem hmem).2 (not_lt.mpr hk)

end ContactDb

namespace ContactPage

/-- `OnImport`, when no statement fails. -/
def importSteps (ctrl : CsvImportCtrl) : List PageStep :=
  (List.range ctrl.lines.length).map fun line => .importLine ctrl line none

/-- The cards of new contacts; one in which there is nothing is not saved. -/
def newCards (b : BookKind) (cs : List Contact) : List Card :=
  cs.filterMap fun c => if c.bare = .create then none else ContactDb.storedCard b c

/-- Cards have come to a book under the next keys, and nothing else has changed on the shelf. -/
structure Appended (s : ContactPage) (book : ℕ) (cards : List Card) (s' : ContactPage) : Prop where
  others : ∀ g ≠ book, s'.shelf g = s.shelf g
  found : ∀ k, s'.shelf book k = if k < (s.books book).nxtcid then s.shelf book k
    else cards[(k - (s.books book).nxtcid).toNat]?
  next : (s'.books book).nxtcid = (s.books book).nxtcid + cards.length

variable {w : BookShelf} {s s' s'' : ContactPage} {book : ℕ} {cards cards' : List Card}

theorem Appended.nil (hwf : (s.books book).WF) : s.Appended book [] s where
  others _ _ := rfl
  found k := by
    split_ifs with hk
    · rfl
    · exact ContactDb.cards_of_nxtcid_le hwf (not_lt.mp hk)
  next := (Int.add_zero _).symm

theorem Appended.trans (h : s.Appended book cards s') (h' : s'.Appended book cards' s'') :
    s.Appended book (cards ++ cards') s'' where
  others g hg := (h'.others g hg).trans (h.others g hg)
  found k := by
    rw [h'.found, h.found, h.next]
    by_cases hk : k < (s.books book).nxtcid
    · rw [if_pos hk, if_pos hk, if_pos (by omega)]
    · rw [if_neg hk, if_neg hk]
      by_cases hlt : k < (s.books book).nxtcid + cards.length
      · rw [if_pos hlt, List.getElem?_append_left (by omega)]
      · rw [if_neg hlt, List.getElem?_append_right (by omega)]
        congr 1
        omega
  next := by
    rw [h'.next, h.next, List.length_append]
    push_cast
    omega

/-- Keys and flags are not on the new cards. -/
theorem newCards_map_bare (b : BookKind) (cs : List Contact) :
    newCards b (cs.map (·.bare)) = newCards b cs := by
  rw [newCards, newCards, List.filterMap_map]
  refine List.filterMap_congr fun c _ => ?_
  have hbare : c.bare.bare = c.bare := by
    simp only [Contact.bare, Phone.bare, List.map_map, Function.comp_def]
  rw [Function.comp_apply, hbare, ContactDb.storedCard_bare]

/-- **A line is imported.** -/
theorem appended_importLine (hwf : ∀ book, (s.books book).WF) (hdlg : s.dlg = none)
    (hcurrent : s.current = some book) (hok : w.isOk book = true) {ctrl : CsvImportCtrl} {line : ℕ}
    (hraised : (ctrl.importContact line).Raised)
    (hfits : (ContactDb.storedCard (w.kind book) (ctrl.importContact line)).isSome) :
    let s' := s.step w (.importLine ctrl line none)
    ((∀ book, (s'.books book).WF) ∧ s'.dlg = none ∧ s'.current = some book) ∧
      s.Appended book (newCards (w.kind book) [ctrl.importContact line]) s' := by
  obtain ⟨card, hcard⟩ := Option.isSome_iff_exists.mp hfits
  obtain ⟨hkey, hkeys⟩ := importContact_keys ctrl line
  have hstep : s.step w (.importLine ctrl line none) =
      s.save w book none (ctrl.importContact line) := by
    simp only [step, hdlg, hcurrent]
  intro s'
  rw [show s' = _ from hstep]
  generalize ctrl.importContact line = c at hraised hcard hkey hkeys
  have hfits : (s.books book).Fits c := .of_new hkey hkeys
  refine ⟨⟨(save_sim hwf hfits none).1, hdlg, hcurrent⟩, ?_⟩
  by_cases hcreate : c.bare = .create
  · -- there is nothing in it, and nothing is saved
    have hcards : newCards (w.kind book) [c] = [] := by
      rw [newCards, List.filterMap_cons, if_pos hcreate]
      rfl
    have hclean : c.isDirty.1 = false := by
      by_contra hd
      exact hraised.mp (by simpa using hd) hcreate
    have hsave : s.save w book none c = s := by
      obtain ⟨m, hm, -⟩ := Option.map_eq_some_iff.mp hcard
      have hdb :
          ((s.books book).saveEntry (w.kind book) (w.isOk book) none c).db = s.books book := by
        rw [ContactDb.saveEntry, hm, hok]
        show (ContactDb.insertUpdateEntry _ true none _ m).db = s.books book
        rw [ContactDb.insertUpdateEntry_clean ((columns_isDirty hm).trans hclean)]
      rw [save, hdb, setBook, Function.update_eq_self]
    rw [hcards, hsave]
    exact .nil (hwf book)
  · have hcards : newCards (w.kind book) [c] = [card] := by
      rw [newCards, List.filterMap_cons, if_neg hcreate, hcard]
      rfl
    have hd : c.isDirty.1 = true := hraised.mpr hcreate
    have hnext := ContactDb.nxtcid_saveEntry (s := s.books book) hkey hd hcard
    have hput := ContactDb.cards_saveEntry (hwf book) hfits (w.kind book) true none
    rw [committed_of_dirty hfits hd hcard rfl, if_pos hkey] at hput
    obtain ⟨-, card', hcard', hput⟩ := hput.resolve_left fun h => Bool.noConfusion h.1
    obtain rfl := Option.some.inj (hcard.symm.trans hcard')
    rw [hcards]
    have hshelf : (s.save w book none c).shelf = Function.update s.shelf book
        (Function.update (s.shelf book) (s.books book).nxtcid (some card)) := by
      rw [save, shelf_setBook, hok, hput]
      rfl
    refine ⟨fun g hg => ?_, fun k => ?_, ?_⟩
    · rw [hshelf, Function.update_of_ne hg]
    · rw [hshelf, Function.update_self]
      rcases lt_trichotomy k (s.books book).nxtcid with hk | rfl | hk
      · rw [Function.update_of_ne hk.ne, if_pos hk]
      · rw [Function.update_self, if_neg (lt_irrefl _), Int.sub_self]
        rfl
      · have hnone : s.shelf book k = none := ContactDb.cards_of_nxtcid_le (hwf book) hk.le
        rw [Function.update_of_ne hk.ne', if_neg hk.not_gt, hnone,
          List.getElem?_eq_none (by rw [List.length_singleton]; omega)]
    · show (Function.update s.books book _ book).nxtcid = _
      rw [Function.update_self, hok, hnext]
      rfl

/-- **Lines are imported.** -/
theorem appended_importLines (hwf : ∀ book, (s.books book).WF) (hdlg : s.dlg = none)
    (hcurrent : s.current = some book) (hok : w.isOk book = true) {ctrl : CsvImportCtrl}
    (lines : List ℕ) (h : ∀ line ∈ lines, (ctrl.importContact line).Raised ∧
      (ContactDb.storedCard (w.kind book) (ctrl.importContact line)).isSome) :
    s.Appended book (newCards (w.kind book) (lines.map ctrl.importContact))
      (run (step w) s (lines.map fun line => .importLine ctrl line none)) := by
  induction lines generalizing s with
  | nil => exact .nil (hwf book)
  | cons line lines ih =>
      obtain ⟨⟨hraised, hfits⟩, hlines⟩ := List.forall_mem_cons.mp h
      obtain ⟨⟨hwf', hdlg', hcurrent'⟩, happended⟩ :=
        appended_importLine hwf hdlg hcurrent hok hraised hfits
      have hcards : newCards (w.kind book) ((line :: lines).map ctrl.importContact) =
          newCards (w.kind book) [ctrl.importContact line] ++
            newCards (w.kind book) (lines.map ctrl.importContact) := by
        rw [List.map_cons, ← List.singleton_append, newCards, List.filterMap_append]
        rfl
      rw [hcards, List.map_cons, run_cons]
      exact happended.trans (ih hwf' hdlg' hcurrent' hlines)

/-- **A book that is exported and imported.**  After any orderly run, when no dialog is open and the
current book is usable, let the export of any contacts be loaded, with readable texts that fit into
the columns, and its columns be selected as the header says.  The import puts their cards on the
shelf, under the next keys of the current book and in their order, and changes nothing else. -/
theorem transferred_run {books : ℕ → ContactDb} (hbooks : ∀ book, (books book).WF)
    (current : Option ℕ) {as : List PageStep}
    (has : Along (step w) (Orderly w) (start books current) as)
    (hdlg : (run (step w) (start books current) as).dlg = none)
    (hcurrent : (run (step w) (start books current) as).current = some book)
    (hok : w.isOk book = true) (ctrl : CsvImportCtrl) (cs : List Contact) (sel : List ℕ)
    (types : ℕ → Option NumberType)
    (hread : ∀ c ∈ cs, ∀ t ∈ exportCells (numTel cs) c, Readable t.toList)
    (hsel : ∀ col < (ctrl.loadFile (some (doExport cs)) exportParams).2.columnCount,
      sel.getD col 0 = assignment types col)
    (hfits : ∀ c ∈ cs, (ContactDb.storedCard (w.kind book) (restored types c)).isSome) :
    (run (step w) (start books current) as).Appended book
      (newCards (w.kind book) (cs.map (restored types)))
      (run (step w) (run (step w) (start books current) as) (importSteps
        { (ctrl.loadFile (some (doExport cs)) exportParams).2 with selections := sel })) := by
  set loaded : CsvImportCtrl :=
    { (ctrl.loadFile (some (doExport cs)) exportParams).2 with selections := sel }
  have hwf := ((refines w).run (.start hbooks current) has).1.wf
  have hcontacts : loaded.importContacts = cs.map (importCells types (numTel cs)) :=
    CsvImportCtrl.importContacts_cells hread hsel
  have hrestored : ∀ c ∈ cs, (importCells types (numTel cs) c).bare = restored types c :=
    fun c hc => bare_importCells (length_le_numTel hc)
  have hcards : newCards (w.kind book) (cs.map (restored types)) =
      newCards (w.kind book) loaded.importContacts := by
    rw [← newCards_map_bare _ loaded.importContacts, hcontacts, List.map_map]
    exact congrArg _ (List.map_congr_left fun c hc => (hrestored c hc).symm)
  rw [hcards]
  refine appended_importLines hwf hdlg hcurrent hok _ fun line hline => ?_
  have hmem : loaded.importContact line ∈ loaded.importContacts := List.mem_map_of_mem hline
  rw [hcontacts] at hmem
  obtain ⟨c, hc, heq⟩ := List.mem_map.mp hmem
  rw [← heq, ← ContactDb.storedCard_bare, hrestored c hc]
  exact ⟨raised_importCells types _ c, hfits c hc⟩

/-- The other book is chosen, and the export of a contact with two numbers is imported. -/
theorem transferred_run_ada :
    (run (step twoBooks) (start (fun _ => .initial) (some 0)) [.selectAbook (some 1)]).Appended 1
      (newCards .psql ([CsvImportCtrl.adaExported].map
        (restored fun j => if j = 0 then some .work else some .cell)))
      (run (step twoBooks)
        (run (step twoBooks) (start (fun _ => .initial) (some 0)) [.selectAbook (some 1)])
        (importSteps { (CsvImportCtrl.create.loadFile (some (doExport [CsvImportCtrl.adaExported]))
          exportParams).2 with selections := [2, 3, 4, 5, 1, 6, 8, 7, 0, 11, 10] })) := by
  have hcount : (CsvImportCtrl.create.loadFile (some (doExport [CsvImportCtrl.adaExported]))
      exportParams).2.columnCount = 11 := by decide +kernel
  refine transferred_run (fun _ => ContactDb.WF.initial) (some 0) (by decide +kernel) rfl rfl rfl
    .create [CsvImportCtrl.adaExported] _ _ CsvImportCtrl.readable_adaExported ?_
    (by decide +kernel)
  rw [hcount]
  decide

end ContactPage
end Cmon
