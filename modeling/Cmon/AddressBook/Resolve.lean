import Mathlib.Data.Fintype.EquivFin
import Cmon.AddressBook.Save
import Cmon.Resolver.Worker
import Cmon.Search.Statements

/-!
# Address book — looking a number up

`resolve` of the two kinds of address books, and `CPhone::isMatch`.  A first statement selects
numbers, the first of them that `isMatch` takes sets the flag that is returned, and a second
statement reads the row of its contact.

* libphonenumber and the conversions of wxWidgets are `PhoneLib`.  What the engine of the book
  gives for the text of the first statement is `select`; it may report an error.
* `ResolveFault`: each call of the database may throw, a `fetch` after any number of rows too.
* `AddressBook.resolve_eq_answer`: to the worker, a call of `resolve` is its `BookAnswer`.
* `AddressBook.agrees_iff`: flag and contact agree, for every contact that is handed over, and the
  worker reports only what was read, exactly when a match means that its contact is read.
-/

namespace Cmon

/-! ### The source -/

/-- `PhoneNumberUtil::MatchType`. -/
inductive MatchType where
  | invalidNumber | noMatch | shortNsnMatch | nsnMatch | exactMatch
  deriving DecidableEq, Repr

/-- What a comparison of numbers takes from the libraries besides: `IsInitialized` and
`IsNumberMatchWithOneString`, `wxIsdigit`, and the `wxString` of a C string. -/
structure PhoneLib extends PhoneUtil where
  isInitialized : Number → Bool
  isNumberMatchWithOneString : Number → String → MatchType
  isDigit : Char → Bool
  ofCString : String → String

/-- `s.IsNumber()`: digits, with or without a sign in front. -/
def isNumber (u : PhoneLib) (s : String) : Bool :=
  match s.toList with
  | [] => true
  | c :: cs => (if c = '-' || c = '+' then cs else c :: cs).all u.isDigit

/-- `phoneNr.isMatch(nr)`, after `phoneNr.setNumber(strNumber)`. -/
def isMatch (u : PhoneLib) (rp : GeneralPrefs) (strNumber nr : String) : Bool :=
  let number := trim strNumber
  if isInternalNumber rp number then isNumber u number && number == u.ofCString (cString nr)
  else
    match u.parse (toUTF8 number) rp.cc u.empty with
    | none => false
    | some phoneNr =>
        u.isInitialized phoneNr &&
          match u.isNumberMatchWithOneString phoneNr nr with
          | .exactMatch | .nsnMatch => true
          | _ => false

/-- An address book: its kind, `m_is_ok`, its tables, and what its engine gives for a statement
that selects numbers, in the order of the engine. -/
structure AddressBook where
  kind : BookKind
  ok : Bool
  db : ContactDb
  select : String → List NumberRow → Option (List NumberRow)

/-- The call of the database that throws. -/
inductive ResolveFault where
  /-- The first statement is prepared or executed. -/
  | phones
  /-- The `fetch` after `n` rows. -/
  | fetch (n : Nat)
  /-- The second statement. -/
  | contact
  deriving DecidableEq, Repr

/-- The `fetch` that throws. -/
def ResolveFault.fetch? : Option ResolveFault → Option Nat
  | some (.fetch n) => some n
  | _ => none

/-- `while(!rc && phones.fetch())`: the row at which `rc` is set.  A `fetch` that throws leaves
`rc` as it is. -/
def fetchMatch (p : String → Bool) : Option Nat → List NumberRow → Option NumberRow
  | some 0, _ => none
  | _, [] => none
  | fails, r :: rows => if p r.canonical then some r else fetchMatch p (fails.map (· - 1)) rows

namespace AddressBook

/-- The second statement: without a row, the strings it reads into stay empty. -/
def contactTexts (b : AddressBook) (contactref : Int) : ContactTexts :=
  ((b.db.contacts.find? fun r => r.id = contactref).map (·.texts)).getD Contact.create.texts

/-- `resolve`: whether the number was found, and the contact that is left. -/
def resolve (b : AddressBook) (u : PhoneLib) (rp : GeneralPrefs) (fault : Option ResolveFault)
    (strNumber : String) (resolvedContact : Contact) : Bool × Contact :=
  if b.ok then
    let phones := if fault = some .phones then none
      else b.select (resolveSql b.kind rp strNumber) b.db.numbers
    match phones with
    | none => (false, resolvedContact)
    | some rows =>
        match fetchMatch (isMatch u rp strNumber) (ResolveFault.fetch? fault) rows with
        | none => (false, resolvedContact)
        | some r =>
            if fault = some .contact then (true, resolvedContact)
            else (true, (resolvedContact.setDbKey r.cref).setTexts (b.contactTexts r.cref))
  else (false, resolvedContact)

/-! ### What a call comes to -/

variable (b : AddressBook) (u : PhoneLib) (rp : GeneralPrefs) (fault : Option ResolveFault)
  (strNumber : String)

/-- The rows that can be fetched. -/
def fetched : List NumberRow :=
  let rows := (b.select (resolveSql b.kind rp strNumber) b.db.numbers).getD []
  if b.ok = false ∨ fault = some .phones then []
  else
    match ResolveFault.fetch? fault with
    | none => rows
    | some n => rows.take n

/-- The number that is matched. -/
def matched : Option NumberRow :=
  (b.fetched rp fault strNumber).find? fun r => isMatch u rp strNumber r.canonical

/-- What the worker sees of a call. -/
def answer : BookAnswer :=
  match b.matched u rp fault strNumber with
  | none => .noMatch
  | some r => if fault = some .contact then .unread else .found r.cref (b.contactTexts r.cref)

/-- The rows in front of the `fetch` that throws. -/
theorem fetchMatch_eq (p : String → Bool) (fails : Option Nat) (rows : List NumberRow) :
    fetchMatch p fails rows =
      (match fails with
        | none => rows
        | some n => rows.take n).find? fun r => p r.canonical := by
  induction rows generalizing fails with
  | nil => rcases fails with - | - | n <;> rfl
  | cons r rows ih =>
      rcases fails with - | - | n
      · rw [fetchMatch, ih, List.find?_cons]
        · cases p r.canonical <;> rfl
        · exact (nomatch ·)
      · rfl
      · rw [fetchMatch, ih]
        · cases hp : p r.canonical <;> simp [hp]
        · exact (nomatch ·)

theorem resolve_eq (c : Contact) :
    b.resolve u rp fault strNumber c =
      match b.matched u rp fault strNumber with
      | none => (false, c)
      | some r =>
          if fault = some .contact then (true, c)
          else (true, (c.setDbKey r.cref).setTexts (b.contactTexts r.cref)) := by
  rw [resolve, matched, fetched]
  cases hok : b.ok with
  | false => simp
  | true =>
      by_cases hphones : fault = some .phones
      · simp [hphones]
      · cases b.select (resolveSql b.kind rp strNumber) b.db.numbers with
        | none => cases ResolveFault.fetch? fault <;> simp [hphones]
        | some rows => simp [hphones, fetchMatch_eq]

/-- **To the worker, a call is its answer.** -/
theorem resolve_eq_answer (enabled : Bool) (c : Contact) :
    b.resolve u rp fault strNumber c =
      (NumberResolver.addressbook enabled (b.answer u rp fault)).resolve strNumber c := by
  rw [resolve_eq, NumberResolver.resolve, answer]
  cases b.matched u rp fault strNumber with
  | none => rfl
  | some r => by_cases hc : fault = some .contact <;> simp [hc]

/-! ### Flag and contact -/

/-- The row of the contact that owns a number that was matched. -/
def Owner (owner : ContactRow) : Prop :=
  owner ∈ b.db.contacts ∧ ∃ r ∈ b.fetched rp fault strNumber,
    isMatch u rp strNumber r.canonical = true ∧ owner.id = r.cref

/-- The contact has been filled from the row. -/
def filled (c : Contact) (owner : ContactRow) : Contact :=
  (c.setDbKey owner.id).setTexts owner.texts

/-- The flag says whether the contact `c` was filled from its row; otherwise it is untouched. -/
def Agrees (c : Contact) (out : Bool × Contact) : Prop :=
  if out.1 = true then ∃ owner, b.Owner u rp fault strNumber owner ∧ out.2 = filled c owner
  else out.2 = c

/-- What the worker reports when the book is the first resolver that finds the number. -/
def ReportsRead : Prop :=
  ∀ (req : ResolveRequest) (before after : List NumberResolver) (ans : ResolverAnswer),
    req.numberE164 = strNumber → processRequest req before = none →
      (b.resolve u rp fault strNumber Contact.create).1 = true →
        processRequest req (before ++ .addressbook true (b.answer u rp fault) :: after) = some ans →
          ∃ owner, b.Owner u rp fault strNumber owner ∧ ans.contact = filled Contact.create owner

/-- A match means that the contact is read: the second statement does not fail, and there is a row
for it. -/
def ReadsOwner : Prop :=
  ∀ r, b.matched u rp fault strNumber = some r →
    fault ≠ some .contact ∧ r.cref ∈ b.db.contacts.map (·.id)

instance : Decidable (b.ReadsOwner u rp fault strNumber) :=
  match h : b.matched u rp fault strNumber with
  | none => isTrue fun _ hr => nomatch h.symm.trans hr
  | some r => decidable_of_iff
      (fault ≠ some .contact ∧ r.cref ∈ b.db.contacts.map (·.id))
      ⟨fun hr _ e => Option.some.inj (h.symm.trans e) ▸ hr, fun hr => hr r h⟩

variable {b u rp fault strNumber}

theorem ReadsOwner.agrees (h : b.ReadsOwner u rp fault strNumber) (c : Contact) :
    b.Agrees u rp fault strNumber c (b.resolve u rp fault strNumber c) := by
  rw [Agrees, resolve_eq]
  cases hm : b.matched u rp fault strNumber with
  | none => simp
  | some r =>
      obtain ⟨hfault, hcref⟩ := h r hm
      obtain ⟨row, hrow, hid⟩ := List.mem_map.mp hcref
      obtain ⟨owner, hfind⟩ := Option.isSome_iff_exists.mp
        (List.find?_isSome (p := fun x : ContactRow => x.id = r.cref).mpr
          ⟨row, hrow, decide_eq_true hid⟩)
      have hkey : owner.id = r.cref := by simpa using List.find?_some hfind
      have htexts : b.contactTexts r.cref = owner.texts := by rw [contactTexts, hfind]; rfl
      simp only [if_neg hfault, htexts, if_true]
      refine ⟨owner, ⟨List.mem_of_find?_eq_some hfind, r, List.mem_of_find?_eq_some hm,
        List.find?_some (p := fun r : NumberRow => isMatch u rp strNumber r.canonical) hm, hkey⟩,
        ?_⟩
      rw [filled, hkey]

/-- A contact with a key that no row has tells what was written to it. -/
theorem readsOwner_of_agrees
    (h : ∀ c, b.Agrees u rp fault strNumber c (b.resolve u rp fault strNumber c)) :
    b.ReadsOwner u rp fault strNumber := by
  intro r hm
  obtain ⟨key, hkey⟩ := Infinite.exists_notMem_finset (b.db.contacts.map (·.id)).toFinset
  have hc := h (Contact.create.setDbKey key)
  rw [Agrees, resolve_eq, hm] at hc
  by_cases hfault : fault = some .contact
  · simp only [if_pos hfault, if_true] at hc
    obtain ⟨owner, ⟨howner, -⟩, e⟩ := hc
    have hid : key = owner.id := congrArg Contact.dbKey e
    exact absurd (List.mem_toFinset.mpr (hid ▸ List.mem_map_of_mem howner)) hkey
  · simp only [if_neg hfault, if_true] at hc
    obtain ⟨owner, ⟨howner, -⟩, e⟩ := hc
    have hid : r.cref = owner.id := congrArg Contact.dbKey e
    exact ⟨hfault, hid ▸ List.mem_map_of_mem howner⟩

/-- The response is that of the book, when no resolver before it finds the number. -/
theorem processRequest_book {req : ResolveRequest} {before after : List NumberResolver}
    {ans : ResolverAnswer} (hnumber : req.numberE164 = strNumber)
    (hbefore : processRequest req before = none)
    (hfound : (b.resolve u rp fault strNumber Contact.create).1 = true)
    (h : processRequest req (before ++ .addressbook true (b.answer u rp fault) :: after) =
      some ans) :
    ans.contact = (b.resolve u rp fault strNumber Contact.create).2 := by
  set r : NumberResolver := .addressbook true (b.answer u rp fault) with hr
  have hask : req.ask r = b.resolve u rp fault strNumber Contact.create := by
    rw [resolve_eq_answer b u rp fault strNumber true, ← hnumber]
    rfl
  have helig : req.Eligible r := ⟨rfl, (nomatch ·)⟩
  have hnone : before.find? (fun r => req.Eligible r ∧ (req.ask r).1 = true) = none := by
    rw [processRequest_eq] at hbefore
    exact Option.map_eq_none_iff.mp hbefore
  have hfirst : (before ++ r :: after).find? (fun r => req.Eligible r ∧ (req.ask r).1 = true) =
      some r := by
    rw [List.find?_append, hnone, Option.none_or, List.find?_cons_of_pos]
    exact decide_eq_true ⟨helig, hask ▸ hfound⟩
  rw [processRequest_eq, ResolveRequest.answer, hfirst] at h
  rw [← hask, ← Option.some.inj h]

theorem ReadsOwner.reportsRead (h : b.ReadsOwner u rp fault strNumber) :
    b.ReportsRead u rp fault strNumber := by
  intro req before after ans hnumber hbefore hfound hans
  have hagrees := h.agrees Contact.create
  rw [Agrees, if_pos hfound] at hagrees
  rw [processRequest_book hnumber hbefore hfound hans]
  exact hagrees

variable (b u rp fault strNumber)

/-- **When flag and contact agree**: for every contact that is handed over, `resolve` returns true
exactly when it has filled the contact from the row of the owner of a number that matches, and the
worker reports only what was read, if and only if a match means that the contact is read. -/
theorem agrees_iff :
    ((∀ c, b.Agrees u rp fault strNumber c (b.resolve u rp fault strNumber c)) ∧
        b.ReportsRead u rp fault strNumber) ↔
      b.ReadsOwner u rp fault strNumber :=
  ⟨fun h => readsOwner_of_agrees h.1, fun h => ⟨h.agrees, h.reportsRead⟩⟩

end AddressBook

/-! ### A contact that is not read -/

/-- The national number of a German number: its digits without `+49` or the leading zero. -/
def nationalNumber (s : String) : String :=
  let ds := s.toList.filter Char.isDigit
  String.ofList (ds.drop (if startsWith s "+49" then 2 else if startsWith s "0" then 1 else 0))

/-- libphonenumber, as far as it is asked for German numbers. -/
def germanPhone : PhoneUtil where
  Number := String
  empty := ""
  parseAndKeepRawInput s _ _ := some (nationalNumber s)
  parse s _ _ := some (nationalNumber s)
  hasCountryCode _ := true
  countryCode _ := 49
  fromDefaultCountry _ := false
  countryCodeForRegion _ := 49
  nationalSignificantNumber n := n
  formatInOriginalFormat n _ := "0" ++ n
  formatNational n := "0" ++ n
  formatInternational n := "+49 " ++ n
  formatE164 n := "+49" ++ n
  mapNdd _ := "0"

/-- The second number may lack the country code. -/
def germanMatch (phoneNr nr : String) : MatchType :=
  if nationalNumber nr ≠ phoneNr then .noMatch
  else if startsWith nr "+" then .exactMatch else .nsnMatch

def germanLib : PhoneLib where
  toPhoneUtil := germanPhone
  isInitialized _ := true
  isNumberMatchWithOneString := germanMatch
  isDigit := Char.isDigit
  ofCString s := s

/-- A book with Bob's number. -/
def bobsBook (kind : BookKind) : AddressBook where
  kind
  ok := true
  db := ⟨[⟨1, { Contact.create.texts with sn := "Bob" }⟩], [⟨1, 1, .home, "030 123456", ""⟩], 2, 2⟩
  select _ rows := some rows

theorem not_agrees_bobsBook (kind : BookKind)
    (h : ((bobsBook kind).matched germanLib .initial (some .contact) "+4930123456").isSome) :
    ¬ (bobsBook kind).Agrees germanLib .initial (some .contact) "+4930123456" Contact.create
      ((bobsBook kind).resolve germanLib .initial (some .contact) "+4930123456"
        Contact.create) := by
  obtain ⟨r, hm⟩ := Option.isSome_iff_exists.mp h
  rw [AddressBook.Agrees, AddressBook.resolve_eq, hm]
  rintro ⟨owner, ⟨howner, -⟩, e⟩
  rw [List.mem_singleton.mp howner] at e
  have hkey : (0 : Int) = 1 := congrArg Contact.dbKey e
  exact absurd hkey (by decide)

/-- When Bob's row cannot be read, `resolve` says that Bob was found and leaves the contact empty,
and the worker reports the empty contact. -/
theorem unread_is_found :
    (¬ (bobsBook .sqlite).Agrees germanLib .initial (some .contact) "+4930123456" Contact.create
        ((bobsBook .sqlite).resolve germanLib .initial (some .contact) "+4930123456"
          Contact.create)) ∧
      (¬ (bobsBook .psql).Agrees germanLib .initial (some .contact) "+4930123456" Contact.create
        ((bobsBook .psql).resolve germanLib .initial (some .contact) "+4930123456"
          Contact.create)) ∧
      processRequest ⟨1, 0, "030123456", "+4930123456", false⟩
          [.addressbook true ((bobsBook .sqlite).answer germanLib .initial (some .contact))] =
        some ⟨1, 0, Contact.create⟩ :=
  ⟨not_agrees_bobsBook .sqlite (by decide +kernel), not_agrees_bobsBook .psql (by decide +kernel),
    by decide +kernel⟩

end Cmon
