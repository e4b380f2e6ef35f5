import Cmon.AddressBook.AreaCode
import Cmon.AddressBook.PreFilter
import Cmon.App.ListCopy
import Cmon.App.Online

/-!
# App — the two look-ups of a number

A number of a call is looked up when the call info comes, as `parseAndFormatForResolver` reads it,
and again from the context menu of the journal, by the digits of what the row has kept of it.

* `PhoneTexts` is what libphonenumber tells besides, `ReadsBack` what is used of it: which
  characters of a text matter, and which of its formats it reads again.
* `denotes_of_tells` and `tells_of_denotes`: when the digits of a text denote the number that is
  looked up.
* `findsSame_of_denotes` and `suffix_of_findsSame`: when the address books give the same for a text
  as for the E.164 number it denotes (`FindsSame`): they look for its last six characters.
* `denotes_lookUp`: the digits that are looked up from the journal denote the number of the call
  when they tell it (`DigitsTell`), and do not when they are an internal number, or when a number
  of another country was received with a `+`; and the books find the same when the last six
  characters are those of the E.164 number.
-/

namespace Cmon
open Library

/-! ### The source -/

/-- The number that the resolvers read: `setNumber` of a new phone. -/
def readNumber (u : PhoneUtil) (rp : GeneralPrefs) (strNumber : String) : Option u.Number :=
  if isInternalNumber rp (trim strNumber) then none
  else u.parse (toUTF8 (trim strNumber)) rp.cc u.empty

/-- The resolvers read the text as the number `e164`. -/
def Denotes (u : PhoneUtil) (rp : GeneralPrefs) (strNumber e164 : String) : Prop :=
  (readNumber u rp strNumber).map u.formatE164 = some e164

instance (u : PhoneUtil) (rp : GeneralPrefs) (strNumber e164 : String) :
    Decidable (Denotes u rp strNumber e164) :=
  inferInstanceAs (Decidable (_ = _))

/-- **External numbers are matched by the number that is read.** -/
theorem isMatch_external (u : PhoneLib) {rp : GeneralPrefs} {strNumber : String}
    (h : isInternalNumber rp (trim strNumber) = false) (nr : String) :
    isMatch u rp strNumber nr = (readNumber u.toPhoneUtil rp strNumber).any fun phoneNr =>
      u.isInitialized phoneNr && (u.isNumberMatchWithOneString phoneNr nr = .exactMatch ||
        u.isNumberMatchWithOneString phoneNr nr = .nsnMatch) := by
  simp only [isMatch, readNumber, h, Bool.false_eq_true, if_false]
  cases u.parse (toUTF8 (trim strNumber)) rp.cc u.empty with
  | none => rfl
  | some phoneNr =>
      rw [Option.any_some]
      dsimp only
      cases u.isNumberMatchWithOneString phoneNr nr <;> rfl

/-- The ASCII digits of a text. -/
def asciiDigits (s : String) : String := String.ofList ((toUTF8 s).toList.filter Char.isDigit)

/-! ### Digits -/

theorem toList_asciiDigits (s : String) :
    (asciiDigits s).toList = (toUTF8 s).toList.filter Char.isDigit := String.toList_ofList

theorem isDigit_of_mem {s : String} {c : Char} (h : c ∈ (asciiDigits s).toList) :
    c.isDigit = true := by
  rw [toList_asciiDigits] at h
  exact (List.mem_filter.mp h).2

theorem asciiDigits_toUTF8 (s : String) : asciiDigits (toUTF8 s) = asciiDigits s := by
  rw [asciiDigits, toUTF8_toUTF8]
  rfl

/-- A digit is no blank and no NUL. -/
theorem isDigit_ne {c : Char} (h : c.isDigit = true) : isBlank c = false ∧ c ≠ '\x00' := by
  have hle : '0' ≤ c := by
    rw [Char.isDigit, Bool.and_eq_true, decide_eq_true_eq] at h
    exact h.1
  have hspace : ¬ c ≤ '\r' := fun hr => absurd (UInt32.le_trans hle hr) (by decide)
  refine ⟨?_, ?_⟩
  · have hne : c ≠ ' ' := by
      rintro rfl
      exact absurd h (by decide)
    simp [isBlank, hne, hspace]
  · rintro rfl
    exact absurd h (by decide)

/-- Digits are looked up as they are. -/
theorem trim_asciiDigits (s : String) : trim (asciiDigits s) = asciiDigits s := by
  have hfront : (asciiDigits s).toList.dropWhile isBlank = (asciiDigits s).toList := by
    rw [List.dropWhile_eq_self_iff]
    intro hl
    rw [(isDigit_ne (isDigit_of_mem (List.getElem_mem hl))).1]
    exact Bool.false_ne_true
  have hback : (asciiDigits s).toList.rdropWhile isBlank = (asciiDigits s).toList := by
    rw [List.rdropWhile_eq_self_iff]
    intro hl
    rw [(isDigit_ne (isDigit_of_mem (List.getLast_mem hl))).1]
    exact Bool.false_ne_true
  rw [← String.toList_inj, toList_trim, hfront, hback]

theorem toUTF8_asciiDigits (s : String) : toUTF8 (asciiDigits s) = asciiDigits s := by
  rw [← String.toList_inj, toUTF8, toList_cString, List.takeWhile_eq_self_iff]
  intro c hc
  simpa using (isDigit_ne (isDigit_of_mem hc)).2

theorem readNumber_asciiDigits (u : PhoneUtil) (rp : GeneralPrefs) (s : String) :
    readNumber u rp (asciiDigits s) = if isInternalNumber rp (asciiDigits s) then none
      else u.parse (asciiDigits s) rp.cc u.empty := by
  rw [readNumber, trim_asciiDigits, toUTF8_asciiDigits]

/-- What `[^[:digit:]]` leaves of a text that is kept in ASCII. -/
theorem filter_toAscii {p : Platform} (hp : ∀ c : Char, c.val < 128 → p.isDigit c = c.isDigit)
    (s : String) :
    String.ofList ((toAscii s).toList.filter p.isDigit) = asciiDigits s := by
  rw [asciiDigits, toAscii, toUTF8, toList_cString, toList_cString, String.toList_ofList]
  congr 1
  induction s.toList with
  | nil => rfl
  | cons c cs ih =>
      rw [List.map_cons, List.takeWhile_cons, List.takeWhile_cons]
      by_cases hc : c.val < 128
      · rw [if_pos hc]
        split
        · rw [List.filter_cons, List.filter_cons, hp c hc, ih]
        · rfl
      · -- a character outside ASCII is kept as a low line
        have hnul : c ≠ '\x00' := by
          rintro rfl
          exact hc (by decide)
        have hdigit : c.isDigit = false := by
          rw [Char.isDigit, Bool.and_eq_false_iff]
          refine .inr (decide_eq_false fun hle => hc ?_)
          exact UInt32.lt_of_le_of_lt hle (by decide)
        have hline : p.isDigit '_' = false := hp '_' (by decide)
        rw [if_neg hc, if_pos (by decide), if_pos (by simpa using hnul), List.filter_cons,
          List.filter_cons, hdigit, hline]
        exact ih

/-! ### What is used of libphonenumber -/

/-- What libphonenumber tells of a number and of a text besides, and what the comparison of numbers
takes from the libraries. -/
structure PhoneTexts (u : PhoneUtil) where
  isValidNumber : u.Number → Bool
  /-- `country_code_source() == FROM_NUMBER_WITH_PLUS_SIGN` -/
  fromPlusSign : u.Number → Bool
  /-- The digits that `Parse` reads of a text, letters as digits and without an extension. -/
  dialled : String → String
  /-- A text begins with the international prefix of a region. -/
  startsWithIdd : String → String → Bool
  isInitialized : u.Number → Bool
  isNumberMatchWithOneString : u.Number → String → MatchType
  isDigit : Char → Bool
  ofCString : String → String

/-- The libraries, to the address books. -/
def PhoneTexts.lib {u : PhoneUtil} (t : PhoneTexts u) : PhoneLib where
  toPhoneUtil := u
  isInitialized := t.isInitialized
  isNumberMatchWithOneString := t.isNumberMatchWithOneString
  isDigit := t.isDigit
  ofCString := t.ofCString

/-- Digits, perhaps behind a `+`. -/
def DialString (s : String) : Prop :=
  s.toList.all Char.isDigit = true ∨ ∃ ds, s.toList = '+' :: ds ∧ ds.all Char.isDigit = true

/-- What it makes of its own formats, and of digits, in a region. -/
structure ReadsBack (u : PhoneUtil) (t : PhoneTexts u) (cc : String) : Prop where
  /-- Without a `+`, nothing but the digits matters. -/
  dialled : ∀ s n, u.parseAndKeepRawInput s cc u.empty = some n → t.isValidNumber n = true →
    t.fromPlusSign n = false →
      (u.parse (t.dialled s) cc u.empty).map u.formatE164 = some (u.formatE164 n)
  /-- A number of the country is read again from its national format. -/
  national : ∀ n, t.isValidNumber n = true → u.countryCode n = u.countryCodeForRegion cc →
    (u.parse (t.dialled (u.formatNational n)) cc u.empty).map u.formatE164 =
      some (u.formatE164 n)
  /-- The original format has the digits of the text that was parsed. -/
  original : ∀ s n, u.parseAndKeepRawInput s cc u.empty = some n →
    asciiDigits (u.formatInOriginalFormat n cc) = asciiDigits s
  /-- Digits without an international prefix are a number of the country. -/
  region : ∀ s m, u.parse (asciiDigits s) cc u.empty = some m →
    t.startsWithIdd cc (asciiDigits s) = false → u.countryCode m = u.countryCodeForRegion cc
  /-- Numbers of one E.164 number are of one country. -/
  countryCode : ∀ s m n, u.parse s cc u.empty = some m → t.isValidNumber n = true →
    u.formatE164 m = u.formatE164 n → u.countryCode m = u.countryCode n
  /-- The E.164 format of a valid number is a `+` and digits. -/
  e164 : ∀ n, t.isValidNumber n = true →
    ∃ ds, (u.formatE164 n).toList = '+' :: ds ∧ ds.all Char.isDigit = true
  /-- It is read as the number, which matches it. -/
  readE164 : ∀ n, t.isValidNumber n = true → ∃ m, u.parse (u.formatE164 n) cc u.empty = some m ∧
    u.formatE164 m = u.formatE164 n ∧ t.isInitialized m = true ∧
      t.isNumberMatchWithOneString m (u.formatE164 n) = .exactMatch
  /-- Digits of one E.164 number are compared alike: no extension is read of them. -/
  alike : ∀ s s' m m', DialString s → DialString s' → u.parse s cc u.empty = some m →
    u.parse s' cc u.empty = some m' → u.formatE164 m = u.formatE164 m' →
      t.isInitialized m = t.isInitialized m' ∧
        t.isNumberMatchWithOneString m = t.isNumberMatchWithOneString m'

section
variable {u : PhoneUtil} {t : PhoneTexts u} {rp : GeneralPrefs} {val : String} {n : u.Number}

/-- The text of which the digits are kept. -/
def spelling (u : PhoneUtil) (val : String) (n : u.Number) : NumberKind → String
  | .nationalResolvable => u.formatNational n
  | _ => toUTF8 val

/-- The digits that are kept of a number tell it: they are not those of an internal number and are
what is read of the text; and the number is one of the country, when its national format is kept,
else it was not received with a `+`. -/
structure DigitsTell (u : PhoneUtil) (t : PhoneTexts u) (rp : GeneralPrefs) (val : String)
    (n : u.Number) (kind : NumberKind) : Prop where
  external : isInternalNumber rp (asciiDigits (spelling u val n kind)) = false
  dialled : t.dialled (spelling u val n kind) = asciiDigits (spelling u val n kind)
  country : kind = .nationalResolvable → u.countryCode n = u.countryCodeForRegion rp.cc
  noPlus : kind ≠ .nationalResolvable → t.fromPlusSign n = false

variable {texts : NumberKind × String × String}

/-- The digits that are kept are those of the spelling. -/
theorem Form.asciiDigits_eq (hu : ReadsBack u t rp.cc) (h : Form u rp val n texts) :
    asciiDigits texts.2.1 = asciiDigits (spelling u val n texts.1) := by
  cases h with
  | international hp hcc => exact hu.original _ _ hp
  | resolvable => rfl
  | national hp => exact (asciiDigits_toUTF8 val).symm

theorem Form.e164_eq (h : Form u rp val n texts) : texts.2.2 = u.formatE164 n := by
  cases h <;> rfl

/-- The spelling of a valid number is read as the number. -/
theorem Form.parse_dialled (hu : ReadsBack u t rp.cc) (h : Form u rp val n texts)
    (hn : t.isValidNumber n = true) (htell : DigitsTell u t rp val n texts.1) :
    (u.parse (t.dialled (spelling u val n texts.1)) rp.cc u.empty).map u.formatE164 =
      some (u.formatE164 n) := by
  cases h with
  | international hp hcc => exact hu.dialled _ _ hp hn (htell.noPlus nofun)
  | resolvable => exact hu.national n hn (htell.country rfl)
  | national hp => exact hu.dialled _ _ hp hn (htell.noPlus nofun)

/-- **Digits that tell a number denote it.** -/
theorem denotes_of_tells (hu : ReadsBack u t rp.cc) (h : Form u rp val n texts)
    (hn : t.isValidNumber n = true) (htell : DigitsTell u t rp val n texts.1) :
    Denotes u rp (asciiDigits texts.2.1) texts.2.2 := by
  have hread := h.parse_dialled hu hn htell
  rw [htell.dialled] at hread
  rw [Denotes, h.asciiDigits_eq hu, h.e164_eq, readNumber_asciiDigits, htell.external]
  exact hread

/-- **Digits that denote a number are not internal, and a number of another country was not
received with a `+`**, unless they begin with the international prefix. -/
theorem tells_of_denotes (hu : ReadsBack u t rp.cc) (h : Form u rp val n texts)
    (hn : t.isValidNumber n = true) (hden : Denotes u rp (asciiDigits texts.2.1) texts.2.2) :
    isInternalNumber rp (asciiDigits texts.2.1) = false ∧ (texts.1 = .international →
      t.startsWithIdd rp.cc (asciiDigits texts.2.1) = true) := by
  rw [Denotes, readNumber_asciiDigits] at hden
  cases hint : isInternalNumber rp (asciiDigits texts.2.1) with
  | true =>
      rw [hint, if_pos rfl] at hden
      cases hden
  | false =>
      rw [hint, if_neg Bool.false_ne_true] at hden
      obtain ⟨m, hm, he164⟩ := Option.map_eq_some_iff.mp hden
      refine ⟨rfl, fun hkind => ?_⟩
      cases h with
      | international hp hcc =>
          by_contra hidd
          have hregion := hu.region _ m hm (by simpa using hidd)
          exact hcc (hu.countryCode _ m n hm hn he164 ▸ hregion)
      | resolvable => cases hkind
      | national => cases hkind

/-! ### What the address books find -/

/-- Every address book whose engine does what is documented gives the same for both texts. -/
def FindsSame (u : PhoneLib) (rp : GeneralPrefs) (strNumber e164 : String) : Prop :=
  ∀ (digit : Char → Bool) (b : AddressBook), b.Documented u digit → ∀ c,
    b.resolve u rp none strNumber c = b.resolve u rp none e164 c

/-- **`resolve` takes two things from its number**: the first statement, and which stored numbers
match. -/
theorem AddressBook.resolve_congr (b : AddressBook) (u : PhoneLib) {strNumber strNumber' : String}
    (hsql : resolveSql b.kind rp strNumber = resolveSql b.kind rp strNumber')
    (hmatch : isMatch u rp strNumber = isMatch u rp strNumber') (c : Contact) :
    b.resolve u rp none strNumber c = b.resolve u rp none strNumber' c := by
  rw [resolve, resolve, hsql, hmatch]

/-- The first statement for external numbers is that of their last six characters. -/
theorem resolveSql_external (kind : BookKind) {s s' : String}
    (h : isInternalPhone rp s = false) (h' : isInternalPhone rp s' = false)
    (h6 : right6 s = right6 s') : resolveSql kind rp s = resolveSql kind rp s' := by
  rw [resolveSql, resolveSql, h, h', h6]
  rfl

section
variable {ds : List Char} {e164 : String}

/-- A `+` and digits are looked up as they are. -/
theorem trim_plus (h : e164.toList = '+' :: ds) (hds : ds.all Char.isDigit = true) :
    trim e164 = e164 := by
  have hblank : ∀ c ∈ e164.toList, isBlank c = false := by
    intro c hc
    rw [h] at hc
    rcases List.mem_cons.mp hc with rfl | hc
    · decide
    · exact (isDigit_ne (List.all_eq_true.mp hds c hc)).1
  have hfront : e164.toList.dropWhile isBlank = e164.toList := by
    rw [List.dropWhile_eq_self_iff]
    intro hl
    rw [hblank _ (List.getElem_mem hl)]
    exact Bool.false_ne_true
  have hback : e164.toList.rdropWhile isBlank = e164.toList := by
    rw [List.rdropWhile_eq_self_iff]
    intro hl
    rw [hblank _ (List.getLast_mem hl)]
    exact Bool.false_ne_true
  rw [← String.toList_inj, toList_trim, hfront, hback]

theorem toUTF8_plus (h : e164.toList = '+' :: ds) (hds : ds.all Char.isDigit = true) :
    toUTF8 e164 = e164 := by
  rw [← String.toList_inj, toUTF8, toList_cString, List.takeWhile_eq_self_iff, h]
  intro c hc
  rcases List.mem_cons.mp hc with rfl | hc
  · decide
  · simpa using (isDigit_ne (List.all_eq_true.mp hds c hc)).2

/-- A number with a `+` is external. -/
theorem isInternalPhone_plus (h : e164.toList = '+' :: ds) (hds : ds.all Char.isDigit = true) :
    isInternalPhone rp e164 = false := by
  have hplus : startsWith e164 "+" = true := by
    rw [startsWith, h]
    rfl
  rw [isInternalPhone, trim_plus h hds, isInternalNumber, hplus, if_pos rfl]

end

/-- What is read of the E.164 number is the number. -/
theorem ReadsBack.readNumber_e164 (hu : ReadsBack u t rp.cc) (hn : t.isValidNumber n = true) :
    readNumber u rp (u.formatE164 n) = u.parse (u.formatE164 n) rp.cc u.empty := by
  obtain ⟨ds, h, hds⟩ := hu.e164 n hn
  have hext := @isInternalPhone_plus rp _ _ h hds
  rw [isInternalPhone] at hext
  rw [readNumber, hext, trim_plus h hds, toUTF8_plus h hds]
  rfl

theorem isInternalPhone_asciiDigits (s : String) :
    isInternalPhone rp (asciiDigits s) = isInternalNumber rp (asciiDigits s) := by
  rw [isInternalPhone, trim_asciiDigits]

/-- Digits that denote a number are external. -/
theorem external_of_denotes {s e164 : String} (h : Denotes u rp (asciiDigits s) e164) :
    isInternalNumber rp (asciiDigits s) = false := by
  rw [Denotes, readNumber_asciiDigits] at h
  cases hint : isInternalNumber rp (asciiDigits s) with
  | false => rfl
  | true =>
      rw [hint, if_pos rfl] at h
      cases h

/-- Digits that denote a number match what its E.164 format matches. -/
theorem ReadsBack.isMatch_eq (hu : ReadsBack u t rp.cc) (hn : t.isValidNumber n = true)
    {s : String} (hden : Denotes u rp (asciiDigits s) (u.formatE164 n)) :
    isMatch t.lib rp (asciiDigits s) = isMatch t.lib rp (u.formatE164 n) := by
  obtain ⟨ds, he, hds⟩ := hu.e164 n hn
  obtain ⟨m', hm', he164', -, -⟩ := hu.readE164 n hn
  have hint := external_of_denotes hden
  obtain ⟨m, hm, he164⟩ := Option.map_eq_some_iff.mp hden
  have hparse : u.parse (asciiDigits s) rp.cc u.empty = some m := by
    rw [readNumber_asciiDigits, hint] at hm
    exact hm
  have hdial : DialString (asciiDigits s) := .inl (List.all_eq_true.mpr fun _ => isDigit_of_mem)
  obtain ⟨hinit, hcmp⟩ := hu.alike _ _ m m' hdial (.inr ⟨ds, he, hds⟩) hparse hm'
    (he164.trans he164'.symm)
  have hread : readNumber u rp (u.formatE164 n) = some m' := (hu.readNumber_e164 hn).trans hm'
  funext nr
  rw [isMatch_external t.lib (by rw [trim_asciiDigits]; exact hint),
    isMatch_external t.lib (isInternalPhone_plus he hds)]
  show (readNumber u rp (asciiDigits s)).any _ = (readNumber u rp (u.formatE164 n)).any _
  rw [hm, hread]
  show (t.isInitialized m && (t.isNumberMatchWithOneString m nr = .exactMatch ||
      t.isNumberMatchWithOneString m nr = .nsnMatch)) = (t.isInitialized m' && _)
  rw [hinit, hcmp]
  rfl

/-- **Digits that denote a number, with its last six characters, are found where it is.** -/
theorem findsSame_of_denotes (hu : ReadsBack u t rp.cc) (hn : t.isValidNumber n = true)
    {s : String} (hden : Denotes u rp (asciiDigits s) (u.formatE164 n))
    (h6 : right6 (asciiDigits s) = right6 (u.formatE164 n)) :
    FindsSame t.lib rp (asciiDigits s) (u.formatE164 n) := by
  obtain ⟨ds, he, hds⟩ := hu.e164 n hn
  intro digit b _ c
  refine b.resolve_congr t.lib (resolveSql_external b.kind ?_ (isInternalPhone_plus he hds) h6)
    (hu.isMatch_eq hn hden) c
  rw [isInternalPhone_asciiDigits]
  exact external_of_denotes hden

theorem toList_right6 (s : String) :
    (right6 s).toList = s.toList.drop (s.length - 6) := String.toList_ofList

/-- **The condition of an external number of digits**: its last six characters are among the digits
of the stored number. -/
theorem selected_digits {s : String} (hi : isInternalPhone rp s = false)
    (hs : ∀ c ∈ (right6 s).toList, c.isDigit = true) :
    ∃ cond, selected Char.isDigit .psql rp s = some cond ∧ ∀ canonical, cond canonical = true ↔
      (right6 s).toList <:+: canonical.toList.filter Char.isDigit := by
  have htext : (toUTF8 (right6 s)).toList = (right6 s).toList := by
    rw [toUTF8, toList_cString, List.takeWhile_eq_self_iff]
    intro c hc
    simpa using (isDigit_ne (hs c hc)).2
  have hne : ∀ c ∈ (right6 s).toList, ∀ d : Char, d.isDigit = false → c ≠ d := by
    rintro c hc d hd rfl
    cases hd.symm.trans (hs c hc)
  have hquote : NoQuote (right6 s) := by
    rw [NoQuote, htext]
    exact fun hc => hne _ hc '\'' (by decide) rfl
  have hplain : ∀ c ∈ (toUTF8 (right6 s)).toList, SqlLike.Plain (escapeChar .psql) c := by
    rw [htext]
    intro c hc
    exact ⟨hne c hc '%' (by decide), hne c hc '_' (by decide), fun he =>
      hne c hc '\\' (by decide) (Option.some.inj he)⟩
  obtain ⟨cond, hcond, hwithin⟩ := selected_within Char.isDigit .psql hi hquote hplain
  refine ⟨cond, hcond, fun canonical => (hwithin canonical).trans ?_⟩
  rw [htext]
  constructor
  · rintro ⟨v, hv, hsame⟩
    have heq : (right6 s).toList = v :=
      List.forall₂_eq_eq_eq ▸ hsame.imp fun c d h => beq_iff_eq.mp h
    exact heq ▸ hv
  · intro h
    exact ⟨_, h, List.forall₂_same.mpr fun c _ => beq_self_eq_true c⟩

/-- **A text that the books treat as the E.164 number has its suffix in it.** -/
theorem suffix_of_findsSame (hu : ReadsBack u t rp.cc) (hn : t.isValidNumber n = true)
    {s : String} (hden : Denotes u rp (asciiDigits s) (u.formatE164 n))
    (hsame : FindsSame t.lib rp (asciiDigits s) (u.formatE164 n))
    (hlen : 6 < (u.formatE164 n).length) :
    (right6 (asciiDigits s)).toList <:+: (asciiDigits (u.formatE164 n)).toList := by
  obtain ⟨ds, he, hds⟩ := hu.e164 n hn
  obtain ⟨m, hm, -, hinit, hexact⟩ := hu.readE164 n hn
  -- a book with the number in its E.164 format
  have hlength : (u.formatE164 n).length = ds.length + 1 := by
    rw [← String.length_toList, he, List.length_cons]
  have hright : (right6 (u.formatE164 n)).toList = ds.drop (ds.length - 6) := by
    rw [toList_right6, he, hlength, show ds.length + 1 - 6 = ds.length - 6 + 1 by omega,
      List.drop_succ_cons]
  have hdigits : (u.formatE164 n).toList.filter Char.isDigit = ds := by
    rw [he, List.filter_cons_of_neg (by decide),
      List.filter_eq_self.mpr (List.all_eq_true.mp hds)]
  obtain ⟨cond, hcond, hwithin⟩ := selected_digits (isInternalPhone_plus he hds) (by
    rw [hright]
    exact fun c hc => List.all_eq_true.mp hds c (List.mem_of_mem_drop hc))
  have hkept : cond (u.formatE164 n) = true := by
    rw [hwithin, hright, hdigits]
    exact (List.drop_suffix _ _).isInfix
  have hmatch : isMatch t.lib rp (u.formatE164 n) (u.formatE164 n) = true := by
    have hread : readNumber u rp (u.formatE164 n) = some m := (hu.readNumber_e164 hn).trans hm
    rw [isMatch_external t.lib (isInternalPhone_plus he hds)]
    show (readNumber u rp (u.formatE164 n)).any _ = true
    rw [hread]
    show (t.isInitialized m && (t.isNumberMatchWithOneString m _ = .exactMatch || _)) = true
    rw [hinit, hexact]
    rfl
  have hfound := (resolve_documentedBook .psql (u.formatE164 n) (u := t.lib) (by rw [hcond]; rfl)
    Contact.create).mpr ⟨hkept, hmatch⟩
  rw [← hsame Char.isDigit _ (documented .psql (u.formatE164 n) t.lib) Contact.create] at hfound
  -- and what its first statement selects for the text
  have hint : isInternalPhone rp (asciiDigits s) = false :=
    (isInternalPhone_asciiDigits s).trans (external_of_denotes hden)
  obtain ⟨cond', hcond', hwithin'⟩ := selected_digits hint (by
    rw [toList_right6]
    exact fun c hc => isDigit_of_mem (List.mem_of_mem_drop hc))
  have hkept' := ((resolve_documentedBook .psql (u.formatE164 n) (u := t.lib)
    (by rw [hcond']; rfl) Contact.create).mp hfound).1
  rw [hwithin', hdigits] at hkept'
  rw [toList_asciiDigits, toUTF8_plus he hds, hdigits]
  exact hkept'

end

namespace App
open Library

/-! ### The row of a call -/

/-- The row is the one that is stored of the active call at `k`. -/
def StoredRow (w : World) (s : App) (k : JournalKey) (row : CallRow) : Prop :=
  row ∈ s.db.calls ∧
    (s.activeCalls.find? k).map (fun e => JournalDb.rowOf w.platform e.dbKey e) = some row

instance (w : World) (s : App) (k : JournalKey) (row : CallRow) : Decidable (StoredRow w s k row) :=
  inferInstanceAs (Decidable (_ ∧ _))

section
variable {w : World} {m : Moment} {s : App} {pid cid : Nat} {info : CallInfo} {e : JournalEntry}
variable {side : ResolveFor}

/-- The address that is kept of a number that is looked up. -/
theorem fillIn_address (hw : Wanted w m info e side) (rs : List Request) :
    (fillIn w m info e rs).1.address side = (formatted w m info side).2.1 := by
  obtain ⟨haddress, hflag⟩ := fillNames_address info e side
  have hdue : Due info (fillNames info e) side :=
    ⟨haddress.trans hw.address, hw.given, hflag.trans hw.resolving⟩
  obtain ⟨q, hcalled, hcaller⟩ := fillIn_sides w m info e rs
  cases side with
  | called =>
      -- the caller comes after, and leaves the address
      have hkept := (hcaller.frame (show ResolveFor.called ≠ .caller from nofun)).1
      exact hkept.trans (hcalled.address hdue)
  | caller =>
      obtain ⟨hkept, hkept'⟩ := hcalled.frame (show ResolveFor.caller ≠ .called from nofun)
      exact hcaller.address ⟨hkept.trans hdue.1, hdue.2.1, hkept'.trans hdue.2.2⟩

/-- The row of a call after a call info. -/
theorem storedRow_info (he : s.activeCalls.find? (journalKey pid cid) = some e) {row : CallRow}
    (hrow : StoredRow w (s.step w (.call m (.callInfo pid cid info))) (journalKey pid cid) row) :
    ∃ id, row = JournalDb.rowOf w.platform id (fillIn w m info e s.requests).1 := by
  obtain ⟨e', he', rfl⟩ := Option.map_eq_some_iff.mp hrow.2
  have hstep : s.step w (.call m (.callInfo pid cid info)) =
      { s with requests := (fillIn w m info e s.requests).2 }.edit w m (journalKey pid cid)
        (fillIn w m info e s.requests).1 := by
    rw [step, handle, onCallInfoUpdate, he]
  rw [hstep] at he'
  rcases find?_edit (s := { s with requests := _ }) he he' with ⟨-, rfl⟩ | ⟨hne, -⟩
  · exact ⟨_, Page.rowOf_stored (saves_saved w m _ _).entry.2 _⟩
  · exact absurd rfl hne

theorem toResolve_loadRow (w : World) (e₀ j : JournalEntry) (id : Int) :
    Page.toResolve w (JournalDb.loadRow w.platform e₀ (JournalDb.rowOf w.platform id j)) =
      String.ofList ((toAscii (if j.type = .incoming then j.callerAddress
        else j.calledAddress)).toList.filter w.platform.isDigit) := by
  have htype : (JournalDb.loadRow w.platform e₀ (JournalDb.rowOf w.platform id j)).type =
      j.type := rfl
  rw [Page.toResolve, htype]
  split <;> rfl

/-- **What is looked up from the row**: the digits of the text that is kept of the remote number. -/
theorem toResolve_row (hp : ∀ c : Char, c.val < 128 → w.platform.isDigit c = c.isDigit)
    (he : s.activeCalls.find? (journalKey pid cid) = some e) (hw : Wanted w m info e side)
    (hside : side.Remote e.type) {row : CallRow}
    (hrow : StoredRow w (s.step w (.call m (.callInfo pid cid info))) (journalKey pid cid) row)
    (e₀ : JournalEntry) :
    Page.toResolve w (JournalDb.loadRow w.platform e₀ row) =
      asciiDigits (formatted w m info side).2.1 := by
  obtain ⟨id, rfl⟩ := storedRow_info he hrow
  have haddr := fillIn_address hw s.requests
  have htype : (fillIn w m info e s.requests).1.type = e.type :=
    (asks_fillIn w m info e s.requests).entry.type
  rw [toResolve_loadRow, htype, filter_toAscii hp, ← haddr]
  rcases hside with ⟨rfl, hin⟩ | ⟨rfl, hout⟩
  · rw [hin, if_pos rfl]
    rfl
  · rw [hout, if_neg nofun]
    rfl

/-- **The look-up from the journal is of the number that the look-up of the call was of** when the
digits of the row tell it, and every address book finds the same when their last six characters are
those of the number.  If it is, the digits are not those of an internal number, and those of a
number of another country begin with the international prefix; and if the books find the same, the
last six digits are among those of the number. -/
theorem denotes_lookUp {t : PhoneTexts w.phone} (hu : ReadsBack w.phone t m.prefs.cc)
    (hp : ∀ c : Char, c.val < 128 → w.platform.isDigit c = c.isDigit)
    (he : s.activeCalls.find? (journalKey pid cid) = some e) {req : Request}
    (hreq : req ∈ s.queued w (.call m (.callInfo pid cid info)))
    (hside : req.userData.Remote e.type) {n : w.phone.Number}
    (hn : lookedUp w.phone m.prefs (info.address req.userData) = some n)
    (hvalid : t.isValidNumber n = true) {row : CallRow}
    (hrow : StoredRow w (s.step w (.call m (.callInfo pid cid info))) (journalKey pid cid) row)
    (e₀ : JournalEntry) {manual : String}
    (hmanual : manual = Page.toResolve w (JournalDb.loadRow w.platform e₀ row)) :
    (DigitsTell w.phone t m.prefs (info.address req.userData) n
        (formatted w m info req.userData).1 →
      Denotes w.phone m.prefs manual req.numberE164 ∧
        (right6 manual = right6 req.numberE164 →
          FindsSame t.lib m.prefs manual req.numberE164)) ∧
    (Denotes w.phone m.prefs manual req.numberE164 →
      isInternalNumber m.prefs manual = false ∧
        ((formatted w m info req.userData).1 = .international →
          t.startsWithIdd m.prefs.cc manual = true) ∧
        (FindsSame t.lib m.prefs manual req.numberE164 → 6 < req.numberE164.length →
          (right6 manual).toList <:+: (asciiDigits req.numberE164).toList)) := by
  obtain ⟨side, hw, rfl⟩ := (mem_queued_info he).mp hreq
  have hform := form_of_lookedUp hn
  have hdigits : manual = asciiDigits (formatted w m info side).2.1 :=
    hmanual.trans (toResolve_row hp he hw hside hrow e₀)
  have hnumber : (lookUp w m info e side).numberE164 = w.phone.formatE164 n := hform.e164_eq
  rw [hdigits]
  constructor
  · intro htell
    have hden := denotes_of_tells hu hform hvalid htell
    refine ⟨hden, fun h6 => ?_⟩
    rw [hnumber] at h6 ⊢
    exact findsSame_of_denotes hu hvalid (hform.e164_eq ▸ hden) h6
  · intro hden
    obtain ⟨hext, hidd⟩ := tells_of_denotes hu hform hvalid hden
    refine ⟨hext, hidd, ?_⟩
    rw [hnumber] at hden ⊢
    exact suffix_of_findsSame hu hvalid hden

end

/-! ### A number from Paris, and a short one -/

/-- A number from Paris, with a `+` and as it is dialled in Germany, spellings of the German number
that has its digits, and a short number in Berlin. -/
def parisNumbers : List String :=
  ["+33142685300", "0033142685300", "33142685300", "033142685300", "+4933142685300", "+4930123",
    "030123"]

def parisParse (s : String) : Option String := if s ∈ parisNumbers then some s else none

def isParis (n : String) : Bool := n = "+33142685300" || n = "0033142685300"

def isBerlin (n : String) : Bool := n = "+4930123" || n = "030123"

def parisCountry (n : String) : Int := if isParis n then 33 else 49

def parisNational (n : String) : String :=
  if isParis n then "01 42 68 53 00" else if isBerlin n then "030 123" else "0331 42685300"

def parisInternational (n : String) : String :=
  if isParis n then "+33 1 42 68 53 00" else if isBerlin n then "+49 30 123"
  else "+49 331 42685300"

def parisE164 (n : String) : String :=
  if isParis n then "+33142685300" else if isBerlin n then "+4930123" else "+4933142685300"

def parisOriginal (n : String) : String :=
  if startsWith n "+" then parisInternational n
  else if n = "0033142685300" then "00 33 1 42 68 53 00"
  else if n = "33142685300" then "331 42685300"
  else parisNational n

/-- A text without the characters that a number may be set with. -/
def parisDigits (s : String) : String :=
  String.ofList (s.toList.filter fun c => c.isDigit || c = '+')

def parisMatch (n nr : String) : MatchType :=
  match parisParse (parisDigits nr) with
  | none => .invalidNumber
  | some m =>
      if parisE164 m ≠ parisE164 n then .noMatch
      else if startsWith nr "+" then .exactMatch else .nsnMatch

/-- What libphonenumber makes of these numbers in Germany. -/
def parisPhone : PhoneUtil where
  Number := String
  empty := ""
  parseAndKeepRawInput s _ _ := parisParse s
  parse s _ _ := parisParse s
  hasCountryCode _ := true
  countryCode := parisCountry
  fromDefaultCountry n := !(isParis n || startsWith n "+")
  countryCodeForRegion _ := 49
  nationalSignificantNumber n :=
    if isParis n then "142685300" else if isBerlin n then "30123" else "33142685300"
  formatInOriginalFormat n _ := parisOriginal n
  formatNational := parisNational
  formatInternational := parisInternational
  formatE164 := parisE164
  mapNdd _ := "0"

instance : DecidableEq parisPhone.Number := inferInstanceAs (DecidableEq String)

def parisNumber (s : String) : parisPhone.Number := s

def parisTexts : PhoneTexts parisPhone where
  isValidNumber n := parisNumbers.contains (n : String)
  fromPlusSign n := startsWith n "+"
  dialled := asciiDigits
  startsWithIdd _ s := startsWith s "00"
  isInitialized _ := true
  isNumberMatchWithOneString := parisMatch
  isDigit := Char.isDigit
  ofCString s := s

theorem parisParse_some {s n : String} (h : parisParse s = some n) : s ∈ parisNumbers ∧ n = s := by
  rw [parisParse] at h
  split at h
  · next hs => exact ⟨hs, (Option.some.inj h).symm⟩
  · cases h

/-- What can be seen of each of them. -/
theorem paris_numbers : ∀ n ∈ parisNumbers,
    (startsWith n "+" = false →
      (parisParse (asciiDigits n)).map parisE164 = some (parisE164 n)) ∧
    (parisCountry n = 49 →
      (parisParse (asciiDigits (parisNational n))).map parisE164 = some (parisE164 n)) ∧
    asciiDigits (parisOriginal n) = asciiDigits n ∧
    ('+' ∉ n.toList → startsWith n "00" = false → parisCountry n = 49) := by
  decide +kernel

/-- And of its E.164 format. -/
theorem paris_e164 (n : String) :
    (parisE164 n).toList = '+' :: (asciiDigits (parisE164 n)).toList ∧
      parisParse (parisE164 n) = some (parisE164 n) ∧
      parisE164 (parisE164 n) = parisE164 n ∧
      parisMatch (parisE164 n) (parisE164 n) = .exactMatch := by
  have h : ∀ t ∈ ["+33142685300", "+4930123", "+4933142685300"],
      t.toList = '+' :: (asciiDigits t).toList ∧ parisParse t = some t ∧ parisE164 t = t ∧
        parisMatch t t = .exactMatch := by
    decide +kernel
  have hn : parisE164 n ∈ ["+33142685300", "+4930123", "+4933142685300"] := by
    rw [parisE164]
    split
    · exact .head _
    · split
      · exact .tail _ (.head _)
      · exact .tail _ (.tail _ (.head _))
  exact h _ hn

theorem parisE164_inj (m n : String) (h : parisE164 m = parisE164 n) :
    parisCountry m = parisCountry n := by
  rw [parisE164, parisE164] at h
  rw [parisCountry, parisCountry]
  cases hm : isParis m <;> cases hn : isParis n <;> cases hbm : isBerlin m <;>
    cases hbn : isBerlin n <;> simp [hm, hn, hbm, hbn] at h ⊢

theorem parisPhone_readsBack : ReadsBack parisPhone parisTexts "DE" where
  dialled s n hs _ hplus := by
    obtain ⟨hmem, rfl⟩ := parisParse_some hs
    dsimp only [parisTexts, parisPhone] at hplus ⊢
    exact (paris_numbers n hmem).1 hplus
  national n hn hcc := by
    dsimp only [parisTexts, parisPhone] at hn hcc ⊢
    exact (paris_numbers n (List.contains_iff_mem.mp hn)).2.1 hcc
  original s n hs := by
    obtain ⟨hmem, rfl⟩ := parisParse_some hs
    exact (paris_numbers n hmem).2.2.1
  region s m hm hidd := by
    dsimp only [parisTexts, parisPhone] at hm hidd ⊢
    obtain ⟨hmem, rfl⟩ := parisParse_some hm
    refine (paris_numbers _ hmem).2.2.2 (fun hc => ?_) hidd
    exact absurd (isDigit_of_mem hc) (by decide)
  countryCode _ m n _ _ h := parisE164_inj m n h
  e164 n _ := ⟨_, (paris_e164 n).1, List.all_eq_true.mpr fun _ => isDigit_of_mem⟩
  readE164 n _ := ⟨parisE164 n, (paris_e164 n).2.1, (paris_e164 n).2.2.1, rfl, (paris_e164 n).2.2.2⟩
  alike s s' m m' _ _ _ _ h := by
    refine ⟨rfl, ?_⟩
    dsimp only [parisTexts, parisPhone] at h ⊢
    funext nr
    simp only [parisMatch, h]

def parisWorld : World := ⟨utcPlatform, parisPhone, true⟩

/-- An incoming call in Germany, the call info with its number, and the row that is stored. -/
def ringing : App :=
  run (step parisWorld) (start .initial) [.call (.quiet 0) (.newCall 1 5 .incoming .offering)]

def infoFrom (nr : String) : CallInfo := ⟨"", nr, "", ""⟩

def rowFrom (clnr : String) : CallRow :=
  ⟨1, .incoming, .notreached, "1970-01-01T00:00:00", "", 0, clnr, "", "", ""⟩

/-- The text that is looked up from a row. -/
def fromJournal (clnr : String) : String :=
  Page.toResolve parisWorld
    (JournalDb.loadRow utcPlatform (JournalEntry.create 0 0 0 .unknown 2) (rowFrom clnr))

/-- A number with the international prefix is found again. -/
theorem denotes_withIdd :
    Denotes parisPhone GeneralPrefs.initial (fromJournal "00 33 1 42 68 53 00") "+33142685300" ∧
      FindsSame parisTexts.lib .initial (fromJournal "00 33 1 42 68 53 00") "+33142685300" := by
  have hsome : (ringing.activeCalls.find? (journalKey 1 5)).isSome = true := by decide +kernel
  obtain ⟨e, he⟩ := Option.isSome_iff_exists.mp hsome
  have htype : (ringing.activeCalls.find? (journalKey 1 5)).map (·.type) = some .incoming := by
    decide +kernel
  rw [he] at htype
  have hreq : ⟨1, .caller, "00 33 1 42 68 53 00", "+33142685300", false, 0⟩ ∈
      ringing.queued parisWorld (.call (.quiet 1) (.callInfo 1 5 (infoFrom "0033142685300"))) := by
    decide +kernel
  have hup : lookedUp parisPhone GeneralPrefs.initial "0033142685300" =
      some (parisNumber "0033142685300") := by decide +kernel
  have hkind : (formatted parisWorld (.quiet 1) (infoFrom "0033142685300") .caller).1 =
      .international := by decide +kernel
  have hrow : StoredRow parisWorld
      (ringing.step parisWorld (.call (.quiet 1) (.callInfo 1 5 (infoFrom "0033142685300"))))
      (journalKey 1 5) (rowFrom "00 33 1 42 68 53 00") := by decide +kernel
  obtain ⟨hden, hsame⟩ := (denotes_lookUp (w := parisWorld) (m := .quiet 1) parisPhone_readsBack
    (fun _ _ => rfl) he hreq (.inl ⟨rfl, Option.some.inj htype⟩) hup (by decide +kernel) hrow _
    rfl).1 (by
      rw [hkind]
      exact ⟨by decide +kernel, by decide +kernel, nofun, fun _ => by decide +kernel⟩)
  exact ⟨hden, hsame (by decide +kernel)⟩

/-- What the two look-ups of the short number find in a book that has it. -/
theorem short_missed :
    ¬ FindsSame parisTexts.lib .initial (fromJournal "030 123") "+4930123" := by
  intro h
  have hsame := h Char.isDigit (documentedBook .sqlite "+49 30 123")
    (documented .sqlite "+49 30 123" parisTexts.lib) Contact.create
  have hkept : (selected Char.isDigit .sqlite .initial "+4930123").map (· "+49 30 123") =
      some true := by decide +kernel
  have hdropped : (selected Char.isDigit .sqlite .initial (fromJournal "030 123")).map
      (· "+49 30 123") = some false := by decide +kernel
  have hfound : ((documentedBook .sqlite "+49 30 123").resolve parisTexts.lib .initial none
      "+4930123" Contact.create).1 = true :=
    (resolve_documentedBook .sqlite _ hkept _).mpr ⟨rfl, by decide +kernel⟩
  rw [← hsame, resolve_documentedBook .sqlite _ hdropped] at hfound
  exact Bool.false_ne_true hfound.1

/-- The number with a `+` is looked up from the journal as a German one.  The short number is looked
up as itself, and is not found in a book where the look-up of the call finds it. -/
theorem plus_lost :
    (lookedUp parisPhone GeneralPrefs.initial "+33142685300" =
        some (parisNumber "+33142685300") ∧
      parisTexts.isValidNumber (parisNumber "+33142685300") = true ∧
      ⟨1, .caller, "+33 1 42 68 53 00", "+33142685300", false, 0⟩ ∈
        ringing.queued parisWorld (.call (.quiet 1) (.callInfo 1 5 (infoFrom "+33142685300"))) ∧
      StoredRow parisWorld
        (ringing.step parisWorld (.call (.quiet 1) (.callInfo 1 5 (infoFrom "+33142685300"))))
        (journalKey 1 5) (rowFrom "+33 1 42 68 53 00") ∧
      Denotes parisPhone GeneralPrefs.initial (fromJournal "+33 1 42 68 53 00") "+4933142685300" ∧
      ¬ Denotes parisPhone GeneralPrefs.initial (fromJournal "+33 1 42 68 53 00")
        "+33142685300") ∧
    (lookedUp parisPhone GeneralPrefs.initial "+4930123" = some (parisNumber "+4930123") ∧
      parisTexts.isValidNumber (parisNumber "+4930123") = true ∧
      ⟨1, .caller, "030 123", "+4930123", true, 0⟩ ∈
        ringing.queued parisWorld (.call (.quiet 1) (.callInfo 1 5 (infoFrom "+4930123"))) ∧
      StoredRow parisWorld
        (ringing.step parisWorld (.call (.quiet 1) (.callInfo 1 5 (infoFrom "+4930123"))))
        (journalKey 1 5) (rowFrom "030 123") ∧
      Denotes parisPhone GeneralPrefs.initial (fromJournal "030 123") "+4930123" ∧
      ¬ FindsSame parisTexts.lib .initial (fromJournal "030 123") "+4930123") :=
  ⟨by decide +kernel, by decide +kernel, by decide +kernel, by decide +kernel, by decide +kernel,
    by decide +kernel, short_missed⟩

end App
end Cmon
