import Cmon.AddressBook.Resolve

/-!
# Address book — the area code

`CPhone::parseAndFormat`, by which a number is brought into its form, and
`CPhone::parseAndFormatForResolver`, by which it is looked up.  Both put the area code of the
preferences before a short number; the second one first makes sure that it is a local number.

* `parseAndFormat_eq`: the number that is formatted.
* `form_of_lookedUp`: the form in which a number is looked up.
* `sameNumber_iff`: both make the same number of a text, and put the area code before local ones
  only, exactly when the text is none of those the first function does not tell apart.
-/

namespace Cmon

/-! ### The source -/

/-- The test for a number that is too short to have an area code. -/
def addsAreaCode (rp : GeneralPrefs) (val : String) : Bool :=
  rp.addACIfShortLen && !rp.ac.isEmpty && val.length < sizeT rp.localNrMaxLen

/-- The number with the area code before it. -/
def withAreaCode (u : PhoneUtil) (rp : GeneralPrefs) (phoneNr : u.Number) : Option u.Number :=
  u.parse (rp.ac ++ u.nationalSignificantNumber phoneNr) rp.cc phoneNr

/-- `CPhone::parseAndFormat`: what it returns, and the formatted number. -/
def parseAndFormat (u : PhoneLib) (rp : GeneralPrefs) (val : String) : Bool × String :=
  if isInternalNumber rp val then (isNumber u val, val)
  else
    match u.parseAndKeepRawInput (toUTF8 val) rp.cc u.empty with
    | none => (false, val)
    | some phoneNr =>
        if addsAreaCode rp val then
          match withAreaCode u.toPhoneUtil rp phoneNr with
          | some phoneNr => (true, u.formatInternational phoneNr)
          | none => (false, val)
        else (true, u.formatInternational phoneNr)

/-- The number that `parseAndFormat` formats. -/
def parsedNumber (u : PhoneUtil) (rp : GeneralPrefs) (val : String) : Option u.Number :=
  (u.parseAndKeepRawInput (toUTF8 val) rp.cc u.empty).bind fun phoneNr =>
    if addsAreaCode rp val then withAreaCode u rp phoneNr else some phoneNr

variable {u : PhoneUtil} {rp : GeneralPrefs} {val : String} {phoneNr : u.Number}

/-- **An external number is parsed and formatted**, or left as it is. -/
theorem parseAndFormat_eq (u : PhoneLib) (h : isInternalNumber rp val = false) :
    parseAndFormat u rp val = match parsedNumber u.toPhoneUtil rp val with
      | some phoneNr => (true, u.formatInternational phoneNr)
      | none => (false, val) := by
  rw [parseAndFormat, if_neg (by simp [h]), parsedNumber]
  cases u.parseAndKeepRawInput (toUTF8 val) rp.cc u.empty with
  | none => rfl
  | some phoneNr =>
      rw [Option.bind_some]
      dsimp only
      split <;> rfl

/-- The number has a country code of its own. -/
def hasOwnCountryCode (u : PhoneUtil) (phoneNr : u.Number) : Bool :=
  u.hasCountryCode phoneNr && !u.fromDefaultCountry phoneNr

/-- The text begins with the national prefix of the country. -/
def hasNationalPrefix (u : PhoneUtil) (rp : GeneralPrefs) (val : String) : Bool :=
  !(u.mapNdd rp.cc).isEmpty && startsWith val (u.mapNdd rp.cc)

/-- The number that `parseAndFormatForResolver` makes of a text: with the area code, when there is
one to put before a local number. -/
def lookedUp (u : PhoneUtil) (rp : GeneralPrefs) (val : String) : Option u.Number :=
  if isInternalNumber rp val then none
  else (u.parseAndKeepRawInput (toUTF8 val) rp.cc u.empty).map fun phoneNr =>
    if hasOwnCountryCode u phoneNr = false ∧ u.mapNdd rp.cc ≠ "" ∧
        hasNationalPrefix u rp val = false ∧ addsAreaCode rp val = true then
      (withAreaCode u rp phoneNr).getD phoneNr
    else phoneNr

/-- Kind and texts of the number `n` that is looked up. -/
inductive Form (u : PhoneUtil) (rp : GeneralPrefs) (val : String) (n : u.Number) :
    NumberKind × String × String → Prop where
  | international (hp : u.parseAndKeepRawInput (toUTF8 val) rp.cc u.empty = some n)
      (hcc : u.countryCode n ≠ u.countryCodeForRegion rp.cc) :
      Form u rp val n (.international, u.formatInOriginalFormat n rp.cc, u.formatE164 n)
  | resolvable : Form u rp val n (.nationalResolvable, u.formatNational n, u.formatE164 n)
  | national (hp : u.parseAndKeepRawInput (toUTF8 val) rp.cc u.empty = some n) :
      Form u rp val n (.national, val, u.formatE164 n)

/-- **What is made of a number that is looked up.** -/
theorem form_of_lookedUp {n : u.Number} (h : lookedUp u rp val = some n) :
    Form u rp val n (parseAndFormatForResolver u rp val) := by
  rw [lookedUp] at h
  split at h
  · cases h
  · next hext =>
    obtain ⟨phoneNr, hp, hn⟩ := Option.map_eq_some_iff.mp h
    rw [parseAndFormatForResolver, if_neg hext, hp]
    dsimp only
    by_cases hcc : hasOwnCountryCode u phoneNr = true
    · rw [if_neg (by simp [hcc])] at hn
      subst hn
      rw [hasOwnCountryCode] at hcc
      rw [if_pos hcc]
      split
      · next hforeign => exact .international hp hforeign
      · exact .resolvable
    · have hown : hasOwnCountryCode u phoneNr = false := by simpa using hcc
      rw [hasOwnCountryCode] at hcc
      rw [if_neg hcc]
      split
      · next hndd =>
        rw [if_neg (by simpa [hown] using fun h => absurd hndd (by simpa using h))] at hn
        subst hn
        exact .resolvable
      · next hndd =>
        split
        · next hstart =>
          rw [if_neg (by simp [hasNationalPrefix, hndd, hstart])] at hn
          subst hn
          exact .resolvable
        · next hstart =>
          have hlocal : u.mapNdd rp.cc ≠ "" ∧ hasNationalPrefix u rp val = false :=
            ⟨by simpa using hndd, by simp [hasNationalPrefix, hstart]⟩
          by_cases ha : addsAreaCode rp val = true
          · rw [if_pos ⟨hown, hlocal.1, hlocal.2, ha⟩, withAreaCode] at hn
            rw [addsAreaCode] at ha
            rw [if_pos ha]
            cases hlong : u.parse (rp.ac ++ u.nationalSignificantNumber phoneNr) rp.cc phoneNr with
            | some longer =>
                rw [hlong, Option.getD_some] at hn
                subst hn
                exact .resolvable
            | none =>
                rw [hlong, Option.getD_none] at hn
                subst hn
                exact .national hp
          · rw [if_neg fun hall => ha hall.2.2.2] at hn
            subst hn
            rw [addsAreaCode] at ha
            rw [if_neg ha]
            exact .national hp

/-- The number of a text that is parsed. -/
theorem lookedUp_eq (hext : isInternalNumber rp val = false)
    (hp : u.parseAndKeepRawInput (toUTF8 val) rp.cc u.empty = some phoneNr) :
    lookedUp u rp val = some (
      if hasOwnCountryCode u phoneNr = false ∧ u.mapNdd rp.cc ≠ "" ∧
          hasNationalPrefix u rp val = false ∧ addsAreaCode rp val = true then
        (withAreaCode u rp phoneNr).getD phoneNr
      else phoneNr) := by
  rw [lookedUp, if_neg (by simp [hext]), hp, Option.map_some]

theorem resolver_e164 {n : u.Number} (h : lookedUp u rp val = some n) :
    (parseAndFormatForResolver u rp val).2.2 = u.formatE164 n := by
  have hform := form_of_lookedUp h
  generalize parseAndFormatForResolver u rp val = texts at hform
  cases hform <;> rfl

/-- A number that is looked up was parsed. -/
theorem resolver_kind {n : u.Number} (h : lookedUp u rp val = some n) :
    (parseAndFormatForResolver u rp val).1 ≠ .invalid := by
  have hform := form_of_lookedUp h
  generalize parseAndFormatForResolver u rp val = texts at hform
  cases hform <;> exact nofun

/-! ### One number -/

/-- Both functions make the same number of a text, and put the area code before a number only that
has neither a country code nor the national prefix, and is shorter than local numbers may be. -/
structure SameNumber (u : PhoneUtil) (rp : GeneralPrefs) (val : String) : Prop where
  same : ∀ phoneNr, parsedNumber u rp val = some phoneNr →
    (parseAndFormatForResolver u rp val).1 ≠ .invalid →
      u.formatE164 phoneNr = (parseAndFormatForResolver u rp val).2.2
  prepended : ∀ phoneNr, u.parseAndKeepRawInput (toUTF8 val) rp.cc u.empty = some phoneNr →
    addsAreaCode rp val = true → hasOwnCountryCode u phoneNr = false ∧
      hasNationalPrefix u rp val = false ∧ (val.length : Int) < rp.localNrMaxLen

/-- A number that the area code is put before has no country code and no national prefix, the
preferences give no negative length, and where there is no national prefix the area code cannot
be put before the number or does not change it. -/
structure Local (u : PhoneUtil) (rp : GeneralPrefs) (val : String) (phoneNr : u.Number) :
    Prop where
  countryCode : hasOwnCountryCode u phoneNr = false
  nationalPrefix : hasNationalPrefix u rp val = false
  length : 0 ≤ rp.localNrMaxLen
  noPrefix : u.mapNdd rp.cc = "" → ∀ longer, withAreaCode u rp phoneNr = some longer →
    u.formatE164 longer = u.formatE164 phoneNr

/-- A length that passes the test is below the one of the preferences, unless that is negative. -/
theorem length_lt_iff (h : addsAreaCode rp val = true) :
    (val.length : Int) < rp.localNrMaxLen ↔ 0 ≤ rp.localNrMaxLen := by
  simp only [addsAreaCode, Bool.and_eq_true, decide_eq_true_eq] at h
  have hlt := h.2
  rw [sizeT] at hlt
  omega

/-- **Both functions agree on a number exactly when it is local if the area code is put before
it.** -/
theorem sameNumber_iff (u : PhoneUtil) (rp : GeneralPrefs) (val : String)
    (hext : isInternalNumber rp val = false) : SameNumber u rp val ↔
      ∀ phoneNr, u.parseAndKeepRawInput (toUTF8 val) rp.cc u.empty = some phoneNr →
        addsAreaCode rp val = true → Local u rp val phoneNr := by
  constructor
  · intro h phoneNr hp ha
    obtain ⟨hcc, hpre, hlen⟩ := h.prepended phoneNr hp ha
    refine ⟨hcc, hpre, (length_lt_iff ha).mp hlen, fun hndd longer hlonger => ?_⟩
    have hparsed : parsedNumber u rp val = some longer := by simp [parsedNumber, hp, ha, hlonger]
    have hup := lookedUp_eq hext hp
    rw [if_neg (by simp [hndd])] at hup
    have hsame := h.same longer hparsed (resolver_kind hup)
    rwa [resolver_e164 hup] at hsame
  · intro h
    refine ⟨fun n hn _ => ?_, fun phoneNr hp ha => ?_⟩
    · cases hp : u.parseAndKeepRawInput (toUTF8 val) rp.cc u.empty with
      | none => simp [parsedNumber, hp] at hn
      | some phoneNr =>
          rw [resolver_e164 (lookedUp_eq hext hp)]
          cases ha : addsAreaCode rp val with
          | false =>
              have hsame : phoneNr = n := by simpa [parsedNumber, hp, ha] using hn
              rw [if_neg (by simp), hsame]
          | true =>
              obtain ⟨hcc, hpre, -, hndd⟩ := h phoneNr hp ha
              have hlonger : withAreaCode u rp phoneNr = some n := by
                simpa [parsedNumber, hp, ha] using hn
              by_cases hempty : u.mapNdd rp.cc = ""
              · rw [if_neg (by simp [hempty])]
                exact hndd hempty n hlonger
              · rw [if_pos ⟨hcc, hempty, hpre, rfl⟩, hlonger]
                rfl
    · have hlocal := h phoneNr hp ha
      exact ⟨hlocal.countryCode, hlocal.nationalPrefix, (length_lt_iff ha).mpr hlocal.length⟩

/-! ### Numbers in Berlin -/

/-- libphonenumber for German numbers, which knows whether a number had a country code. -/
def codedPhone : PhoneUtil where
  Number := Bool × String
  empty := (false, "")
  parseAndKeepRawInput s _ _ := some (startsWith s "+49", nationalNumber s)
  parse s _ _ := some (startsWith s "+49", nationalNumber s)
  hasCountryCode _ := true
  countryCode _ := 49
  fromDefaultCountry n := !n.1
  countryCodeForRegion _ := 49
  nationalSignificantNumber n := n.2
  formatInOriginalFormat n _ := if n.1 then "+49 " ++ n.2 else n.2
  formatNational n := "0" ++ n.2
  formatInternational n := "+49 " ++ n.2
  formatE164 n := "+49" ++ n.2
  mapNdd _ := "0"

/-- Numbers shorter than twelve characters get the area code of Berlin. -/
def berlinPrefs : GeneralPrefs :=
  { GeneralPrefs.initial with ac := "30", addACIfShortLen := true, localNrMaxLen := 12 }

/-- A local number. -/
theorem sameNumber_local : SameNumber codedPhone berlinPrefs "123456" :=
  (sameNumber_iff codedPhone berlinPrefs "123456" (by decide)).mpr fun phoneNr hp _ => by
    obtain rfl := Option.some.inj hp
    exact ⟨by decide +kernel, by decide, by decide, fun h => absurd h (by decide)⟩

/-- A number from Munich, with its country code, is formatted as one from Berlin. -/
theorem areaCode_put_twice : (parsedNumber codedPhone berlinPrefs "+4989123456").map
      codedPhone.formatE164 = some "+493089123456" ∧
    (parseAndFormatForResolver codedPhone berlinPrefs "+4989123456").2.2 = "+4989123456" ∧
    ¬ SameNumber codedPhone berlinPrefs "+4989123456" := by
  have hlong : (parsedNumber codedPhone berlinPrefs "+4989123456").map codedPhone.formatE164 =
      some "+493089123456" := by decide +kernel
  have hresolver : (parseAndFormatForResolver codedPhone berlinPrefs "+4989123456").2.2 =
      "+4989123456" := by decide +kernel
  refine ⟨hlong, hresolver, fun h => ?_⟩
  obtain ⟨phoneNr, hp, hlong⟩ := Option.map_eq_some_iff.mp hlong
  have hsame := h.same phoneNr hp (by decide +kernel)
  rw [hlong, hresolver] at hsame
  exact absurd hsame (by decide)

end Cmon
