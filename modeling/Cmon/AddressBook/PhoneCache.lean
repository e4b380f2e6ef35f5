import Cmon.Library.Run
import Cmon.AddressBook.Resolve

/-!
# Address book — a phone and what it has parsed

`CPhone` keeps the number libphonenumber made of its text, and whether there was one.
`setNumber` fills them in by the preferences of the moment, and has libphonenumber parse into the
number that is there; the readers ask the preferences again whether the text is an internal
number.

* `PhoneObject.Current`: the phone has what a new one with its text has, as far as it is read.
* `readers_of_current`: the readers then tell the two not apart.
* `current_of_fits`: this is so in every state of a run whose steps are as `Fits` says.
-/

namespace Cmon
open Library

/-- `EEXTNR_CHANGE_MODE`. -/
inductive ExtNrChangeMode where
  | nochange | addPrefix | delPrefix
  deriving DecidableEq, Repr

/-- The telephony preferences. -/
structure TelephonyPrefs extends GeneralPrefs where
  externalNrChangeMode : ExtNrChangeMode

/-- What the readers take from libphonenumber besides: `FormatOutOfCountryCallingNumber` and
`GetDescriptionForNumber`. -/
structure PhoneReaders extends PhoneLib where
  formatOutOfCountryCallingNumber : Number → String → String
  descriptionForNumber : Number → String

/-- `CPhone`: `m_Number`, `m_bValid` and `m_PhoneNr`. -/
structure PhoneObject (u : PhoneReaders) where
  number : String
  valid : Bool
  phoneNr : u.Number

namespace PhoneObject
variable {u : PhoneReaders}

/-! ### The source -/

/-- `CPhone::CPhone`. -/
def create (u : PhoneReaders) : PhoneObject u := ⟨"", false, u.empty⟩

/-- `CPhone::isInternal`. -/
def isInternal (ph : PhoneObject u) (rp : TelephonyPrefs) : Bool :=
  isInternalNumber rp.toGeneralPrefs ph.number

/-- `CPhone::setNumber`. -/
def setNumber (ph : PhoneObject u) (rp : TelephonyPrefs) (val : String) : PhoneObject u :=
  let ph := { ph with number := trim val }
  if ph.isInternal rp then { ph with valid := isNumber u.toPhoneLib ph.number }
  else
    match u.parse (toUTF8 ph.number) rp.cc ph.phoneNr with
    | some phoneNr => { ph with phoneNr, valid := true }
    | none => { ph with valid := false }

/-- `CPhone::getNumberInfo`. -/
def getNumberInfo (ph : PhoneObject u) (rp : TelephonyPrefs) : String :=
  if !ph.valid then ""
  else if ph.isInternal rp then "Internal"
  else if u.isInitialized ph.phoneNr then u.descriptionForNumber ph.phoneNr
  else ""

/-- `CPhone::getFormattedNumber`. -/
def getFormattedNumber (ph : PhoneObject u) (rp : TelephonyPrefs) : String :=
  if !ph.valid || ph.isInternal rp then ph.number
  else if u.isInitialized ph.phoneNr then u.formatInternational ph.phoneNr
  else ""

/-- `CPhone::getCallableNumber`. -/
def getCallableNumber (ph : PhoneObject u) (rp : TelephonyPrefs) : String :=
  if !ph.valid || ph.isInternal rp then ph.number
  else if u.isInitialized ph.phoneNr then
    let wxNumber := u.formatOutOfCountryCallingNumber ph.phoneNr rp.cc
    match rp.externalNrChangeMode with
    | .addPrefix => rp.lac ++ wxNumber
    | .delPrefix =>
        if startsWith wxNumber rp.lac then String.ofList (wxNumber.toList.drop rp.lac.length)
        else wxNumber
    | .nochange => wxNumber
  else ""

/-- `CPhone::isMatch`. -/
def isMatch (ph : PhoneObject u) (rp : TelephonyPrefs) (nr : String) : Bool :=
  if ph.valid then
    if ph.isInternal rp then ph.number == u.ofCString (cString nr)
    else
      u.isInitialized ph.phoneNr &&
        match u.isNumberMatchWithOneString ph.phoneNr nr with
        | .exactMatch | .nsnMatch => true
        | _ => false
  else false

/-- A new phone with the text. -/
def fresh (u : PhoneReaders) (rp : TelephonyPrefs) (val : String) : PhoneObject u :=
  (create u).setNumber rp val

/-- Whether a text is a number, by the preferences. -/
def isValidText (u : PhoneReaders) (rp : TelephonyPrefs) (number : String) : Bool :=
  if isInternalNumber rp.toGeneralPrefs number then isNumber u.toPhoneLib number
  else (u.parse (toUTF8 number) rp.cc u.empty).isSome

/-! ### One call of `setNumber` -/

section
variable {ph ph' : PhoneObject u} {rp : TelephonyPrefs} {val : String}

theorem setNumber_internal (h : isInternalNumber rp.toGeneralPrefs (trim val) = true) :
    ph.setNumber rp val = { ph with number := trim val, valid := isNumber u.toPhoneLib (trim val) } :=
  if_pos h

theorem setNumber_external (h : isInternalNumber rp.toGeneralPrefs (trim val) = false) :
    ph.setNumber rp val = match u.parse (toUTF8 (trim val)) rp.cc ph.phoneNr with
      | some phoneNr => { ph with number := trim val, valid := true, phoneNr }
      | none => { ph with number := trim val, valid := false } :=
  if_neg (ne_true_of_eq_false h)

@[simp] theorem setNumber_number (ph : PhoneObject u) (rp : TelephonyPrefs) (val : String) :
    (ph.setNumber rp val).number = trim val := by
  rw [setNumber]
  dsimp only
  split
  · rfl
  · split <;> rfl

theorem fresh_valid (rp : TelephonyPrefs) (val : String) :
    (fresh u rp val).valid = isValidText u rp (trim val) := by
  rw [fresh, isValidText]
  cases h : isInternalNumber rp.toGeneralPrefs (trim val) with
  | true => simp [setNumber_internal h]
  | false =>
      rw [setNumber_external h, create]
      cases u.parse (toUTF8 (trim val)) rp.cc u.empty <;> simp

theorem fresh_phoneNr (h : isInternalNumber rp.toGeneralPrefs (trim val) = false) :
    (fresh u rp val).phoneNr = (u.parse (toUTF8 (trim val)) rp.cc u.empty).getD u.empty := by
  rw [fresh, setNumber_external h, create]
  cases u.parse (toUTF8 (trim val)) rp.cc u.empty <;> simp

/-- `isMatch` of the address books is that of a new phone. -/
theorem isMatch_fresh (rp : TelephonyPrefs) (val nr : String) :
    (fresh u rp val).isMatch rp nr = Cmon.isMatch u.toPhoneLib rp.toGeneralPrefs val nr := by
  have hint : (fresh u rp val).isInternal rp = isInternalNumber rp.toGeneralPrefs (trim val) := by
    rw [isInternal, fresh, setNumber_number]
  rw [isMatch, hint, Cmon.isMatch, fresh]
  cases h : isInternalNumber rp.toGeneralPrefs (trim val) with
  | true =>
      rw [setNumber_internal h]
      cases isNumber u.toPhoneLib (trim val) <;> simp
  | false =>
      rw [setNumber_external h, create]
      cases u.parse (toUTF8 (trim val)) rp.cc u.empty with
      | none => simp
      | some phoneNr => rfl

/-! ### What the readers see -/

/-- The phone has the same text and validity as another, and the same number where it is read. -/
structure Current (ph ph' : PhoneObject u) (rp : TelephonyPrefs) : Prop where
  number : ph.number = ph'.number
  valid : ph.valid = ph'.valid
  phoneNr : ph.isInternal rp = false → ph.valid = true → ph.phoneNr = ph'.phoneNr

/-- The readers answer the same. -/
structure SameReaders (ph ph' : PhoneObject u) (rp : TelephonyPrefs) : Prop where
  formatted : ph.getFormattedNumber rp = ph'.getFormattedNumber rp
  callable : ph.getCallableNumber rp = ph'.getCallableNumber rp
  isMatch : ∀ nr, ph.isMatch rp nr = ph'.isMatch rp nr
  info : ph.getNumberInfo rp = ph'.getNumberInfo rp

/-- **The readers do not tell the two phones apart.** -/
theorem readers_of_current (h : ph.Current ph' rp) : ph.SameReaders ph' rp := by
  have hint : ph'.isInternal rp = ph.isInternal rp := by rw [isInternal, isInternal, h.number]
  cases hv : ph.valid with
  | false =>
      have hv' := h.valid.symm.trans hv
      constructor <;> simp [getFormattedNumber, getCallableNumber, isMatch, getNumberInfo, hv, hv',
        h.number]
  | true =>
      have hv' := h.valid.symm.trans hv
      cases hi : ph.isInternal rp with
      | true =>
          have hi' := hint.trans hi
          constructor <;> simp [getFormattedNumber, getCallableNumber, isMatch, getNumberInfo, hv,
            hv', hi, hi', h.number]
      | false =>
          have hi' := hint.trans hi
          have hnr := h.phoneNr hi hv
          constructor <;> simp [getFormattedNumber, getCallableNumber, isMatch, getNumberInfo, hv,
            hv', hi, hi', hnr]

end
end PhoneObject

/-! ### Edits and preferences -/

/-- A phone in use: the preferences, the phone, and the text it was given last. -/
structure PhoneInUse (u : PhoneReaders) where
  prefs : TelephonyPrefs
  phone : PhoneObject u
  last : Option String

/-- What can happen to it. -/
inductive PhoneEvent where
  | setNumber (val : String)
  | setPrefs (rp : TelephonyPrefs)

namespace PhoneInUse
variable {u : PhoneReaders} {s : PhoneInUse u}

/-- A phone that has no text yet. -/
def start (u : PhoneReaders) (rp : TelephonyPrefs) : PhoneInUse u := ⟨rp, .create u, none⟩

def step (s : PhoneInUse u) : PhoneEvent → PhoneInUse u
  | .setNumber val => { s with phone := s.phone.setNumber s.prefs val, last := some val }
  | .setPrefs rp => { s with prefs := rp }

/-- A new phone with the current text, under the current preferences. -/
def renewed (s : PhoneInUse u) : PhoneObject u :=
  match s.last with
  | none => .create u
  | some val => .fresh u s.prefs val

/-- The steps that leave the phone current: libphonenumber makes the same of a text, whether it
parses into the number of the phone or into an empty one; and with other preferences the text is
a number as before, and one that is not internal was none, and is parsed to the same number. -/
def Fits (s : PhoneInUse u) : PhoneEvent → Prop
  | .setNumber val => isInternalNumber s.prefs.toGeneralPrefs (trim val) = true ∨
      u.parse (toUTF8 (trim val)) s.prefs.cc s.phone.phoneNr =
        u.parse (toUTF8 (trim val)) s.prefs.cc u.empty
  | .setPrefs rp => s.last ≠ none →
      PhoneObject.isValidText u rp s.phone.number =
          PhoneObject.isValidText u s.prefs s.phone.number ∧
        (isInternalNumber rp.toGeneralPrefs s.phone.number = false →
          PhoneObject.isValidText u rp s.phone.number = true →
            isInternalNumber s.prefs.toGeneralPrefs s.phone.number = false ∧
              u.parse (toUTF8 s.phone.number) rp.cc u.empty =
                u.parse (toUTF8 s.phone.number) s.prefs.cc u.empty)

/-- The phone is as a new one. -/
def Current (s : PhoneInUse u) : Prop := s.phone.Current s.renewed s.prefs

theorem current_start (u : PhoneReaders) (rp : TelephonyPrefs) : (start u rp).Current :=
  ⟨rfl, rfl, fun _ _ => rfl⟩

/-- A new text. -/
theorem current_setNumber (s : PhoneInUse u) {val : String} (h : s.Fits (.setNumber val)) :
    (s.step (.setNumber val)).Current := by
  simp only [Current, step, renewed]
  cases hi : isInternalNumber s.prefs.toGeneralPrefs (trim val) with
  | true =>
      rw [PhoneObject.fresh, PhoneObject.setNumber_internal hi, PhoneObject.setNumber_internal hi]
      exact ⟨rfl, rfl, fun hext _ => absurd (hi.symm.trans hext) Bool.false_ne_true.symm⟩
  | false =>
      have hparse := h.resolve_left (by simp [hi])
      rw [PhoneObject.fresh, PhoneObject.setNumber_external hi, PhoneObject.setNumber_external hi,
        hparse, PhoneObject.create]
      cases u.parse (toUTF8 (trim val)) s.prefs.cc u.empty with
      | none => exact ⟨rfl, rfl, fun _ hv => absurd hv Bool.false_ne_true⟩
      | some phoneNr => exact ⟨rfl, rfl, fun _ _ => rfl⟩

/-- Other preferences. -/
theorem current_setPrefs (hs : s.Current) {rp : TelephonyPrefs} (h : s.Fits (.setPrefs rp)) :
    (s.step (.setPrefs rp)).Current := by
  cases hlast : s.last with
  | none =>
      have hren : s.renewed = .create u := by rw [renewed, hlast]
      have hren' : (s.step (.setPrefs rp)).renewed = .create u := by simp only [renewed, step, hlast]
      rw [Current, hren] at hs
      rw [Current, hren']
      exact ⟨hs.number, hs.valid, fun _ hv => absurd (hs.valid.symm.trans hv) Bool.false_ne_true⟩
  | some val =>
      obtain ⟨hvalid, hparse⟩ := h (by simp [hlast])
      have hren : s.renewed = .fresh u s.prefs val := by rw [renewed, hlast]
      have hren' : (s.step (.setPrefs rp)).renewed = .fresh u rp val := by
        simp only [renewed, step, hlast]
      rw [Current, hren] at hs
      rw [Current, hren']
      have hnumber : s.phone.number = trim val := hs.number.trans (PhoneObject.setNumber_number _ _ _)
      rw [hnumber] at hvalid hparse
      refine ⟨hnumber.trans (PhoneObject.setNumber_number _ _ _).symm, ?_, fun hext hv => ?_⟩
      · rw [PhoneObject.fresh_valid, hvalid, ← PhoneObject.fresh_valid]
        exact hs.valid
      · have hv' : PhoneObject.isValidText u rp (trim val) = true := by
          rw [hvalid, ← PhoneObject.fresh_valid, ← hs.valid]
          exact hv
        have hext' : isInternalNumber rp.toGeneralPrefs (trim val) = false := by
          rw [← hnumber]
          exact hext
        obtain ⟨hold, hsame⟩ := hparse hext' hv'
        have hnr := hs.phoneNr (by rw [PhoneObject.isInternal, hnumber, hold]) hv
        rw [PhoneObject.fresh_phoneNr hext', hsame, ← PhoneObject.fresh_phoneNr hold]
        exact hnr

/-- A step that fits leaves the phone current. -/
theorem Current.step (hs : s.Current) {ev : PhoneEvent} (h : s.Fits ev) : (s.step ev).Current := by
  cases ev with
  | setNumber val => exact current_setNumber s h
  | setPrefs rp => exact current_setPrefs hs h

/-- **In every state of a run whose steps fit, the readers answer as those of a new phone.** -/
theorem current_of_fits (u : PhoneReaders) (rp : TelephonyPrefs) (evs : List PhoneEvent)
    (h : Along step Fits (start u rp) evs) : ∀ pre post, evs = pre ++ post →
      (run step (start u rp) pre).phone.SameReaders (run step (start u rp) pre).renewed
        (run step (start u rp) pre).prefs := by
  rintro pre post rfl
  have hpre := (along_append.mp h).1
  exact PhoneObject.readers_of_current
    (hpre.inv (I := Current) (fun _ _ hs hfits => hs.step hfits) (current_start u rp))

/-! ### A German phone -/

def germanReaders : PhoneReaders where
  toPhoneLib := germanLib
  formatOutOfCountryCallingNumber n _ := germanLib.formatNational n
  descriptionForNumber _ := "Germany"

/-- Numbers of up to `len` characters are internal. -/
def shortPrefs (len : Int) : TelephonyPrefs :=
  { GeneralPrefs.initial with
    externalByLen := true, internalNrLen := len, externalNrChangeMode := .nochange }

/-- The phone after these steps, where numbers of up to three characters are internal. -/
def germanPhone (evs : List PhoneEvent) : PhoneInUse germanReaders :=
  run step (start germanReaders (shortPrefs 3)) evs

/-- An external number, an internal one, and other rules that leave it internal. -/
theorem current_internal :
    (germanPhone [.setNumber "+4930123456", .setNumber "123",
        .setPrefs (shortPrefs 4)]).phone.SameReaders
      (germanPhone [.setNumber "+4930123456", .setNumber "123", .setPrefs (shortPrefs 4)]).renewed
      (shortPrefs 4) :=
  current_of_fits germanReaders (shortPrefs 3)
    [.setNumber "+4930123456", .setNumber "123", .setPrefs (shortPrefs 4)]
    ⟨.inr rfl, .inl (by decide), fun _ => ⟨by decide, fun h => absurd h (by decide)⟩, trivial⟩
    _ [] (List.append_nil _).symm

/-- When the internal number becomes an external one, the number to call is the earlier one. -/
theorem earlier_number_called :
    (germanPhone [.setNumber "+4930123456", .setNumber "123",
        .setPrefs (shortPrefs 0)]).phone.getCallableNumber (shortPrefs 0) = "030123456" ∧
    ¬ (germanPhone [.setNumber "+4930123456", .setNumber "123",
        .setPrefs (shortPrefs 0)]).phone.SameReaders
      (.fresh germanReaders (shortPrefs 0) "123") (shortPrefs 0) := by
  have hcall : (germanPhone [.setNumber "+4930123456", .setNumber "123",
      .setPrefs (shortPrefs 0)]).phone.getCallableNumber (shortPrefs 0) = "030123456" := by
    decide +kernel
  refine ⟨hcall, fun h => ?_⟩
  have hsame := h.callable
  rw [hcall] at hsame
  revert hsame
  decide +kernel

end PhoneInUse
end Cmon
