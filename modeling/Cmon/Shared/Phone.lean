import Cmon.Shared.Platform

/-!
# Shared — telephone numbers

The static functions of `CPhone` that classify a number and format it for the resolvers, over
the functions of libphonenumber they call (`PhoneUtil`).  A `PhoneUtil` parse gives `none` when
libphonenumber reports a parsing error; it merges what it reads into the number it is given.
-/

namespace Cmon

/-- The functions of libphonenumber, and the table of national prefixes built from it
(`m_mapNdd`). -/
structure PhoneUtil where
  Number : Type
  empty : Number
  parseAndKeepRawInput : String → String → Number → Option Number
  parse : String → String → Number → Option Number
  hasCountryCode : Number → Bool
  countryCode : Number → Int
  /-- `country_code_source() == FROM_DEFAULT_COUNTRY` -/
  fromDefaultCountry : Number → Bool
  countryCodeForRegion : String → Int
  nationalSignificantNumber : Number → String
  formatInOriginalFormat : Number → String → String
  formatNational : Number → String
  formatInternational : Number → String
  formatE164 : Number → String
  mapNdd : String → String

/-- A library that can parse no number: for runs with internal numbers only. -/
def PhoneUtil.refusing : PhoneUtil where
  Number := Unit
  empty := ()
  parseAndKeepRawInput _ _ _ := none
  parse _ _ _ := none
  hasCountryCode _ := false
  countryCode _ := 0
  fromDefaultCountry _ := false
  countryCodeForRegion _ := 0
  nationalSignificantNumber _ := ""
  formatInOriginalFormat _ _ := ""
  formatNational _ := ""
  formatInternational _ := ""
  formatE164 _ := ""
  mapNdd _ := ""

/-- `CPhone::TNumberKind`. -/
inductive NumberKind where
  | internal | national | nationalResolvable | international | invalid
  deriving DecidableEq, Repr

/-- `CPhone::isInternalNumber`. -/
def isInternalNumber (rp : GeneralPrefs) (strNr : String) : Bool :=
  if startsWith strNr "+" then false
  else if rp.externalByLAC then
    if startsWith strNr rp.lac then false
    else rp.externalByLen && rp.internalNrLen > 0 && strNr.length ≤ sizeT rp.internalNrLen
  else rp.externalByLen && rp.internalNrLen > 0 && strNr.length ≤ sizeT rp.internalNrLen

/-- `CPhone::parseAndFormatForResolver`: the kind of the number, the number to look up in a
national directory and the number to look up in an address book. -/
def parseAndFormatForResolver (u : PhoneUtil) (rp : GeneralPrefs) (val : String) :
    NumberKind × String × String :=
  if isInternalNumber rp val then (.internal, val, val)
  else
    match u.parseAndKeepRawInput (toUTF8 val) rp.cc u.empty with
    | none => (.invalid, val, val)
    | some phoneNr =>
        let resolvable := (NumberKind.nationalResolvable, u.formatNational phoneNr,
          u.formatE164 phoneNr)
        if u.hasCountryCode phoneNr && !u.fromDefaultCountry phoneNr then
          if u.countryCode phoneNr ≠ u.countryCodeForRegion rp.cc then
            (.international, u.formatInOriginalFormat phoneNr rp.cc, u.formatE164 phoneNr)
          else resolvable
        else if (u.mapNdd rp.cc).isEmpty then resolvable
        else if startsWith val (u.mapNdd rp.cc) then resolvable
        else
          -- a local number: the area code is put before it, when the preferences give one
          let withAreaCode :=
            if rp.addACIfShortLen && !rp.ac.isEmpty && val.length < sizeT rp.localNrMaxLen then
              u.parse (rp.ac ++ u.nationalSignificantNumber phoneNr) rp.cc phoneNr
            else none
          match withAreaCode with
          | some phoneNr => (.nationalResolvable, u.formatNational phoneNr, u.formatE164 phoneNr)
          | none => (.national, val, u.formatE164 phoneNr)

end Cmon
