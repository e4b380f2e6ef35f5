import Cmon.AddressBook.Connection
import Cmon.AddressBook.Registration
import Cmon.Library.Refinement
import Cmon.Library.Sections
import Cmon.Shared.Config
import Cmon.Shared.Format
import Cmon.Shared.Uuid

/-!
# App — the settings

The preferences of the program and of its plug-ins, and the configuration that they are kept in:
five parts, each in a group of its own.  A part is written when its page finds it changed; what the
program sets by itself is written with the next change on the page of the preferences, or when the
program ends.  `ExtNrByLength` is written as `ExtNrBYLength`, which the registry takes for the same.

The three codes are kept as bytes.  The page makes them of its texts in the encoding of the locale,
and they are written as if they were UTF-8: a code that is not ASCII is lost unless the two are the
same.  A text is read with its environment variables expanded.

* `load_save`, `save_apart`: good settings come back, and no part touches the group of another.
* `Settings.refines`: to a start of the program, the configuration is a record of what was saved
  last.
* `Settings.restored_run`: so it is after every run of good settings, and a start shows on the pages
  what they showed at its end.
-/

namespace Cmon
open Library

/-- What is taken from wxWidgets and the system: the configuration, the texts of UUIDs, the
conversions of a `std::string`, by the locale and by UTF-8, and the country of `GetLocaleInfo`. -/
structure SettingsPlatform where
  config : RegConfig
  uuids : UuidTexts
  toStdString : String → List UInt8
  ofStdString : List UInt8 → String
  fromUTF8 : List UInt8 → String
  toUTF8 : String → List UInt8
  localeCC : String

/-! ### The preferences of the program -/

/-- `CGeneralPrefs`. -/
structure Prefs where
  startHidden : Bool
  selectedPage : Int
  cp : String
  uuidAB : Guid
  cc : List UInt8
  ac : List UInt8
  addACIfShortLen : Bool
  localNrMaxLen : Int
  lac : List UInt8
  externalByLAC : Bool
  externalByLen : Bool
  internalNrLen : Int
  extNrChangeMode : Int
  delJournalByAge : Bool
  maxJournalAge : Int
  delJournalByCount : Bool
  maxJournalCount : Int
  deriving DecidableEq, Repr

/-- `CPrefsPage::UIData`. -/
structure PrefsPage where
  strCC : String
  strAC : String
  addACIfShortLen : Bool
  localNrMaxLen : Int
  strLAC : String
  extNrByLAC : Bool
  extNrByLen : Bool
  intNrLen : Int
  nrChangeMode : Int
  delJournalByAge : Bool
  maxJournalAge : Int
  delJournalByCount : Bool
  maxJournalCount : Int
  deriving DecidableEq, Repr

namespace Prefs

/-- The constructor; `uuid` is what `UuidCreate` gives. -/
def create (uuid : Guid) : Prefs where
  startHidden := false
  selectedPage := 3
  cp := ""
  uuidAB := uuid
  cc := []
  ac := []
  addACIfShortLen := false
  localNrMaxLen := 0
  lac := []
  externalByLAC := false
  externalByLen := false
  internalNrLen := 0
  extNrChangeMode := 0
  delJournalByAge := false
  maxJournalAge := 365
  delJournalByCount := false
  maxJournalCount := 500

variable (q : SettingsPlatform)

/-- A code as `load` reads it. -/
def loadCode (key : String) (code : List UInt8) (pC : q.config.State) : List UInt8 :=
  q.toUTF8 ((q.config.readText "" key pC).getD (q.fromUTF8 code))

/-- `CGeneralPrefs::load`. -/
def load (p : Prefs) (pC : q.config.State) : Prefs where
  startHidden := (q.config.readBool "" "StartHidden" pC).getD p.startHidden
  selectedPage := (q.config.readLong "" "SelectedPage" pC).getD p.selectedPage
  cp := (q.config.readText "" "Callprovider" pC).getD p.cp
  uuidAB := q.uuids.fromString
    ((q.config.readText "" "Addressbook" pC).getD (q.uuids.toString p.uuidAB))
  cc := loadCode q "CC" p.cc pC
  ac := loadCode q "AC" p.ac pC
  addACIfShortLen := (q.config.readBool "" "AddACIfShortLen" pC).getD p.addACIfShortLen
  localNrMaxLen := (q.config.readLong "" "LocalNrMaxLen" pC).getD p.localNrMaxLen
  lac := loadCode q "LAC" p.lac pC
  externalByLAC := (q.config.readBool "" "ExtNrByLAC" pC).getD p.externalByLAC
  externalByLen := (q.config.readBool "" "ExtNrByLength" pC).getD p.externalByLen
  internalNrLen := (q.config.readLong "" "IntNrLength" pC).getD p.internalNrLen
  extNrChangeMode := (q.config.readLong "" "ExtNrChangeModeOut" pC).getD p.extNrChangeMode
  delJournalByAge := (q.config.readBool "" "DelJournalByAge" pC).getD p.delJournalByAge
  delJournalByCount := (q.config.readBool "" "DelJournalByCount" pC).getD p.delJournalByCount
  maxJournalAge := (q.config.readLong "" "MaxJournalAge" pC).getD p.maxJournalAge
  maxJournalCount := (q.config.readLong "" "MaxJournalCount" pC).getD p.maxJournalCount

/-- `CGeneralPrefs::save`: what is written. -/
def values (p : Prefs) : List (String × ConfigValue) :=
  [("StartHidden", .bool p.startHidden), ("SelectedPage", .long p.selectedPage),
    ("Callprovider", .text p.cp), ("Addressbook", .text (q.uuids.toString p.uuidAB)),
    ("CC", .text (q.fromUTF8 p.cc)), ("AC", .text (q.fromUTF8 p.ac)),
    ("AddACIfShortLen", .bool p.addACIfShortLen), ("LocalNrMaxLen", .long p.localNrMaxLen),
    ("LAC", .text (q.fromUTF8 p.lac)), ("ExtNrByLAC", .bool p.externalByLAC),
    ("ExtNrBYLength", .bool p.externalByLen), ("IntNrLength", .long p.internalNrLen),
    ("ExtNrChangeModeOut", .long p.extNrChangeMode), ("DelJournalByAge", .bool p.delJournalByAge),
    ("DelJournalByCount", .bool p.delJournalByCount), ("MaxJournalAge", .long p.maxJournalAge),
    ("MaxJournalCount", .long p.maxJournalCount)]

/-- The constructor of `CGlobalPreferences`. -/
def start (uuid : Guid) (pC : q.config.State) : Prefs :=
  let p := (create uuid).load q pC
  if p.cc = [] then { p with cc := q.toStdString q.localeCC } else p

/-- `operator==`. -/
def same (p r : Prefs) : Bool :=
  p.cp == r.cp && p.uuidAB == r.uuidAB && p.cc == r.cc && p.ac == r.ac &&
    p.addACIfShortLen == r.addACIfShortLen && p.localNrMaxLen == r.localNrMaxLen &&
    p.lac == r.lac && p.externalByLAC == r.externalByLAC && p.externalByLen == r.externalByLen &&
    p.internalNrLen == r.internalNrLen && p.extNrChangeMode == r.extNrChangeMode &&
    p.delJournalByAge == r.delJournalByAge && p.maxJournalAge == r.maxJournalAge &&
    p.delJournalByCount == r.delJournalByCount && p.maxJournalCount == r.maxJournalCount

/-- `CPrefsPage::UIData::fromPrefs`. -/
def fromPrefs (p : Prefs) : PrefsPage where
  strCC := q.ofStdString p.cc
  strAC := q.ofStdString p.ac
  addACIfShortLen := p.addACIfShortLen
  localNrMaxLen := p.localNrMaxLen
  strLAC := q.ofStdString p.lac
  extNrByLAC := p.externalByLAC
  extNrByLen := p.externalByLen
  intNrLen := p.internalNrLen
  nrChangeMode := p.extNrChangeMode
  delJournalByAge := p.delJournalByAge
  maxJournalAge := p.maxJournalAge
  delJournalByCount := p.delJournalByCount
  maxJournalCount := p.maxJournalCount

/-- `CPrefsPage::UIData::toPrefs`. -/
def toPrefs (p : Prefs) (d : PrefsPage) : Prefs :=
  { p with
    cc := q.toStdString d.strCC
    ac := q.toStdString d.strAC
    addACIfShortLen := d.addACIfShortLen
    localNrMaxLen := d.localNrMaxLen
    lac := q.toStdString d.strLAC
    externalByLAC := d.extNrByLAC
    externalByLen := d.extNrByLen
    internalNrLen := d.intNrLen
    extNrChangeMode := d.nrChangeMode
    delJournalByAge := d.delJournalByAge
    maxJournalAge := d.maxJournalAge
    delJournalByCount := d.delJournalByCount
    maxJournalCount := d.maxJournalCount }

end Prefs

section
variable (q : SettingsPlatform)

/-- `CGlobalPreferences::savePrefs`. -/
def savePrefs (p : Prefs) (pC : q.config.State) : q.config.State :=
  q.config.writeAll "" (p.values q) pC

/-! ### The other parts -/

/-- `wxRect`. -/
structure Rect where
  x : Int
  y : Int
  width : Int
  height : Int
  deriving DecidableEq, Repr

/-- `CGlobalPreferences::readFrameSize`; a group that is not there has none of the entries. -/
def readFrameSize (pC : q.config.State) : Option Rect := do
  let x ← q.config.readLong "Window" "PosX" pC
  let y ← q.config.readLong "Window" "PosY" pC
  let width ← q.config.readLong "Window" "Width" pC
  let height ← q.config.readLong "Window" "Height" pC
  return ⟨x, y, width, height⟩

/-- `CGlobalPreferences::writeFrameSize`. -/
def writeFrameSize (rect : Rect) (pC : q.config.State) : q.config.State :=
  q.config.writeAll "Window" [("PosX", .long rect.x), ("PosY", .long rect.y),
    ("Width", .long rect.width), ("Height", .long rect.height)] pC

/-- `CPFRITZPREFS::readPrefs`, of `CCpFritzPrefs`. -/
def CpfPrefs.readPrefs (pC : q.config.State) : String :=
  (q.config.readText "Fritz" "Address" pC).getD "fritz.box"

/-- `CPFRITZPREFS::savePrefs`. -/
def CpfPrefs.savePrefs (strFritzAddr : String) (pC : q.config.State) : q.config.State :=
  q.config.writeAll "Fritz" [("Address", .text strFritzAddr)] pC

/-- `(unsigned) n`. -/
def toUnsigned (n : Int) : Nat := (n % 4294967296).toNat

/-- `CPTPREFS::readLines`. -/
def CptPrefs.readLines (pC : q.config.State) : List Nat :=
  (List.range (q.config.entries "Tapi/Lines" pC).length).filterMap fun i =>
    (q.config.readLong "Tapi/Lines" (zeroPad 2 i) pC).map toUnsigned

/-- What `saveLines` writes. -/
def CptPrefs.values (vSelectedLines : List Nat) : List (String × ConfigValue) :=
  vSelectedLines.zipIdx.map fun l => (zeroPad 2 l.2, .long (toInt l.1))

/-- `CPTPREFS::saveLines`. -/
def CptPrefs.saveLines (vSelectedLines : List Nat) (pC : q.config.State) : q.config.State :=
  q.config.writeAll "Tapi/Lines" (CptPrefs.values vSelectedLines)
    (q.config.deleteGroup "Tapi/Lines" pC)

/-- `CPSqlPrefs`. -/
structure PSqlPrefs extends PSqlSettings where
  useOSUser : Bool
  deriving DecidableEq, Repr

/-- `PSQLPREFS::readPrefs`. -/
def PSqlPrefs.readPrefs (pC : q.config.State) : PSqlPrefs where
  host := (q.config.readText "Addressbooks/PostgreSQL" "Host" pC).getD "PSqlServer"
  port := ((q.config.readLong "Addressbooks/PostgreSQL" "Port" pC).map toUnsigned).getD 5432
  database := (q.config.readText "Addressbooks/PostgreSQL" "Database" pC).getD ""
  useOSUser := (q.config.readBool "Addressbooks/PostgreSQL" "UseOSUser" pC).getD true
  user := (q.config.readText "Addressbooks/PostgreSQL" "Username" pC).getD ""
  password := (q.config.readText "Addressbooks/PostgreSQL" "Password" pC).getD ""

/-- `PSQLPREFS::savePrefs`. -/
def PSqlPrefs.savePrefs (p : PSqlPrefs) (pC : q.config.State) : q.config.State :=
  q.config.writeAll "Addressbooks/PostgreSQL" [("Host", .text p.host),
    ("Port", .long (toInt p.port)), ("Database", .text p.database),
    ("UseOSUser", .bool p.useOSUser), ("Username", .text p.user), ("Password", .text p.password)] pC

end

/-! ### The program -/

/-- What the program and its plug-ins have in memory, and the configuration. -/
structure Settings (q : SettingsPlatform) where
  prefs : Prefs
  fritzAddr : String
  selectedLines : List Nat
  psqlPrefs : PSqlPrefs
  config : q.config.State

/-- What happens to the settings.  The main window may be hidden instead of closed; a restart comes
after the program has ended, whether it has saved or not. -/
inductive SettingsStep where
  | doChange (d : PrefsPage)
  | setSelectedPage (p : Int)
  | setSelectedABook (gid : Guid)
  | setDefaultCallProvider (val : String)
  | enableHiddenStart (val : Bool)
  | savePrefs
  | closeWindow (rect : Rect) (hides : Bool)
  | changeFritz (strFritzAddr : String)
  | changeLines (vSelectedLines : List Nat)
  | changePsql (p : PSqlPrefs)
  | restart (uuid : Guid)

namespace Settings
variable {q : SettingsPlatform}

/-- The start of the program. -/
def start (uuid : Guid) (pC : q.config.State) : Settings q where
  prefs := .start q uuid pC
  fritzAddr := CpfPrefs.readPrefs q pC
  selectedLines := CptPrefs.readLines q pC
  psqlPrefs := PSqlPrefs.readPrefs q pC
  config := pC

def step (s : Settings q) : SettingsStep → Settings q
  | .doChange d =>
      let prefs := s.prefs.toPrefs q d
      { s with
        prefs
        config := if !s.prefs.same prefs then Cmon.savePrefs q prefs s.config else s.config }
  | .setSelectedPage p => { s with prefs := { s.prefs with selectedPage := p } }
  | .setSelectedABook gid => { s with prefs := { s.prefs with uuidAB := gid } }
  | .setDefaultCallProvider val => { s with prefs := { s.prefs with cp := val } }
  | .enableHiddenStart val => { s with prefs := { s.prefs with startHidden := val } }
  | .savePrefs => { s with config := Cmon.savePrefs q s.prefs s.config }
  | .closeWindow rect hides =>
      { s with
        prefs := if hides then { s.prefs with startHidden := true } else s.prefs
        config := writeFrameSize q rect s.config }
  | .changeFritz strFritzAddr =>
      { s with
        fritzAddr := strFritzAddr
        config := if s.fritzAddr ≠ strFritzAddr then CpfPrefs.savePrefs q strFritzAddr s.config
          else s.config }
  | .changeLines vSelectedLines =>
      { s with
        selectedLines := vSelectedLines
        config := if s.selectedLines ≠ vSelectedLines
          then CptPrefs.saveLines q vSelectedLines s.config else s.config }
  | .changePsql p =>
      { s with
        psqlPrefs := p
        config := if s.psqlPrefs ≠ p then PSqlPrefs.savePrefs q p s.config else s.config }
  | .restart uuid => start uuid s.config

end Settings

/-! ### What comes back -/

namespace SettingsPlatform

/-- What is documented; no bytes are no text, and a text in ASCII has the same bytes everywhere. -/
structure Documented (q : SettingsPlatform) : Prop where
  config : q.config.Documented
  uuids : q.uuids.Documented
  decoded : ∀ t : String, '\x00' ∉ t.toList → q.fromUTF8 (q.toUTF8 t) = t
  empty : q.fromUTF8 [] = ""
  ascii : ∀ t : String, isAscii t = true → '\x00' ∉ t.toList → q.toStdString t = q.toUTF8 t

/-- A text that the configuration gives back: it names no variable. -/
def Restores (q : SettingsPlatform) (t : String) : Prop :=
  '\x00' ∉ t.toList ∧ q.config.expand t = t

/-- A code that it gives back. -/
def RestoresCode (q : SettingsPlatform) (b : List UInt8) : Prop :=
  ∃ t, q.Restores t ∧ b = q.toUTF8 t

variable {q : SettingsPlatform} {g k : String} {pC : q.config.State}

theorem readText_of_holds {t : String} (ht : q.Restores t)
    (h : q.config.Holds g k (.text t) pC) : q.config.readText g k pC = some t :=
  (h.text ht.1).trans (congrArg some ht.2)

/-- The text of a UUID. -/
theorem Documented.restores_uuid (hq : q.Documented) (gid : Guid) :
    q.Restores (q.uuids.toString gid) := by
  have hplain : ∀ c ∈ (q.uuids.toString gid).toList, c ≠ '\x00' ∧ c ≠ '%' ∧ c ≠ '$' := by
    intro c hc
    rcases hq.uuids.chars gid c hc with rfl | ⟨d, hd, rfl⟩
    · decide
    · clear hc
      revert d
      decide
  exact ⟨fun h => (hplain _ h).1 rfl,
    hq.config.expanded _ (fun h => (hplain _ h).2.1 rfl) fun h => (hplain _ h).2.2 rfl⟩

/-- A code is read as it was written. -/
theorem Documented.loadCode_of_holds (hq : q.Documented) {b b' : List UInt8}
    (hb : q.RestoresCode b) (h : q.config.Holds "" k (.text (q.fromUTF8 b)) pC) :
    Prefs.loadCode q k b' pC = b := by
  obtain ⟨t, ht, rfl⟩ := hb
  rw [hq.decoded t ht.1] at h
  rw [Prefs.loadCode, readText_of_holds ht h, Option.getD_some]

/-- What is entered in ASCII. -/
theorem Documented.restoresCode_toStdString (hq : q.Documented) {t : String}
    (hascii : isAscii t = true) (ht : q.Restores t) : q.RestoresCode (q.toStdString t) :=
  ⟨t, ht, hq.ascii t hascii ht.1⟩

theorem Documented.toStdString_ne_nil (hq : q.Documented) {t : String}
    (hascii : isAscii t = true) (ht : q.Restores t) (hne : t ≠ "") : q.toStdString t ≠ [] := by
  intro hnil
  rw [hq.ascii t hascii ht.1] at hnil
  have hdecoded := hq.decoded t ht.1
  rw [hnil, hq.empty] at hdecoded
  exact hne hdecoded.symm

end SettingsPlatform

/-- There is a country, the texts come back, and the numbers are those of their types. -/
structure Prefs.Good (q : SettingsPlatform) (p : Prefs) : Prop where
  cc : p.cc ≠ []
  uuid : p.uuidAB < 2 ^ 128
  cp : q.Restores p.cp
  codes : ∀ b ∈ [p.cc, p.ac, p.lac], q.RestoresCode b
  ints : ∀ n ∈ [p.selectedPage, p.localNrMaxLen, p.internalNrLen, p.extNrChangeMode,
    p.maxJournalAge, p.maxJournalCount], InInt n

section
variable {q : SettingsPlatform}

/-- **The preferences come back.** -/
theorem start_savePrefs (hq : q.Documented) {p : Prefs} (hp : p.Good q) (uuid : Guid)
    (pC : q.config.State) : Prefs.start q uuid (savePrefs q p pC) = p := by
  have hnames : ((p.values q).map fun e => q.config.fold e.1).Nodup := by
    show (["StartHidden", "SelectedPage", "Callprovider", "Addressbook", "CC", "AC",
      "AddACIfShortLen", "LocalNrMaxLen", "LAC", "ExtNrByLAC", "ExtNrBYLength", "IntNrLength",
      "ExtNrChangeModeOut", "DelJournalByAge", "DelJournalByCount", "MaxJournalAge",
      "MaxJournalCount"].map q.config.fold).Nodup
    exact hq.config.nodup_fold _ (by decide) (by decide)
  have hlength : q.config.fold "ExtNrByLength" = q.config.fold "ExtNrBYLength" := by
    rw [hq.config.folded _ (by decide), hq.config.folded _ (by decide)]
    decide
  have hheld := hq.config.holds_writeAll "" (p.values q) hnames pC
  rw [savePrefs]
  generalize q.config.writeAll "" (p.values q) pC = pC' at hheld
  simp only [Prefs.values, List.forall_mem_cons] at hheld
  obtain ⟨h1, h2, h3, h4, h5, h6, h7, h8, h9, h10, h11, h12, h13, h14, h15, h16, h17, -⟩ := hheld
  obtain ⟨hcc, hac, hlac⟩ : _ ∧ _ ∧ _ := by simpa using hp.codes
  obtain ⟨hpage, hlocal, hint, hmode, hage, hcount⟩ : _ ∧ _ ∧ _ ∧ _ ∧ _ ∧ _ := by
    simpa using hp.ints
  have hload : (Prefs.create uuid).load q pC' = p := by
    rw [Prefs.load, h1.bool, h2.long hpage, SettingsPlatform.readText_of_holds hp.cp h3,
      SettingsPlatform.readText_of_holds (hq.restores_uuid _) h4, hq.loadCode_of_holds hcc h5,
      hq.loadCode_of_holds hac h6, h7.bool, h8.long hlocal, hq.loadCode_of_holds hlac h9,
      h10.bool, (h11.spelled hlength).bool, h12.long hint, h13.long hmode, h14.bool, h15.bool,
      h16.long hage, h17.long hcount]
    simp only [Option.getD_some, hq.uuids.fromString_toString hp.uuid]
  rw [Prefs.start, hload]
  exact if_neg hp.cc

/-- **The place of the window comes back.** -/
theorem readFrameSize_write (hq : q.Documented) {rect : Rect}
    (hr : ∀ n ∈ [rect.x, rect.y, rect.width, rect.height], InInt n) (pC : q.config.State) :
    readFrameSize q (writeFrameSize q rect pC) = some rect := by
  have hheld := hq.config.holds_writeAll "Window" [("PosX", .long rect.x),
    ("PosY", .long rect.y), ("Width", .long rect.width), ("Height", .long rect.height)]
    (hq.config.nodup_fold ["PosX", "PosY", "Width", "Height"] (by decide) (by decide)) pC
  rw [readFrameSize, writeFrameSize]
  simp only [List.forall_mem_cons] at hheld hr
  obtain ⟨hx, hy, hwidth, hheight, -⟩ := hheld
  simp only [hx.long hr.1, hy.long hr.2.1, hwidth.long hr.2.2.1, hheight.long hr.2.2.2.1,
    Option.bind_eq_bind, Option.bind_some, Option.pure_def]

/-- **The address of the box comes back.** -/
theorem readFritz_save (hq : q.Documented) {strFritzAddr : String} (h : q.Restores strFritzAddr)
    (pC : q.config.State) :
    CpfPrefs.readPrefs q (CpfPrefs.savePrefs q strFritzAddr pC) = strFritzAddr := by
  have hheld := hq.config.holds_writeAll "Fritz" [("Address", .text strFritzAddr)]
    (List.nodup_singleton _) pC
  rw [CpfPrefs.readPrefs, CpfPrefs.savePrefs,
    SettingsPlatform.readText_of_holds h (hheld _ (.head _)), Option.getD_some]

theorem inInt_toInt (n : Int) : InInt (toInt n) := by
  have hle := Int.le_bmod (x := n) (m := 4294967296) (by decide)
  have hlt := Int.bmod_lt (x := n) (m := 4294967296) (by decide)
  rw [InInt, toInt]
  omega

/-- A value of an `unsigned` that is written as a `long`. -/
theorem toUnsigned_toInt {n : Nat} (hn : n < 4294967296) : toUnsigned (toInt n) = n := by
  have hmod : toInt n % 4294967296 = (n : Int) % 4294967296 := Int.bmod_emod
  rw [toUnsigned, hmod]
  omega

/-- Digits are compared as they are. -/
theorem fold_zeroPad (hq : q.Documented) (w n : Nat) :
    q.config.fold (zeroPad w n) = zeroPad w n := by
  have hdigit : ∀ c ∈ (zeroPad w n).toList, 48 ≤ c.val ∧ c.val ≤ 57 := fun c hc => by
    have hc := isDigit_of_mem_zeroPad hc
    rwa [Char.isDigit, Bool.and_eq_true, decide_eq_true_eq, decide_eq_true_eq] at hc
  have hascii : isAscii (zeroPad w n) = true := List.all_eq_true.mpr fun c hc =>
    decide_eq_true (UInt32.lt_of_le_of_lt (hdigit c hc).2 (by decide))
  have hlower : ∀ c ∈ (zeroPad w n).toList, c.toLower = c := by
    intro c hc
    refine dif_neg ?_
    rintro ⟨hupper, -⟩
    exact absurd (UInt32.le_trans hupper (hdigit c hc).2) (by decide)
  rw [hq.config.folded _ hascii, lower, List.map_congr_left hlower, List.map_id',
    String.ofList_toList]

/-- The names of the lines. -/
theorem nodup_lines (hq : q.Documented) (lines : List Nat) :
    ((CptPrefs.values lines).map fun e => q.config.fold e.1).Nodup := by
  have hidx : (lines.zipIdx.map Prod.snd).Nodup := by
    rw [List.zipIdx_map_snd]
    exact List.nodup_range'
  have hsame : ((fun e : String × ConfigValue => q.config.fold e.1) ∘ fun l : Nat × Nat =>
      (zeroPad 2 l.2, ConfigValue.long (toInt l.1))) = zeroPad 2 ∘ Prod.snd :=
    funext fun l => fold_zeroPad hq 2 l.2
  rw [CptPrefs.values, List.map_map, hsame, ← List.map_map]
  exact hidx.map (zeroPad_injective 2)

/-- **The selected lines come back,** in their order. -/
theorem readLines_save (hq : q.Documented) {lines : List Nat} (h : ∀ l ∈ lines, l < 4294967296)
    (pC : q.config.State) : CptPrefs.readLines q (CptPrefs.saveLines q lines pC) = lines := by
  have hheld := hq.config.holds_writeAll "Tapi/Lines" (CptPrefs.values lines)
    (nodup_lines hq lines) (q.config.deleteGroup "Tapi/Lines" pC)
  have hlen : (q.config.entries "Tapi/Lines" (CptPrefs.saveLines q lines pC)).length =
      lines.length := by
    rw [CptPrefs.saveLines, hq.config.length_entries_writeAll (nodup_lines hq lines),
      CptPrefs.values, List.length_map, List.length_zipIdx]
  rw [CptPrefs.readLines, hlen, CptPrefs.saveLines]
  generalize q.config.writeAll "Tapi/Lines" (CptPrefs.values lines) _ = pC' at hheld
  have hread : (List.range lines.length).map (fun i => (q.config.readLong "Tapi/Lines"
      (zeroPad 2 i) pC').map toUnsigned) = lines.map some := by
    refine List.ext_getElem? fun i => ?_
    rw [List.getElem?_map, List.getElem?_map]
    rcases Nat.lt_or_ge i lines.length with hlt | hge
    · have hline : lines[i]? = some lines[i] := List.getElem?_eq_getElem hlt
      have hkey := hheld (zeroPad 2 i, .long (toInt lines[i]))
        (List.mem_map.mpr ⟨(lines[i], i), List.mem_zipIdx_iff_getElem?.mpr hline, rfl⟩)
      rw [List.getElem?_range hlt, hline, Option.map_some, Option.map_some,
        hkey.long (inInt_toInt _), Option.map_some, toUnsigned_toInt (h _ (List.getElem_mem hlt))]
    · rw [List.getElem?_eq_none hge, List.getElem?_eq_none (by rwa [List.length_range])]
      rfl
  have hfilter : ∀ (f : Nat → Option Nat) (l : List Nat), l.filterMap f = (l.map f).filterMap id :=
    fun f l => by rw [List.filterMap_map]; rfl
  rw [hfilter, hread, List.filterMap_map]
  exact List.filterMap_some

/-- **The access to the server comes back.** -/
theorem readPsql_save (hq : q.Documented) {p : PSqlPrefs} (hport : p.port < 4294967296)
    (htexts : ∀ t ∈ [p.host, p.database, p.user, p.password], q.Restores t)
    (pC : q.config.State) : PSqlPrefs.readPrefs q (PSqlPrefs.savePrefs q p pC) = p := by
  have hheld := hq.config.holds_writeAll "Addressbooks/PostgreSQL"
    [("Host", .text p.host), ("Port", .long (toInt p.port)),
      ("Database", .text p.database), ("UseOSUser", .bool p.useOSUser), ("Username", .text p.user),
      ("Password", .text p.password)]
    (hq.config.nodup_fold ["Host", "Port", "Database", "UseOSUser", "Username", "Password"]
      (by decide) (by decide)) pC
  simp only [List.forall_mem_cons] at hheld htexts
  obtain ⟨h1, h2, h3, h4, h5, h6, -⟩ := hheld
  rw [PSqlPrefs.readPrefs, PSqlPrefs.savePrefs]
  simp only [SettingsPlatform.readText_of_holds htexts.1 h1, h2.long (inInt_toInt _),
    SettingsPlatform.readText_of_holds htexts.2.1 h3, h4.bool,
    SettingsPlatform.readText_of_holds htexts.2.2.1 h5,
    SettingsPlatform.readText_of_holds htexts.2.2.2.1 h6, Option.map_some, toUnsigned_toInt hport,
    Option.getD_some]

end

/-! ### The parts -/

/-- The parts of the configuration. -/
inductive SettingsPart where
  | general | window | fritz | tapi | psql
  deriving DecidableEq, Repr

namespace SettingsPart

def path : SettingsPart → String
  | .general => ""
  | .window => "Window"
  | .fritz => "Fritz"
  | .tapi => "Tapi/Lines"
  | .psql => "Addressbooks/PostgreSQL"

/-- What is kept in a part. -/
abbrev Data : SettingsPart → Type
  | .general => Prefs
  | .window => Option Rect
  | .fritz => String
  | .tapi => List Nat
  | .psql => PSqlPrefs

variable (q : SettingsPlatform)

/-- Texts that come back, and numbers of their types. -/
def Good : ∀ i : SettingsPart, i.Data → Prop
  | .general, p => p.Good q
  | .window, rect => ∃ r, rect = some r ∧ ∀ n ∈ [r.x, r.y, r.width, r.height], InInt n
  | .fritz, strFritzAddr => q.Restores strFritzAddr
  | .tapi, lines => ∀ l ∈ lines, l < 4294967296
  | .psql, p => p.port < 4294967296 ∧ ∀ t ∈ [p.host, p.database, p.user, p.password], q.Restores t

/-- A part is written. -/
def save : ∀ i : SettingsPart, i.Data → q.config.State → q.config.State
  | .general, p, pC => savePrefs q p pC
  | .window, rect, pC => rect.elim pC fun r => writeFrameSize q r pC
  | .fritz, strFritzAddr, pC => CpfPrefs.savePrefs q strFritzAddr pC
  | .tapi, lines, pC => CptPrefs.saveLines q lines pC
  | .psql, p, pC => PSqlPrefs.savePrefs q p pC

/-- What a start reads of a part. -/
def load (uuid : Guid) : ∀ i : SettingsPart, q.config.State → i.Data
  | .general, pC => .start q uuid pC
  | .window, pC => readFrameSize q pC
  | .fritz, pC => CpfPrefs.readPrefs q pC
  | .tapi, pC => CptPrefs.readLines q pC
  | .psql, pC => PSqlPrefs.readPrefs q pC

end SettingsPart

/-- The parts of the configuration, as they are written and as a start reads them. -/
def sections (q : SettingsPlatform) (uuid : Guid) :
    Sections SettingsPart q.config.State SettingsPart.Data where
  save := SettingsPart.save q
  load := SettingsPart.load q uuid

section
variable {q : SettingsPlatform}

/-- The groups are different, and none is below another's. -/
theorem fold_path (hq : q.Documented) (i : SettingsPart) : q.config.fold i.path = lower i.path :=
  hq.config.folded _ (by cases i <;> decide)

theorem fold_path_ne (hq : q.Documented) {i j : SettingsPart} (h : j ≠ i) :
    q.config.fold j.path ≠ q.config.fold i.path := by
  rw [fold_path hq, fold_path hq]
  revert h
  cases i <;> cases j <;> decide

/-- A save keeps to its group. -/
theorem save_apart (hq : q.Documented) (i j : SettingsPart) (v : i.Data) (pC : q.config.State)
    (h : j ≠ i) : q.config.SameGroup j.path (i.save q v pC) pC := by
  have hpath := fold_path_ne hq h
  cases i with
  | general => exact hq.config.sameGroup_writeAll _ hpath pC
  | window =>
      cases v with
      | none => exact .rfl
      | some r => exact hq.config.sameGroup_writeAll _ hpath pC
  | fritz => exact hq.config.sameGroup_writeAll _ hpath pC
  | tapi =>
      refine (hq.config.sameGroup_writeAll _ hpath _).trans (hq.config.apart _ _ _ hpath ?_)
      have hlines : q.config.fold "Tapi/Lines" = lower "Tapi/Lines" := fold_path hq .tapi
      rw [fold_path hq, hlines]
      revert h
      cases j <;> decide
  | psql => exact hq.config.sameGroup_writeAll _ hpath pC

/-- A start reads each part in its group. -/
theorem load_congr (uuid : Guid) (j : SettingsPart) {pC pC' : q.config.State}
    (h : q.config.SameGroup j.path pC pC') : j.load q uuid pC = j.load q uuid pC' := by
  obtain ⟨hsame, hlen⟩ := h
  have hlong := fun k => (hsame k).1
  have hbool := fun k => (hsame k).2.1
  have htext := fun k => (hsame k).2.2
  cases j with
  | general =>
      simp only [SettingsPart.path] at hlong hbool htext
      have hload : (Prefs.create uuid).load q pC = (Prefs.create uuid).load q pC' := by
        simp only [Prefs.load, Prefs.loadCode, hlong, hbool, htext]
      rw [SettingsPart.load, SettingsPart.load, Prefs.start, Prefs.start, hload]
  | window =>
      simp only [SettingsPart.path] at hlong
      simp only [SettingsPart.load, readFrameSize, hlong]
  | fritz =>
      simp only [SettingsPart.path] at htext
      simp only [SettingsPart.load, CpfPrefs.readPrefs, htext]
  | tapi =>
      simp only [SettingsPart.path] at hlong hlen
      simp only [SettingsPart.load, CptPrefs.readLines, hlong, hlen]
  | psql =>
      simp only [SettingsPart.path] at hlong hbool htext
      simp only [SettingsPart.load, PSqlPrefs.readPrefs, hlong, hbool, htext]

/-- Good settings come back. -/
theorem load_save (hq : q.Documented) (uuid : Guid) (i : SettingsPart) (v : i.Data)
    (pC : q.config.State) (hv : i.Good q v) : i.load q uuid (i.save q v pC) = v := by
  cases i with
  | general =>
      rw [SettingsPart.load, SettingsPart.save]
      exact start_savePrefs hq hv uuid pC
  | window =>
      obtain ⟨r, rfl, hr⟩ := hv
      rw [SettingsPart.load, SettingsPart.save]
      exact readFrameSize_write hq hr pC
  | fritz =>
      rw [SettingsPart.load, SettingsPart.save]
      exact readFritz_save hq hv pC
  | tapi =>
      rw [SettingsPart.load, SettingsPart.save]
      exact readLines_save hq hv pC
  | psql =>
      rw [SettingsPart.load, SettingsPart.save]
      exact readPsql_save hq hv.1 hv.2 pC

/-- **The parts of the configuration are sections of it.** -/
theorem sections_lawful (hq : q.Documented) (uuid : Guid) :
    (sections q uuid).Lawful (SettingsPart.Good q) where
  restored i v pC hv := load_save hq uuid i v pC hv
  apart i j v pC h := load_congr uuid j (save_apart hq i j v pC h)

end

/-! ### The runs -/

namespace Settings
variable {q : SettingsPlatform}

/-- The parts that a step writes. -/
def ops (s : Settings q) : SettingsStep → List (Σ i : SettingsPart, i.Data)
  | .doChange d =>
      if !s.prefs.same (s.prefs.toPrefs q d) then [⟨.general, s.prefs.toPrefs q d⟩] else []
  | .savePrefs => [⟨.general, s.prefs⟩]
  | .closeWindow rect _ => [⟨.window, some rect⟩]
  | .changeFritz strFritzAddr =>
      if s.fritzAddr ≠ strFritzAddr then [⟨.fritz, strFritzAddr⟩] else []
  | .changeLines vSelectedLines =>
      if s.selectedLines ≠ vSelectedLines then [⟨.tapi, vSelectedLines⟩] else []
  | .changePsql p => if s.psqlPrefs ≠ p then [⟨.psql, p⟩] else []
  | _ => []

/-- A part of the record is replaced. -/
def put (b : ∀ i : SettingsPart, i.Data) (e : Σ i : SettingsPart, i.Data) :
    ∀ i : SettingsPart, i.Data := Function.update b e.1 e.2

/-- What is entered is good: there is a country, the codes are ASCII, no text names a variable, and
the numbers are those of their types. -/
def Fits (q : SettingsPlatform) : SettingsStep → Prop
  | .doChange d =>
      d.strCC ≠ "" ∧ (∀ t ∈ [d.strCC, d.strAC, d.strLAC], isAscii t = true ∧ q.Restores t) ∧
        ∀ n ∈ [d.localNrMaxLen, d.intNrLen, d.nrChangeMode, d.maxJournalAge, d.maxJournalCount],
          InInt n
  | .setSelectedPage p => InInt p
  | .setSelectedABook gid => gid < 2 ^ 128
  | .restart uuid => uuid < 2 ^ 128
  | .setDefaultCallProvider val => q.Restores val
  | .closeWindow rect _ => SettingsPart.Good q .window (some rect)
  | .changeFritz strFritzAddr => SettingsPart.Good q .fritz strFritzAddr
  | .changeLines vSelectedLines => SettingsPart.Good q .tapi vSelectedLines
  | .changePsql p => SettingsPart.Good q .psql p
  | _ => True

/-- The pages show what those of a start that has loaded `b` show. -/
structure Kept (s : Settings q) (b : ∀ i : SettingsPart, i.Data) : Prop where
  page : (b .general).fromPrefs q = s.prefs.fromPrefs q
  fritz : b .fritz = s.fritzAddr
  lines : b .tapi = s.selectedLines
  psql : b .psql = s.psqlPrefs

/-- The invariant: the preferences are good, in memory and in the configuration. -/
structure Inv (s : Settings q) : Prop where
  prefs : s.prefs.Good q
  stored : ∀ uuid < 2 ^ 128, (Prefs.start q uuid s.config).Good q
  kept : ∀ uuid, s.Kept ((sections q uuid).loads s.config)

variable {s : Settings q}

/-- The UUID of a start is that of no page. -/
theorem fromPrefs_start (uuid uuid' : Guid) (pC : q.config.State) :
    (Prefs.start q uuid pC).fromPrefs q = (Prefs.start q uuid' pC).fromPrefs q := by
  have hcc : ((Prefs.create uuid).load q pC).cc = ((Prefs.create uuid').load q pC).cc := rfl
  rw [Prefs.start, Prefs.start]
  by_cases h : ((Prefs.create uuid).load q pC).cc = []
  · rw [if_pos h, if_pos (hcc.symm.trans h)]
    rfl
  · rw [if_neg h, if_neg (mt hcc.trans h)]
    rfl

/-- The operator tells of all that the page shows. -/
theorem fromPrefs_of_same {p r : Prefs} (h : p.same r = true) : p.fromPrefs q = r.fromPrefs q := by
  simp only [Prefs.same, Bool.and_eq_true, beq_iff_eq] at h
  simp only [Prefs.fromPrefs, h]

theorem Inv.start {uuid : Guid} (huuid : uuid < 2 ^ 128) {pC : q.config.State}
    (hpC : ∀ uuid < 2 ^ 128, (Prefs.start q uuid pC).Good q) : (start uuid pC).Inv where
  prefs := hpC uuid huuid
  stored := hpC
  kept uuid' := ⟨fromPrefs_start uuid' uuid pC, rfl, rfl, rfl⟩

/-- Good preferences with another page, address book or call provider, or hidden start. -/
theorem good_of {p r : Prefs} (hp : p.Good q) (hcc : r.cc = p.cc) (hac : r.ac = p.ac)
    (hlac : r.lac = p.lac) (huuid : r.uuidAB < 2 ^ 128) (hcp : q.Restores r.cp)
    (hpage : InInt r.selectedPage)
    (hints : [r.localNrMaxLen, r.internalNrLen, r.extNrChangeMode, r.maxJournalAge,
      r.maxJournalCount] = [p.localNrMaxLen, p.internalNrLen, p.extNrChangeMode, p.maxJournalAge,
      p.maxJournalCount]) : r.Good q where
  cc := hcc ▸ hp.cc
  uuid := huuid
  cp := hcp
  codes := by
    rw [hcc, hac, hlac]
    exact hp.codes
  ints := by
    rw [hints]
    exact List.forall_mem_cons.mpr ⟨hpage, (List.forall_mem_cons.mp hp.ints).2⟩

/-- What is entered on the page is good. -/
theorem good_toPrefs (hq : q.Documented) {p : Prefs} (hp : p.Good q) {d : PrefsPage}
    (ha : Fits q (.doChange d)) : (p.toPrefs q d).Good q := by
  obtain ⟨hne, hcodes, hints⟩ := ha
  refine ⟨?_, hp.uuid, hp.cp, ?_, List.forall_mem_cons.mpr ⟨hp.ints _ (.head _), hints⟩⟩
  · obtain ⟨hascii, ht⟩ := hcodes d.strCC (.head _)
    exact hq.toStdString_ne_nil hascii ht hne
  · refine List.forall_mem_map (l := [d.strCC, d.strAC, d.strLAC]) (f := q.toStdString) |>.mpr ?_
    exact fun t ht => hq.restoresCode_toStdString (hcodes t ht).1 (hcodes t ht).2

/-- What is written is what a start loads. -/
theorem loads_save (hq : q.Documented) (uuid : Guid) {i : SettingsPart} {v : i.Data}
    (hv : i.Good q v) (pC : q.config.State) : (sections q uuid).loads (i.save q v pC) =
      run put ((sections q uuid).loads pC) [⟨i, v⟩] :=
  (sections_lawful hq uuid).loads_save hv pC

/-! ### One step -/

/-- A step keeps the invariant, and writes the parts that `ops` says. -/
def Simulates (s : Settings q) (a : SettingsStep) : Prop :=
  (s.step a).Inv ∧ ∀ uuid, (sections q uuid).loads (s.step a).config =
    run put ((sections q uuid).loads s.config) (s.ops a)

/-- The preferences are saved. -/
theorem Inv.savePrefs (h : s.Inv) (hq : q.Documented) {p : Prefs} (hp : p.Good q) :
    ({ s with prefs := p, config := Cmon.savePrefs q p s.config } : Settings q).Inv where
  prefs := hp
  stored uuid huuid := by
    show (Prefs.start q uuid (Cmon.savePrefs q p s.config)).Good q
    rw [start_savePrefs hq hp]
    exact hp
  kept uuid := by
    have hloads := loads_save (i := .general) hq uuid hp s.config
    show Kept _ ((sections q uuid).loads (SettingsPart.save q .general p s.config))
    rw [hloads]
    exact ⟨rfl, (h.kept uuid).fritz, (h.kept uuid).lines, (h.kept uuid).psql⟩

/-- Preferences of which the page shows the same. -/
theorem Inv.unsaved (h : s.Inv) {p : Prefs} (hp : p.Good q)
    (hsame : s.prefs.fromPrefs q = p.fromPrefs q) : ({ s with prefs := p } : Settings q).Inv where
  prefs := hp
  stored := h.stored
  kept uuid :=
    ⟨(h.kept uuid).page.trans hsame, (h.kept uuid).fritz, (h.kept uuid).lines, (h.kept uuid).psql⟩

/-- A part of a plug-in, or the place of the window, is saved. -/
theorem Inv.savePart (h : s.Inv) (hq : q.Documented) {i : SettingsPart} {v : i.Data}
    (hi : i ≠ .general) (hv : i.Good q v) {s' : Settings q} (hprefs : s'.prefs = s.prefs)
    (hconfig : s'.config = i.save q v s.config)
    (hmem : ∀ uuid, s'.fritzAddr = put ((sections q uuid).loads s.config) ⟨i, v⟩ .fritz ∧
      s'.selectedLines = put ((sections q uuid).loads s.config) ⟨i, v⟩ .tapi ∧
      s'.psqlPrefs = put ((sections q uuid).loads s.config) ⟨i, v⟩ .psql) : s'.Inv where
  prefs := hprefs ▸ h.prefs
  stored uuid huuid := by
    have hgeneral : Prefs.start q uuid s'.config = Prefs.start q uuid s.config := by
      rw [hconfig]
      exact load_congr uuid .general (save_apart hq i .general v s.config hi.symm)
    rw [hgeneral]
    exact h.stored uuid huuid
  kept uuid := by
    obtain ⟨hfritz, hlines, hpsql⟩ := hmem uuid
    have hgeneral : put ((sections q uuid).loads s.config) ⟨i, v⟩ .general =
        (sections q uuid).loads s.config .general := Function.update_of_ne hi.symm _ _
    rw [hconfig, loads_save hq uuid hv]
    refine ⟨?_, hfritz.symm, hlines.symm, hpsql.symm⟩
    rw [hprefs, ← (h.kept uuid).page]
    exact congrArg _ hgeneral

/-- What the program sets by itself. -/
theorem simulates_unsaved (h : s.Inv) {a : SettingsStep} {p : Prefs} (hp : p.Good q)
    (hsame : s.prefs.fromPrefs q = p.fromPrefs q) (hstep : s.step a = { s with prefs := p })
    (hops : s.ops a = []) : Simulates s a := by
  rw [Simulates, hstep, hops]
  exact ⟨h.unsaved hp hsame, fun _ => rfl⟩

/-- The page of the preferences. -/
theorem simulates_doChange (hq : q.Documented) (h : s.Inv) {d : PrefsPage}
    (ha : Fits q (.doChange d)) : Simulates s (.doChange d) := by
  have hgood := good_toPrefs hq h.prefs ha
  cases hsame : s.prefs.same (s.prefs.toPrefs q d) with
  | true =>
      refine simulates_unsaved h hgood (fromPrefs_of_same hsame) ?_ ?_
      · simp only [step, hsame, Bool.not_true, Bool.false_eq_true, if_false]
      · simp only [ops, hsame, Bool.not_true, Bool.false_eq_true, if_false]
  | false =>
      rw [Simulates]
      simp only [step, ops, hsame, Bool.not_false, if_true]
      exact ⟨h.savePrefs hq hgood, fun uuid => loads_save (i := .general) hq uuid hgood _⟩

theorem simulates_closeWindow (hq : q.Documented) (h : s.Inv) {rect : Rect} {hides : Bool}
    (ha : Fits q (.closeWindow rect hides)) : Simulates s (.closeWindow rect hides) := by
  have hgood : ({ s.prefs with startHidden := true } : Prefs).Good q :=
    good_of h.prefs rfl rfl rfl h.prefs.uuid h.prefs.cp (h.prefs.ints _ (.head _)) rfl
  have hprefs : ({ s with
      prefs := if hides then { s.prefs with startHidden := true } else s.prefs } :
        Settings q).Inv := by
    cases hides with
    | true => exact h.unsaved hgood rfl
    | false => exact h
  refine ⟨hprefs.savePart (i := .window) (v := some rect) hq (by decide) ha rfl rfl
    fun uuid => ?_, fun uuid => loads_save (i := .window) hq uuid ha _⟩
  exact ⟨(h.kept uuid).fritz.symm, (h.kept uuid).lines.symm, (h.kept uuid).psql.symm⟩

theorem simulates_changeFritz (hq : q.Documented) (h : s.Inv) {strFritzAddr : String}
    (ha : Fits q (.changeFritz strFritzAddr)) : Simulates s (.changeFritz strFritzAddr) := by
  rw [Simulates]
  by_cases hne : s.fritzAddr ≠ strFritzAddr
  · simp only [step, ops, if_pos hne]
    refine ⟨h.savePart (i := .fritz) (v := strFritzAddr) hq (by decide) ha rfl rfl
      fun uuid => ?_, fun uuid => loads_save (i := .fritz) hq uuid ha _⟩
    exact ⟨rfl, (h.kept uuid).lines.symm, (h.kept uuid).psql.symm⟩
  · obtain rfl := not_not.mp hne
    simp only [step, ops, if_neg hne]
    exact ⟨h, fun _ => rfl⟩

theorem simulates_changeLines (hq : q.Documented) (h : s.Inv) {vSelectedLines : List Nat}
    (ha : Fits q (.changeLines vSelectedLines)) : Simulates s (.changeLines vSelectedLines) := by
  rw [Simulates]
  by_cases hne : s.selectedLines ≠ vSelectedLines
  · simp only [step, ops, if_pos hne]
    refine ⟨h.savePart (i := .tapi) (v := vSelectedLines) hq (by decide) ha rfl rfl
      fun uuid => ?_, fun uuid => loads_save (i := .tapi) hq uuid ha _⟩
    exact ⟨(h.kept uuid).fritz.symm, rfl, (h.kept uuid).psql.symm⟩
  · obtain rfl := not_not.mp hne
    simp only [step, ops, if_neg hne]
    exact ⟨h, fun _ => rfl⟩

theorem simulates_changePsql (hq : q.Documented) (h : s.Inv) {p : PSqlPrefs}
    (ha : Fits q (.changePsql p)) : Simulates s (.changePsql p) := by
  rw [Simulates]
  by_cases hne : s.psqlPrefs ≠ p
  · simp only [step, ops, if_pos hne]
    refine ⟨h.savePart (i := .psql) (v := p) hq (by decide) ha rfl rfl
      fun uuid => ?_, fun uuid => loads_save (i := .psql) hq uuid ha _⟩
    exact ⟨(h.kept uuid).fritz.symm, (h.kept uuid).lines.symm, rfl⟩
  · obtain rfl := not_not.mp hne
    simp only [step, ops, if_neg hne]
    exact ⟨h, fun _ => rfl⟩

/-- **Every step.** -/
theorem step_sim (hq : q.Documented) (h : s.Inv) {a : SettingsStep} (ha : Fits q a) :
    Simulates s a := by
  have huuid := h.prefs.uuid
  have hcp := h.prefs.cp
  have hpage := h.prefs.ints _ (.head _)
  cases a with
  | doChange d => exact simulates_doChange hq h ha
  | setSelectedPage p =>
      exact simulates_unsaved h (p := { s.prefs with selectedPage := p })
        (good_of h.prefs rfl rfl rfl huuid hcp ha rfl) rfl rfl rfl
  | setSelectedABook gid =>
      exact simulates_unsaved h (p := { s.prefs with uuidAB := gid })
        (good_of h.prefs rfl rfl rfl ha hcp hpage rfl) rfl rfl rfl
  | setDefaultCallProvider val =>
      exact simulates_unsaved h (p := { s.prefs with cp := val })
        (good_of h.prefs rfl rfl rfl huuid ha hpage rfl) rfl rfl rfl
  | enableHiddenStart val =>
      exact simulates_unsaved h (p := { s.prefs with startHidden := val })
        (good_of h.prefs rfl rfl rfl huuid hcp hpage rfl) rfl rfl rfl
  | savePrefs =>
      exact ⟨h.savePrefs hq h.prefs, fun uuid => loads_save (i := .general) hq uuid h.prefs _⟩
  | closeWindow rect hides => exact simulates_closeWindow hq h ha
  | changeFritz strFritzAddr => exact simulates_changeFritz hq h ha
  | changeLines vSelectedLines => exact simulates_changeLines hq h ha
  | changePsql p => exact simulates_changePsql hq h ha
  | restart uuid => exact ⟨.start ha h.stored, fun _ => rfl⟩

/-- **The configuration is a record of what was saved last.** -/
theorem refines (hq : q.Documented) (uuid : Guid) :
    Refines (step (q := q)) (fun _ a => Fits q a) Inv (fun s => (sections q uuid).loads s.config)
      ops put fun _ _ => True :=
  ⟨fun _ _ h ha => (step_sim hq h ha).1, fun _ _ _ _ => along_of_forall fun _ _ => trivial,
    fun _ _ h ha => (step_sim hq h ha).2 uuid⟩

/-- **After any run** of good settings, whether it has ended well or not: a start loads of each part
what was saved last, or else what was there before; and the pages of the preferences and of the
plug-ins show then what they showed. -/
theorem restored_run (hq : q.Documented) {pC : q.config.State}
    (hpC : ∀ uuid < 2 ^ 128, (Prefs.start q uuid pC).Good q) {uuid₀ : Guid}
    (huuid₀ : uuid₀ < 2 ^ 128) {as : List SettingsStep} (has : ∀ a ∈ as, Fits q a) (uuid : Guid) :
    let s := run step (start uuid₀ pC) as
    (sections q uuid).loads s.config =
        run put ((sections q uuid).loads pC) (trace step ops (start uuid₀ pC) as) ∧
      s.Kept ((sections q uuid).loads s.config) := by
  obtain ⟨hinv, -, hsim⟩ := (refines hq uuid).run (.start huuid₀ hpC) (along_of_forall has)
  exact ⟨hsim, hinv.kept uuid⟩

/-! ### A system in UTF-8 -/

/-- The bytes of a text, and the text of bytes. -/
def utf8Bytes (t : String) : List UInt8 := t.toUTF8.data.toList

def ofUtf8Bytes (b : List UInt8) : String := (String.fromUTF8? ⟨b.toArray⟩).getD ""

theorem ofUtf8Bytes_utf8Bytes (t : String) : ofUtf8Bytes (utf8Bytes t) = t := by
  have hbytes : (⟨(utf8Bytes t).toArray⟩ : ByteArray) = t.toUTF8 := by
    rw [utf8Bytes, Array.toArray_toList]
  have hvalid : t.toUTF8.IsValidUTF8 := t.isValidUTF8
  rw [ofUtf8Bytes, hbytes, String.fromUTF8?, dif_pos hvalid]
  rfl

/-- No variable is set. -/
def plainPlatform : SettingsPlatform where
  config := listConfig id
  uuids := hexUuids
  toStdString := utf8Bytes
  ofStdString := ofUtf8Bytes
  fromUTF8 := ofUtf8Bytes
  toUTF8 := utf8Bytes
  localeCC := "DE"

theorem plainPlatform_documented : plainPlatform.Documented where
  config := listConfig_documented fun _ _ _ => rfl
  uuids := hexUuids_documented
  decoded t _ := ofUtf8Bytes_utf8Bytes t
  empty := rfl
  ascii _ _ _ := rfl

/-- The configuration of a new installation. -/
def noEntries : plainPlatform.config.State := ([] : ConfigList)

/-- Its first start. -/
theorem start_noEntries {uuid : Guid} (huuid : uuid < 2 ^ 128) :
    Prefs.start plainPlatform uuid noEntries =
      { Prefs.create uuid with cc := utf8Bytes "DE" } := by
  have hlong : ∀ key, plainPlatform.config.readLong "" key noEntries = none :=
    fun _ => rfl
  have hbool : ∀ key, plainPlatform.config.readBool "" key noEntries = none :=
    fun _ => rfl
  have htext : ∀ key, plainPlatform.config.readText "" key noEntries = none :=
    fun _ => rfl
  have huuidAB := plainPlatform_documented.uuids.fromString_toString huuid
  have hload : (Prefs.create uuid).load plainPlatform noEntries = Prefs.create uuid := by
    simp only [Prefs.load, Prefs.loadCode, hlong, hbool, htext, Option.getD_none, Prefs.create,
      huuidAB]
    rfl
  rw [Prefs.start, hload]
  exact if_pos rfl

theorem good_first (uuid : Guid) (huuid : uuid < 2 ^ 128) :
    (Prefs.start plainPlatform uuid noEntries).Good plainPlatform := by
  rw [start_noEntries huuid]
  have hplain : ∀ t, '\x00' ∉ t.toList → plainPlatform.Restores t := fun _ ht => ⟨ht, rfl⟩
  have hDE : plainPlatform.RestoresCode (utf8Bytes "DE") := ⟨"DE", hplain _ (by decide), rfl⟩
  have hnone : plainPlatform.RestoresCode [] := ⟨"", hplain _ (by decide), rfl⟩
  have hne : utf8Bytes "DE" ≠ [] := by decide
  have hcp : '\x00' ∉ "".toList := by decide
  refine ⟨hne, huuid, hplain "" hcp, ?_, ?_⟩
  · show ∀ b ∈ [utf8Bytes "DE", [], []], plainPlatform.RestoresCode b
    simp [hDE, hnone]
  · show ∀ n ∈ [(3 : Int), 0, 0, 0, 365, 500], InInt n
    simp [InInt]

/-- Lines are selected, a page is shown and the area code entered, the window is hidden, and the
program starts again without having ended. -/
def linesSelected : List SettingsStep :=
  [.changeLines [4026531841, 7], .setSelectedPage 1,
    .doChange ⟨"DE", "30", false, 0, "", false, false, 0, 1, false, 365, false, 500⟩,
    .closeWindow ⟨-8, 0, 800, 600⟩ true, .restart 2]

theorem restored_run_lines :
    let s := run step (start 1 noEntries) linesSelected
    (sections plainPlatform 3).loads s.config =
        run put ((sections plainPlatform 3).loads noEntries)
          (trace step ops (start 1 noEntries) linesSelected) ∧
      s.Kept ((sections plainPlatform 3).loads s.config) := by
  have hplain : ∀ t, '\x00' ∉ t.toList → plainPlatform.Restores t := fun _ ht => ⟨ht, rfl⟩
  have hfits : ∀ a ∈ linesSelected, Fits plainPlatform a := by
    simp only [linesSelected, List.forall_mem_cons]
    refine ⟨?_, ?_, ⟨by decide, ?_, ?_⟩, ⟨_, rfl, ?_⟩, ?_, by simp⟩
    · simp [Fits, SettingsPart.Good]
    · simp [Fits, InInt]
    · simp only [List.forall_mem_cons]
      exact ⟨⟨by decide, hplain _ (by decide)⟩, ⟨by decide, hplain _ (by decide)⟩,
        ⟨by decide, hplain _ (by decide)⟩, by simp⟩
    · simp [InInt]
    · simp [InInt]
    · simp [Fits]
  exact restored_run plainPlatform_documented good_first (by decide) hfits 3

/-- The window is hidden in vain: that was not saved. -/
example :
    let s := run step (start 1 noEntries) linesSelected
    s.selectedLines = [4026531841, 7] ∧ s.prefs.ac = [51, 48] ∧ s.prefs.selectedPage = 1 ∧
      s.prefs.startHidden = false ∧
        readFrameSize plainPlatform s.config = some ⟨-8, 0, 800, 600⟩ := by
  decide +kernel

end Settings
end Cmon
