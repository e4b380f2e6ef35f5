import Cmon.Csv.Export
import Cmon.Resolver.Moves

/-!
# Resolver — files

`CRegExWebResolver::saveToFile` and `loadFromFile`, and the page that exports a resolver to a file
and imports one from it.  A file is its text; the text streams are those of wxWidgets
(`TextStreams`), of which `Documented` says what is relied on: a line that was written is read, and
a line that is read has no character that ends one.

* `readFields_saveToFile`: a file gives back what was saved if and only if the name, the address and
  the expression are `Storable`, each one line that is not empty.
* `storable_of_readFields`: what is read of a file without NUL is storable.
* `exported_run`: after any run, what the page exports every other installation imports.
* `TextInput` reads as the documentation says, and is what the examples are run with.
-/

namespace Cmon
open Library

/-! ### The source -/

/-- `wxTextInputStream`, over a file, and what `wxTextOutputStream` writes of a text with
`wxEOL_DOS`. -/
structure TextStreams where
  Input : Type
  create : List Char → Input
  canRead : Input → Bool
  readLine : Input → List Char × Input
  read32 : Input → Nat × Input
  writeString : List Char → List Char

/-- The characters that end a line, or the reading of it. -/
def lineEnds : List Char := ['\x00', wxEOT, '\n', '\r']

/-- What is documented of them; `rest` is what is left of the file. -/
structure TextStreams.Documented (ts : TextStreams) (rest : ts.Input → List Char) : Prop where
  created : ∀ file, rest (ts.create file) = file ∧ (file ≠ [] → ts.canRead (ts.create file) = true)
  /-- A line that was written is read, and the end of the file has not been met. -/
  line : ∀ t line more, (∀ c ∈ line, c ∉ lineEnds) → ts.canRead t = true →
    rest t = ts.writeString (line ++ ['\n']) ++ more →
      (ts.readLine t).1 = line ∧ rest (ts.readLine t).2 = more ∧
        ts.canRead (ts.readLine t).2 = true
  /-- The version is read as a number, with its line end. -/
  version : ∀ t more, ts.canRead t = true →
    rest t = ts.writeString "1".toList ++ (ts.writeString ['\n'] ++ more) →
      (ts.read32 t).1 = 1 ∧ rest (ts.read32 t).2 = more ∧ ts.canRead (ts.read32 t).2 = true
  /-- What is read as a line is in the file, and ends no line. -/
  chars : ∀ t, ∀ c ∈ (ts.readLine t).1, c ∈ rest t ∧ c ≠ wxEOT ∧ c ≠ '\n' ∧ c ≠ '\r'
  /-- The file is read from its beginning to its end. -/
  forward : ∀ t, rest (ts.readLine t).2 <:+ rest t ∧ rest (ts.read32 t).2 <:+ rest t
  /-- A carriage return is put before a line feed, and nothing else. -/
  written : ∀ str, ∀ c ∈ ts.writeString str, c ∈ str ∨ c = '\r'
  /-- No text is written as nothing. -/
  nonempty : ∀ str, str ≠ [] → ts.writeString str ≠ []

namespace Resolver

/-- `CRegExWebResolver`, the constructor. -/
def createRegEx : Resolver := ⟨.onlineRegex, false, true, 0, "", none, "", ""⟩

def setName (r : Resolver) (val : String) : Resolver :=
  { r with dirty := r.dirty || r.name != val, name := val }

def setURL (r : Resolver) (val : String) : Resolver :=
  { r with dirty := r.dirty || r.url != val, url := val }

/-- `setRegEx`; `isValid` says which texts `wxRegEx` compiles. -/
def setRegEx (isValid : String → Bool) (r : Resolver) (val : String) : Resolver :=
  { r with dirty := r.dirty || r.regEx != val, regEx := val, enabled := isValid val }

/-- `CRegExWebResolver::saveToFile`: the text of the file. -/
def saveToFile (ts : TextStreams) (r : Resolver) : List Char :=
  ts.writeString "REGEXRESOLVER\n".toList ++ (ts.writeString "1".toList ++
    (ts.writeString ['\n'] ++ (ts.writeString ((cString r.name).toList ++ ['\n']) ++
    (ts.writeString ((cString r.url).toList ++ ['\n']) ++
    ts.writeString ((cString r.regEx).toList ++ ['\n'])))))

end Resolver

/-- What `loadFromFile` reads of a file before it sets anything. -/
def readFields (ts : TextStreams) (file : List Char) : Option (String × String × String) := do
  let t := ts.create file
  guard (ts.canRead t)
  let (strLine, t) := ts.readLine t
  guard (strLine = "REGEXRESOLVER".toList)
  guard (ts.canRead t)
  let (ver, t) := ts.read32 t
  guard (ver = 1)
  guard (ts.canRead t)
  let (strName, t) := ts.readLine t
  guard (ts.canRead t)
  let (strURL, t) := ts.readLine t
  guard (ts.canRead t)
  let (strRegEx, _) := ts.readLine t
  guard (strName ≠ [] ∧ strURL ≠ [] ∧ strRegEx ≠ [])
  return (String.ofList strName, String.ofList strURL, String.ofList strRegEx)

namespace Resolver

/-- `CRegExWebResolver::loadFromFile`. -/
def loadFromFile (ts : TextStreams) (isValid : String → Bool) (r : Resolver) (file : List Char) :
    Bool × Resolver :=
  match readFields ts file with
  | none => (false, r)
  | some (strName, strURL, strRegEx) =>
      (isValid strRegEx, ((r.setName strName).setURL strURL).setRegEx isValid strRegEx)

end Resolver

/-- `CResolverPage::OnImport`, of the file that was selected. -/
def ResolverModel.onImport {p : ResolverPlatform} (ts : TextStreams) (isValid : String → Bool)
    (s : ResolverModel p) (file : List Char) : ResolverModel p :=
  match Resolver.createRegEx.loadFromFile ts isValid file with
  | (true, pR) => s.appendEntry pR
  | (false, _) => s

/-! ### Reading what was written -/

/-- One line, that is not empty. -/
def Storable (t : String) : Prop := t ≠ "" ∧ ∀ c ∈ t.toList, c ∉ lineEnds

instance (t : String) : Decidable (Storable t) :=
  decidable_of_iff (t ≠ "" ∧ t.toList.all (fun c => !lineEnds.contains c) = true) (by
    simp only [Storable, List.all_eq_true, Bool.not_eq_true', List.contains_eq_mem,
      decide_eq_false_iff_not])

theorem cString_of_storable {t : String} (h : Storable t) : cString t = t :=
  cString_of_noNul fun hc => h.2 _ hc (by decide)

section
variable {ts : TextStreams} {rest : ts.Input → List Char}

/-- **A resolver that is saved is read.** -/
theorem readFields_of_storable (hts : ts.Documented rest) {r : Resolver} (hname : Storable r.name)
    (hurl : Storable r.url) (hregEx : Storable r.regEx) :
    readFields ts (r.saveToFile ts) = some (r.name, r.url, r.regEx) := by
  have hne : ∀ {t : String}, Storable t → t.toList ≠ [] := fun h hnil =>
    h.1 (String.toList_eq_nil_iff.mp hnil)
  have hheader : Storable "REGEXRESOLVER" := by decide
  obtain ⟨hrest, hcan⟩ := hts.created (r.saveToFile ts)
  have hcan := hcan fun hnil => hts.nonempty "REGEXRESOLVER\n".toList (by decide)
    (List.append_eq_nil_iff.mp hnil).1
  rw [Resolver.saveToFile, cString_of_storable hname, cString_of_storable hurl,
    cString_of_storable hregEx] at hrest hcan ⊢
  -- one line after the other
  obtain ⟨h₁, hrest, hcan₁⟩ := hts.line _ "REGEXRESOLVER".toList _ hheader.2 hcan hrest
  obtain ⟨h₂, hrest, hcan₂⟩ := hts.version _ _ hcan₁ hrest
  obtain ⟨h₃, hrest, hcan₃⟩ := hts.line _ r.name.toList _ hname.2 hcan₂ hrest
  obtain ⟨h₄, hrest, hcan₄⟩ := hts.line _ r.url.toList _ hurl.2 hcan₃ hrest
  obtain ⟨h₅, -, -⟩ := hts.line _ r.regEx.toList [] hregEx.2 hcan₄
    (hrest.trans (List.append_nil _).symm)
  simp only [readFields, hcan, h₁, hcan₁, h₂, hcan₂, h₃, hcan₃, h₄, hcan₄, h₅,
    String.ofList_toList, ne_eq, hne hname, hne hurl, hne hregEx, not_false_eq_true, and_self,
    guard_true, Option.pure_def, Option.bind_eq_bind, Option.bind_some]

/-- What is read of a file without NUL is storable. -/
theorem storable_of_readFields (hts : ts.Documented rest) {file : List Char} (hnul : '\x00' ∉ file)
    {strName strURL strRegEx : String}
    (h : readFields ts file = some (strName, strURL, strRegEx)) :
    Storable strName ∧ Storable strURL ∧ Storable strRegEx := by
  have hline : ∀ t, rest t <:+ file → (ts.readLine t).1 ≠ [] →
      Storable (String.ofList (ts.readLine t).1) := by
    intro t ht hne
    refine ⟨fun e => hne (by simpa using congrArg String.toList e), fun c hc => ?_⟩
    rw [String.toList_ofList] at hc
    obtain ⟨hmem, heot, hlf, hcr⟩ := hts.chars t c hc
    have hfile : c ≠ '\x00' := fun e => hnul (e ▸ ht.subset hmem)
    simp [lineEnds, hfile, heot, hlf, hcr]
  simp only [readFields, Option.bind_eq_bind, Option.bind_eq_some_iff, Option.pure_def,
    Option.guard_eq_some', Option.some.injEq, Prod.mk.injEq] at h
  obtain ⟨-, -, -, -, -, -, -, -, -, -, -, -, -, -, -, ⟨hname, hurl, hregEx⟩, rfl, rfl, rfl⟩ := h
  have h₀ : rest (ts.create file) <:+ file := by simp only [(hts.created file).1, List.suffix_rfl]
  have h₁ := (hts.forward (ts.create file)).1.trans h₀
  have h₂ := (hts.forward _).2.trans h₁
  have h₃ := (hts.forward _).1.trans h₂
  have h₄ := (hts.forward _).1.trans h₃
  exact ⟨hline _ h₂ hname, hline _ h₃ hurl, hline _ h₄ hregEx⟩

/-- There is no NUL in a file that was saved. -/
theorem nul_notMem_saveToFile (hts : ts.Documented rest) (r : Resolver) :
    '\x00' ∉ r.saveToFile ts := by
  have hwrite : ∀ {t : List Char}, '\x00' ∉ t → '\x00' ∉ ts.writeString t := by
    intro t ht hmem
    rcases hts.written t _ hmem with hmem | hcr
    · exact ht hmem
    · exact absurd hcr (by decide)
  have hline : ∀ t : String, '\x00' ∉ ts.writeString ((cString t).toList ++ ['\n']) := by
    intro t
    refine hwrite fun hmem => ?_
    rcases List.mem_append.mp hmem with hmem | hmem
    · rw [toList_cString] at hmem
      exact absurd (List.mem_takeWhile_imp hmem) (by decide)
    · exact absurd hmem (by decide)
  simp only [Resolver.saveToFile, List.mem_append, not_or]
  exact ⟨hwrite (by decide), hwrite (by decide), hwrite (by decide), hline _, hline _, hline _⟩

/-- **When a file gives back what was saved.** -/
theorem readFields_saveToFile (hts : ts.Documented rest) (r : Resolver) :
    readFields ts (r.saveToFile ts) = some (r.name, r.url, r.regEx) ↔
      Storable r.name ∧ Storable r.url ∧ Storable r.regEx :=
  ⟨storable_of_readFields hts (nul_notMem_saveToFile hts r),
    fun ⟨hname, hurl, hregEx⟩ => readFields_of_storable hts hname hurl hregEx⟩

end

/-! ### The import -/

namespace Resolver
variable {ts : TextStreams} {rest : ts.Input → List Char} {isValid : String → Bool}

theorem loadFromFile_of_fields {file : List Char} {name url regEx : String}
    (h : readFields ts file = some (name, url, regEx)) (hvalid : isValid regEx = true) :
    createRegEx.loadFromFile ts isValid file = (true, .ofFile name url regEx) := by
  rw [loadFromFile, h]
  simp [createRegEx, setName, setURL, setRegEx, ofFile, hvalid]

/-- A resolver that was loaded has the fields of the file. -/
theorem loadFromFile_true {file : List Char} {r : Resolver}
    (h : createRegEx.loadFromFile ts isValid file = (true, r)) :
    ∃ name url regEx, readFields ts file = some (name, url, regEx) ∧ isValid regEx = true ∧
      r = .ofFile name url regEx := by
  cases hfields : readFields ts file with
  | none =>
      rw [loadFromFile, hfields] at h
      cases h
  | some fields =>
      obtain ⟨name, url, regEx⟩ := fields
      have hvalid : isValid regEx = true := by
        rw [loadFromFile, hfields] at h
        exact congrArg Prod.fst h
      refine ⟨name, url, regEx, rfl, hvalid, ?_⟩
      rw [loadFromFile_of_fields hfields hvalid] at h
      exact (congrArg Prod.snd h).symm

/-- **When a file gives back the resolver that was saved.** -/
theorem loadFromFile_saveToFile (hts : ts.Documented rest) (r : Resolver) :
    createRegEx.loadFromFile ts isValid (r.saveToFile ts) = (true, .ofFile r.name r.url r.regEx) ↔
      Storable r.name ∧ Storable r.url ∧ Storable r.regEx ∧ isValid r.regEx = true := by
  constructor
  · intro h
    obtain ⟨name, url, regEx, hfields, hvalid, hr⟩ := loadFromFile_true h
    obtain ⟨rfl, rfl, rfl⟩ : r.name = name ∧ r.url = url ∧ r.regEx = regEx := by
      simpa [ofFile] using hr
    obtain ⟨hname, hurl, hregEx⟩ := (readFields_saveToFile hts r).mp hfields
    exact ⟨hname, hurl, hregEx, hvalid⟩
  · rintro ⟨hname, hurl, hregEx, hvalid⟩
    exact loadFromFile_of_fields ((readFields_saveToFile hts r).mpr ⟨hname, hurl, hregEx⟩) hvalid

/-- What is loaded of a file without NUL is saved and loaded again. -/
theorem loadFromFile_again (hts : ts.Documented rest) {file : List Char} (hnul : '\x00' ∉ file)
    {r : Resolver} (h : createRegEx.loadFromFile ts isValid file = (true, r)) :
    createRegEx.loadFromFile ts isValid (r.saveToFile ts) = (true, r) := by
  obtain ⟨name, url, regEx, hfields, hvalid, rfl⟩ := loadFromFile_true h
  obtain ⟨hname, hurl, hregEx⟩ := storable_of_readFields hts hnul hfields
  exact (loadFromFile_saveToFile hts (.ofFile name url regEx)).mpr ⟨hname, hurl, hregEx, hvalid⟩

/-- **Files of resolvers**: a file gives back the resolver that was saved if and only if its texts
are storable and its expression is valid; and what is loaded of any file without NUL is saved and
loaded again. -/
theorem files_reload (hts : ts.Documented rest) (isValid : String → Bool) :
    (∀ r : Resolver,
      createRegEx.loadFromFile ts isValid (r.saveToFile ts) = (true, .ofFile r.name r.url r.regEx) ↔
        Storable r.name ∧ Storable r.url ∧ Storable r.regEx ∧ isValid r.regEx = true) ∧
      ∀ (file : List Char) (r : Resolver), '\x00' ∉ file →
        createRegEx.loadFromFile ts isValid file = (true, r) →
          createRegEx.loadFromFile ts isValid (r.saveToFile ts) = (true, r) :=
  ⟨loadFromFile_saveToFile hts, fun _ _ hnul h => loadFromFile_again hts hnul h⟩

end Resolver

namespace ResolverModel
variable {p p' : ResolverPlatform} {ts : TextStreams} {rest : ts.Input → List Char}
variable {isValid : String → Bool}

/-- A resolver of a regular expression whose texts are storable. -/
def Exportable (isValid : String → Bool) (r : Resolver) : Prop :=
  r.type = .onlineRegex →
    Storable r.name ∧ Storable r.url ∧ Storable r.regEx ∧ isValid r.regEx = true

/-- Its row. -/
def ExportableRow (isValid : String → Bool) (row : ResolverRow p) : Prop :=
  row.type = .onlineRegex → ∃ name url regEx,
    row.name = p.ofText name ∧ row.v1 = some url ∧ row.v2 = some regEx ∧
      Storable name ∧ Storable url ∧ Storable regEx ∧ isValid regEx = true

/-- What the page exports can be imported, now and after the next start. -/
structure Sound (isValid : String → Bool) (s : ResolverModel p) : Prop where
  resolvers : ∀ r ∈ s.resolvers, Exportable isValid r
  rows : ∀ row ∈ s.rows, ExportableRow isValid row

/-- A resolver that is appended comes from a file without NUL. -/
def FromFile (ts : TextStreams) (isValid : String → Bool) : Event p → Prop
  | .append name url regEx => ∃ file, '\x00' ∉ file ∧
      Resolver.createRegEx.loadFromFile ts isValid file = (true, .ofFile name url regEx)
  | _ => True

/-- A column keeps a text on one line. -/
def KeepsLines (p : ResolverPlatform) : Prop :=
  ∀ name, Storable name → Storable (p.toText (p.ofText name))

variable {s : ResolverModel p}

theorem onImport_saveToFile (hts : ts.Documented rest) {r : Resolver} (h : Exportable isValid r)
    (htype : r.type = .onlineRegex) : s.onImport ts isValid (r.saveToFile ts) =
      s.appendEntry (.ofFile r.name r.url r.regEx) := by
  rw [onImport, (Resolver.loadFromFile_saveToFile hts r).mpr (h htype)]

theorem exportableRow_written {r : Resolver} (h : Exportable isValid r) :
    ExportableRow isValid (written p r) := by
  intro htype
  rw [written] at htype ⊢
  cases hr : r.type with
  | addressbook =>
      rw [hr] at htype
      cases htype
  | onlineRegex =>
      obtain ⟨hname, hurl, hregEx, hvalid⟩ := h hr
      refine ⟨r.name, r.url, r.regEx, ?_, ?_, ?_, hname, hurl, hregEx, hvalid⟩
      · exact congrArg p.ofText (cString_of_storable hname)
      · exact congrArg some (cString_of_storable hurl)
      · exact congrArg some (cString_of_storable hregEx)

theorem exportableRow_overwritten {r : Resolver} (h : Exportable isValid r) {row : ResolverRow p}
    (hrow : row.name = cell p r) : ExportableRow isValid (overwritten p r row) := by
  intro htype
  rw [overwritten] at htype ⊢
  cases hr : r.type with
  | addressbook =>
      rw [hr] at htype
      cases htype
  | onlineRegex =>
      obtain ⟨hname, hurl, hregEx, hvalid⟩ := h hr
      refine ⟨r.name, r.url, r.regEx, ?_, ?_, ?_, hname, hurl, hregEx, hvalid⟩
      · exact hrow.trans (congrArg p.ofText (cString_of_storable hname))
      · exact congrArg some (cString_of_storable hurl)
      · exact congrArg some (cString_of_storable hregEx)

theorem exportableRow_saveAll {rows : List (ResolverRow p)} {l : List Resolver}
    (hrows : ∀ row ∈ rows, ExportableRow isValid row) (hl : ∀ r ∈ l, Exportable isValid r) :
    ∀ row ∈ saveAll rows l, ExportableRow isValid row := by
  induction l generalizing rows with
  | nil => exact hrows
  | cons r l ih =>
      obtain ⟨hr, hl⟩ := List.forall_mem_cons.mp hl
      rw [saveAll_cons]
      refine ih ?_ hl
      split_ifs
      · intro row hrow
        rw [saveEntry_eq_upsert] at hrow
        by_cases hname : row.name = (written p r).name
        · rcases Table.exists_of_mem_upsert hrow hname with rfl | ⟨row₀, -, hname₀, rfl⟩
          · exact exportableRow_written hr
          · exact exportableRow_overwritten hr (hname₀.trans (written_name r))
        · exact hrows row ((Table.mem_upsert_of_ne (overwritten_key r) hname).mp hrow)
      · exact hrows

theorem Sound.save (h : Sound isValid s) {l : List Resolver} (hl : ∀ r ∈ l, Exportable isValid r) :
    Sound isValid (saveEntries { s with resolvers := l }) where
  resolvers := List.forall_mem_map.mpr hl
  rows := exportableRow_saveAll h.rows hl

theorem exportable_renumber {l : List Resolver} (hl : ∀ r ∈ l, Exportable isValid r) :
    ∀ r ∈ renumber l, Exportable isValid r := by
  intro r hr
  obtain ⟨r₀, hr₀, pos, rfl⟩ := mem_renumber hr
  exact hl r₀ hr₀

theorem Sound.prepend (h : Sound isValid s) {r : Resolver} (hr : Exportable isValid r) :
    Sound isValid (s.prependEntry r) := by
  rw [prependEntry]
  split_ifs
  · exact h
  · exact h.save (exportable_renumber (List.forall_mem_cons.mpr ⟨hr, h.resolvers⟩))

theorem Sound.append (h : Sound isValid s) {r : Resolver} (hr : Exportable isValid r) :
    Sound isValid (s.appendEntry r) := by
  rw [appendEntry]
  split_ifs
  · exact h
  · exact h.save (List.forall_mem_append.mpr ⟨h.resolvers, List.forall_mem_singleton.mpr hr⟩)

theorem Sound.swapNext (h : Sound isValid s) (i : Nat) : Sound isValid (saveEntries
    { s with resolvers := ResolverModel.renumber (ResolverModel.swapNext i s.resolvers) }) :=
  h.save (exportable_renumber fun r hr => h.resolvers r ((swapNext_perm i _).mem_iff.mp hr))

theorem Sound.resync (h : Sound isValid s) : Sound isValid s.resync := by
  suffices hloop : ∀ (l : List (Guid × String)) (t : ResolverModel p), Sound isValid t →
      Sound isValid (l.foldl
        (fun s b => if s.hasEntry b.2 then s else s.prependEntry (.ofBook b)) t) from
    hloop s.books.entries s h
  intro l
  induction l with
  | nil => exact fun t ht => ht
  | cons b l ih =>
      intro t ht
      rw [List.foldl_cons]
      split_ifs
      · exact ih t ht
      · exact ih _ (ht.prepend fun htype => by cases htype)

/-- A start reads the rows. -/
theorem Sound.start (hp : KeepsLines p) (h : Sound isValid s) (books : Books)
    {order : List (ResolverRow p)} (ho : Allowed s.rows order) :
    Sound isValid (s.start books order) := by
  refine Sound.resync ⟨List.forall_mem_map.mpr fun row hrow htype => ?_, h.rows⟩
  cases hr : row.type with
  | addressbook =>
      rw [loadRow, hr] at htype
      cases htype
  | onlineRegex =>
      obtain ⟨name, url, regEx, hcell, hv1, hv2, hname, hurl, hregEx, hvalid⟩ :=
        h.rows row (ho.1.mem_iff.mp hrow) hr
      rw [loadRow, hr]
      simp only [hcell, hv1, hv2, Option.getD_some]
      exact ⟨hp name hname, hurl, hregEx, hvalid⟩

/-- **One event.** -/
theorem Sound.step (hts : ts.Documented rest) (hp : KeepsLines p) (h : Sound isValid s)
    {ev : Event p} (hev : FromFile ts isValid ev) : Sound isValid (s.step ev) := by
  cases ev with
  | start books order =>
      show Sound isValid (if Allowed s.rows order then s.start books order else s)
      split_ifs with ho
      · exact h.start hp books ho
      · exact h
  | append name url regEx =>
      obtain ⟨file, hnul, hload⟩ := hev
      have hagain := Resolver.loadFromFile_again hts hnul hload
      exact h.append fun _ =>
        (Resolver.loadFromFile_saveToFile hts (.ofFile name url regEx)).mp hagain
  | moveUp idx =>
      show Sound isValid (s.moveUp idx)
      rw [ResolverModel.moveUp]
      split_ifs
      · exact h.swapNext _
      · exact h
  | moveDown idx =>
      show Sound isValid (s.moveDown idx)
      rw [ResolverModel.moveDown]
      split_ifs
      · exact h.swapNext _
      · exact h
  | toggle idx =>
      show Sound isValid (s.toggle idx)
      rw [ResolverModel.toggle]
      split_ifs
      · refine h.save fun r hr => ?_
        rcases mem_modify hr with hr | ⟨r₀, -, hr₀, rfl⟩
        · exact h.resolvers r hr
        · exact h.resolvers r₀ hr₀
      · exact h
  | delete idx =>
      show Sound isValid (s.deleteEntry idx)
      rw [deleteEntry]
      split
      · exact h
      · exact ⟨fun r hr => h.resolvers r (List.mem_of_mem_eraseIdx hr),
          fun row hrow => h.rows row (List.mem_of_mem_filter hrow)⟩

/-- **After any run**, with resolvers from files only: a resolver of a regular expression that is
exported by the page is imported by every installation that has none of its name, as the last one
of its list. -/
theorem exported_run (hts : ts.Documented rest) (hp : KeepsLines p) (evs : List (Event p))
    (h : ∀ ev ∈ evs, FromFile ts isValid ev) {r : Resolver}
    (hr : r ∈ (run ResolverModel.step (fresh p) evs).resolvers) (htype : r.type = .onlineRegex)
    (s' : ResolverModel p') (hnew : s'.hasEntry r.name = false) :
    (s'.onImport ts isValid (r.saveToFile ts)).order =
      s'.order ++ [(Resolver.ofFile r.name r.url r.regEx).core] := by
  have hsound : Sound isValid (run ResolverModel.step (fresh p) evs) :=
    Along.inv (P := fun _ ev => FromFile ts isValid ev) (fun _ _ hs hev => hs.step hts hp hev)
      ⟨fun _ hr => (by cases hr), fun _ hrow => (by cases hrow)⟩ (along_of_forall h)
  have hentry : ¬ s'.hasEntry (Resolver.ofFile r.name r.url r.regEx).name = true :=
    fun h => Bool.false_ne_true (hnew.symm.trans h)
  rw [onImport_saveToFile hts (hsound.resolvers r hr) htype, appendEntry, if_neg hentry, order,
    order]
  simp only [saveEntries, List.map_map, List.map_append, List.map_singleton]
  rfl

end ResolverModel

/-! ### A text stream -/

/-- A `wxTextInputStream`: what is left of the file, and whether its end was met. -/
structure TextInput where
  rest : List Char
  eof : Bool
  deriving DecidableEq, Repr

namespace TextInput

/-- A file that is opened. -/
def create (file : List Char) : TextInput := ⟨file, false⟩

/-- `CanRead`. -/
def canRead (t : TextInput) : Bool := !t.eof

/-- `EatEOL`, behind a line feed or a carriage return. -/
def eatEOL (c : Char) (rest : List Char) : TextInput :=
  if c = '\r' then
    match rest with
    | [] => ⟨[], true⟩
    | c2 :: rest' => if c2 = wxEOT ∨ c2 = '\n' then ⟨rest', false⟩ else ⟨rest, false⟩
  else ⟨rest, false⟩

/-- The characters up to a separator or the end of the line. -/
def readText (separators : List Char) : List Char → List Char × TextInput
  | [] => ([], ⟨[], true⟩)
  | c :: rest =>
      if c = wxEOT ∨ c ∈ separators then ([], ⟨rest, false⟩)
      else if c = '\n' ∨ c = '\r' then ([], eatEOL c rest)
      else
        let (text, t) := readText separators rest
        (c :: text, t)

/-- `ReadLine`. -/
def readLine (t : TextInput) : List Char × TextInput :=
  if t.eof then ([], t) else readText [] t.rest

/-- `ReadWord`, with blanks and tabs as the separators. -/
def readWord (t : TextInput) : List Char × TextInput :=
  if t.eof then ([], t)
  else
    match t.rest.dropWhile fun c => c ∈ [' ', '\t', '\n', '\r'] with
    | [] => ([], ⟨[], true⟩)
    | c :: rest =>
        if c = wxEOT ∨ c = '\x00' then ([], ⟨rest, false⟩)
        else
          let (word, t) := readText [' ', '\t'] rest
          (c :: word, t)

/-- `wxStrtoul` with base 10, for an `unsigned long` of 32 bits. -/
def strtoul (word : List Char) : Nat :=
  let number (cs : List Char) := Nat.ofDigitChars 10 (cs.takeWhile Char.isDigit) 0
  match word.dropWhile isBlank with
  | '-' :: cs =>
      if number cs < 4294967296 then (4294967296 - number cs) % 4294967296 else 4294967295
  | '+' :: cs => min (number cs) 4294967295
  | cs => min (number cs) 4294967295

/-- `Read32`. -/
def read32 (t : TextInput) : Nat × TextInput :=
  let (word, t) := t.readWord
  (strtoul word, t)

end TextInput

namespace TextInput

/-- A line that was written is read. -/
theorem readText_line {line : List Char} (h : ∀ c ∈ line, c ∉ lineEnds) (rest : List Char) :
    readText [] (line ++ '\r' :: '\n' :: rest) = (line, ⟨rest, false⟩) := by
  induction line with
  | nil => rfl
  | cons c line ih =>
      obtain ⟨hc, hline⟩ := List.forall_mem_cons.mp h
      simp only [lineEnds, List.mem_cons, List.not_mem_nil, or_false, not_or] at hc
      rw [List.cons_append, readText, if_neg (by simp [hc]), if_neg (by simp [hc]), ih hline]

/-- What is read has no character that ends a line. -/
theorem readText_ends (separators : List Char) (file : List Char) :
    ∀ c ∈ (readText separators file).1, c ∈ file ∧ c ≠ wxEOT ∧ c ≠ '\n' ∧ c ≠ '\r' := by
  induction file with
  | nil => intro c hc; cases hc
  | cons c file ih =>
      rw [readText]
      split_ifs with hstop heol
      · intro c hc; cases hc
      · intro c hc; cases hc
      · refine List.forall_mem_cons.mpr ⟨⟨.head _, ?_⟩, fun d hd => ?_⟩
        · exact ⟨fun e => hstop (.inl e), not_or.mp heol⟩
        · exact ⟨.tail _ (ih d hd).1, (ih d hd).2⟩

theorem suffix_eatEOL (c : Char) (rest : List Char) : (eatEOL c rest).rest <:+ rest := by
  unfold eatEOL
  split_ifs
  · split
    · exact List.suffix_refl _
    · split_ifs
      · exact List.suffix_cons _ _
      · exact List.suffix_refl _
  · exact List.suffix_refl _

/-- What is left is behind what was read. -/
theorem suffix_readText (separators : List Char) (file : List Char) :
    (readText separators file).2.rest <:+ file := by
  induction file with
  | nil => exact List.suffix_refl _
  | cons c file ih =>
      rw [readText]
      split_ifs
      · exact List.suffix_cons _ _
      · exact (suffix_eatEOL c file).trans (List.suffix_cons _ _)
      · exact ih.trans (List.suffix_cons _ _)

theorem readLine_ends (t : TextInput) :
    ∀ c ∈ t.readLine.1, c ∈ t.rest ∧ c ≠ wxEOT ∧ c ≠ '\n' ∧ c ≠ '\r' := by
  rw [readLine]
  split_ifs
  · intro c hc; cases hc
  · exact readText_ends [] t.rest

theorem suffix_readLine (t : TextInput) : t.readLine.2.rest <:+ t.rest := by
  rw [readLine]
  split_ifs
  · exact List.suffix_refl _
  · exact suffix_readText _ _

theorem suffix_read32 (t : TextInput) : t.read32.2.rest <:+ t.rest := by
  show t.readWord.2.rest <:+ t.rest
  rw [readWord]
  split_ifs
  · exact List.suffix_refl _
  · have hdrop := List.dropWhile_suffix (l := t.rest) fun c => c ∈ [' ', '\t', '\n', '\r']
    split
    · exact List.nil_suffix
    · rename_i c rest heq
      rw [heq] at hdrop
      have hrest : rest <:+ t.rest := (List.suffix_cons _ _).trans hdrop
      split_ifs
      · exact hrest
      · exact (suffix_readText _ _).trans hrest

theorem readLine_line {line : List Char} (h : ∀ c ∈ line, c ∉ lineEnds) (rest : List Char) :
    readLine ⟨line ++ '\r' :: '\n' :: rest, false⟩ = (line, ⟨rest, false⟩) :=
  readText_line h rest

end TextInput

theorem writeString_line {line : List Char} (h : ∀ c ∈ line, c ∉ lineEnds) :
    writeString (line ++ ['\n']) = line ++ ['\r', '\n'] := by
  have hline : writeString line = line := by
    refine (List.flatMap_congr fun c hc => if_neg ?_).trans (List.flatMap_singleton' _)
    rintro rfl
    exact h _ hc (by decide)
  rw [writeString_append, hline]
  rfl

/-- The streams, as `TextInput` reads and `writeString` writes. -/
def dosStreams : TextStreams where
  Input := TextInput
  create := .create
  canRead := TextInput.canRead
  readLine := TextInput.readLine
  read32 := TextInput.read32
  writeString := writeString

theorem dosStreams_documented : dosStreams.Documented TextInput.rest where
  created file := ⟨rfl, fun _ => rfl⟩
  line t line more hline hcan hrest := by
    obtain ⟨left, eof⟩ := t
    obtain rfl : eof = false := by simpa [dosStreams, TextInput.canRead] using hcan
    have hleft : left = line ++ '\r' :: '\n' :: more := by
      show left = _
      refine (show left = writeString (line ++ ['\n']) ++ more from hrest).trans ?_
      rw [writeString_line hline, List.append_assoc]
      rfl
    subst hleft
    show (TextInput.readLine _).1 = _ ∧ (TextInput.readLine _).2.rest = _ ∧
      (TextInput.readLine _).2.canRead = true
    rw [TextInput.readLine_line hline]
    exact ⟨rfl, rfl, rfl⟩
  version t more hcan hrest := by
    obtain ⟨left, eof⟩ := t
    obtain rfl : eof = false := by simpa [dosStreams, TextInput.canRead] using hcan
    obtain rfl : left = '1' :: '\r' :: '\n' :: more := hrest
    exact ⟨rfl, rfl, rfl⟩
  chars t := TextInput.readLine_ends t
  forward t := ⟨TextInput.suffix_readLine t, TextInput.suffix_read32 t⟩
  written str c hc := by
    obtain ⟨d, hd, hmem⟩ := List.mem_flatMap.mp hc
    split_ifs at hmem with hlf
    · rcases List.mem_cons.mp hmem with rfl | hmem
      · exact .inr rfl
      · exact .inl (List.mem_singleton.mp hmem ▸ hlf ▸ hd)
    · exact .inl (List.mem_singleton.mp hmem ▸ hd)
  nonempty str hstr := by
    cases str with
    | nil => exact absurd rfl hstr
    | cons c str =>
        show writeString (c :: str) ≠ []
        rw [writeString, List.flatMap_cons]
        split_ifs <;> simp

/-! ### A resolver in a file -/

namespace Resolver

/-- The file of a resolver is read, and so is one with other line ends and none at its end. -/
theorem files_reload_telExample :
    let r : Resolver := .ofFile "tel.example" "http://tel.example" "(.*)"
    let file := "REGEXRESOLVER\n1\ntel.example\nhttp://tel.example\n(.*)".toList
    createRegEx.loadFromFile dosStreams (fun _ => true) (r.saveToFile dosStreams) = (true, r) ∧
      createRegEx.loadFromFile dosStreams (fun _ => true) file = (true, r) ∧
      createRegEx.loadFromFile dosStreams (fun _ => true) (r.saveToFile dosStreams) = (true, r) := by
  intro r file
  have hload : createRegEx.loadFromFile dosStreams (fun _ => true) file = (true, r) := by
    decide +kernel
  obtain ⟨hiff, hagain⟩ := files_reload dosStreams_documented fun _ => true
  exact ⟨(hiff r).mpr (by decide), hload, hagain file r (by decide +kernel) hload⟩

end Resolver

namespace ResolverModel

/-- Digits, and texts that are not a number, stay on one line. -/
theorem keepsLines_sqlitePlatform : KeepsLines sqlitePlatform := by
  intro name hname
  have htext : sqlitePlatform.ofText name =
      (readDigits name.toList).elim (.inr name) .inl := if_neg hname.1
  rw [htext]
  cases readDigits name.toList with
  | none => exact hname
  | some n =>
      have hdigits : (sqlitePlatform.toText (.inl n)).toList = Nat.toDigits 10 n :=
        String.toList_ofList
      have hends : lineEnds.all (fun c => !c.isDigit) = true := by decide
      show Storable (sqlitePlatform.toText (.inl n))
      refine ⟨fun e => ?_, fun c hc hend => ?_⟩
      · rw [← String.toList_eq_nil_iff, hdigits] at e
        exact Nat.toDigits_ne_nil e
      · rw [hdigits] at hc
        have hdigit := Nat.isDigit_of_mem_toDigits (by decide) (by decide) hc
        have hnot := List.all_eq_true.mp hends c hend
        rw [hdigit] at hnot
        exact Bool.false_ne_true hnot

/-- A resolver that was imported, switched off and saved. -/
theorem exported_run_telExample :
    ((fresh sqlitePlatform).onImport dosStreams (fun _ => true)
      ((Resolver.ofFile "tel.example" "http://tel.example" "(.*)").saveToFile dosStreams)).order =
      [(Resolver.ofFile "tel.example" "http://tel.example" "(.*)").core] := by
  have hfile : ∀ ev ∈ [Event.append "tel.example" "http://tel.example" "(.*)", .toggle 0],
      FromFile (p := sqlitePlatform) dosStreams (fun _ => true) ev := by
    refine List.forall_mem_cons.mpr ⟨?_, List.forall_mem_singleton.mpr trivial⟩
    exact ⟨_, nul_notMem_saveToFile dosStreams_documented _,
      (Resolver.loadFromFile_saveToFile dosStreams_documented (.ofFile _ _ _)).mpr (by decide)⟩
  exact exported_run dosStreams_documented keepsLines_sqlitePlatform _ hfile
    (r := ⟨.onlineRegex, false, false, 0, "tel.example", none, "http://tel.example", "(.*)"⟩)
    (by decide) rfl (fresh sqlitePlatform) rfl

end ResolverModel
end Cmon
