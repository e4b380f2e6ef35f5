import Mathlib.Data.List.TakeWhile
import Mathlib.Data.String.Basic
import Cmon.Library.OrderedMap
import Cmon.Shared.Platform

/-!
# Address book — registration

The SQLite plug-in's list of address books, the configuration it keeps them in, and the map of
the plug-in loader they are registered with.  The configuration is that of wxWidgets
(`WxConfig`), of which `Documented` says what the plug-in relies on: `/` separates groups, an
entry whose name begins with `!` cannot be written, and `Read` expands environment variables.

A book that was read from the configuration is registered under the UUID of the plug-in, and the
map keeps the first object of a UUID.

* `construct_loader`: after a start one book of the plug-in is registered, however many there are.
* `restored_iff`: a restart gives back the registered books exactly when there is one, whose name
  is plain and whose path no environment variable changes.
-/

namespace Cmon
open Library

/-- `CGUID`, as a number of 128 bits. -/
abbrev Guid := Nat

/-- `pluginUUID`. -/
def pluginUUID : Guid := 0x0d9bcab7_6154_4c57_97f2_f6f8920d6d5f

/-- `CSQLiteAddressbook`, as far as it is registered. -/
structure SQLiteBook where
  id : Guid
  name : String
  path : String
  markedForDeletion : Bool
  deriving DecidableEq, Repr

/-- `TAddressbookMap`; the proxy of a book stands for the book. -/
abbrev AddressbookMap := OrderedMap Guid SQLiteBook

/-- `CPluginLoader::registerModule`, for an address book. -/
def registerModule (m : AddressbookMap) (p : SQLiteBook) : AddressbookMap := m.insert p.id p

/-! ### The configuration -/

/-- `wxConfig`: `entries` are the names that `GetFirstEntry` and `GetNextEntry` give in a group. -/
structure WxConfig where
  State : Type
  deleteGroup : String → State → State
  write : String → String → State → State
  entries : String → State → List String
  read : String → String → State → Option String

/-- What is documented of it; `expand` puts the values of environment variables in. -/
structure WxConfig.Documented (c : WxConfig) (expand : String → String) : Prop where
  deleted : ∀ g s, c.entries g (c.deleteGroup g s) = []
  separated : ∀ g s n, n ∈ c.entries g s → '/' ∉ n.toList
  immutable : ∀ g n v s, '/' ∉ n.toList → startsWith n "!" = true →
    c.write (g ++ "/" ++ n) v s = s
  written : ∀ g n v s, n ≠ "" → '/' ∉ n.toList → startsWith n "!" = false →
    c.entries g s = [] →
      c.entries g (c.write (g ++ "/" ++ n) v s) = [n] ∧
        c.read g n (c.write (g ++ "/" ++ n) v s) = some (expand v)

/-- `TDbFiles`: paths by name. -/
abbrev DbFiles := OrderedMap String String

def dbGroup : String := "Addressbooks/SQLite"

/-- `SQLITEPREFS::readDatabases`. -/
def readDatabases (c : WxConfig) (config : c.State) : DbFiles :=
  (c.entries dbGroup config).foldl (fun m strKey =>
    match c.read dbGroup strKey config with
    | some strValue => m.put strKey strValue
    | none => m) .empty

/-- `SQLITEPREFS::writeDatabases`. -/
def writeDatabases (c : WxConfig) (dbFiles : DbFiles) (config : c.State) : c.State :=
  dbFiles.entries.foldl (fun s f => c.write (dbGroup ++ "/" ++ f.1) f.2 s)
    (c.deleteGroup dbGroup config)

/-! ### The plug-in -/

/-- `saveAddressbookInfo`. -/
def saveAddressbookInfo (c : WxConfig) (books : List SQLiteBook) (config : c.State) : c.State :=
  writeDatabases c (books.foldl (fun m b =>
    if !b.markedForDeletion then m.put b.name b.path else m) .empty) config

/-- The plug-in, the loader's map and the configuration. -/
structure Registry (c : WxConfig) where
  addressbooks : List SQLiteBook
  loader : AddressbookMap
  config : c.State

/-- The constructor of the plug-in, in a loader without address books; `strDBFN` is the file of
the first book of an installation. -/
def construct (c : WxConfig) (strDBFN : String) (config : c.State) : Registry c :=
  let dbFiles := readDatabases c config
  if dbFiles.entries = [] then
    let pBook := ⟨pluginUUID, "SQLite", strDBFN, false⟩
    ⟨[pBook], registerModule .empty pBook, saveAddressbookInfo c [pBook] config⟩
  else
    let books := dbFiles.entries.map fun f => ⟨pluginUUID, f.1, f.2, false⟩
    ⟨books, books.foldl registerModule .empty, config⟩

/-- `addAddressbook`; `id` is what `UuidCreate` gives. -/
def addAddressbook (c : WxConfig) (id : Guid) (name path : String) (t : Registry c) : Registry c :=
  let pBook := ⟨id, name, path, false⟩
  ⟨t.addressbooks ++ [pBook], registerModule t.loader pBook,
    saveAddressbookInfo c (t.addressbooks ++ [pBook]) t.config⟩

/-- The destructor writes the books, and the next start reads them. -/
def restart (c : WxConfig) (strDBFN : String) (t : Registry c) : Registry c :=
  construct c strDBFN (saveAddressbookInfo c t.addressbooks t.config)

/-- A book that is added is registered beside the others, its UUID being new. -/
theorem addAddressbook_loader {c : WxConfig} {id : Guid} {t : Registry c}
    (h : t.loader.find? id = none) (name path : String) :
    (addAddressbook c id name path t).loader.entries.Perm
      ((id, ⟨id, name, path, false⟩) :: t.loader.entries) :=
  OrderedMap.insert_new_perm h _

/-! ### One book -/

/-- Of several objects with one UUID the first is kept. -/
theorem foldl_registerModule {b : SQLiteBook} {books : List SQLiteBook}
    (h : ∀ b' ∈ books, b'.id = b.id) :
    ((b :: books).foldl registerModule .empty).entries = [(b.id, b)] := by
  have hstay : books.foldl registerModule (registerModule .empty b) = registerModule .empty b := by
    induction books with
    | nil => rfl
    | cons b' books ih =>
        have hknown : (registerModule .empty b).find? b'.id = some b := by
          rw [h b' (.head _), registerModule, OrderedMap.find?_insert_self]
          rfl
        rw [List.foldl_cons, registerModule, OrderedMap.insert_known hknown]
        exact ih fun b'' hb => h b'' (.tail _ hb)
  rw [List.foldl_cons, hstay]
  rfl

/-- **After a start one book is registered.** -/
theorem construct_loader (c : WxConfig) (strDBFN : String) (config : c.State) :
    ∃ b books, (construct c strDBFN config).addressbooks = b :: books ∧
      (construct c strDBFN config).loader.entries = [(pluginUUID, b)] := by
  rw [construct]
  dsimp only
  split_ifs with h
  · exact ⟨_, [], rfl, rfl⟩
  · obtain ⟨f, fs, hf⟩ := List.exists_cons_of_ne_nil h
    rw [hf]
    refine ⟨_, _, rfl, foldl_registerModule fun b' hb => ?_⟩
    obtain ⟨f', -, rfl⟩ := List.mem_map.mp hb
    rfl

/-- The books that are not marked for deletion. -/
def kept (books : List SQLiteBook) : List SQLiteBook := books.filter fun b => !b.markedForDeletion

/-- The map has one book with the name and the path of each of the books, and no others. -/
def Restored (m : AddressbookMap) (books : List SQLiteBook) : Prop :=
  (m.entries.map fun e => (e.2.name, e.2.path)).Perm (books.map fun b => (b.name, b.path))

instance (m : AddressbookMap) (books : List SQLiteBook) : Decidable (Restored m books) :=
  inferInstanceAs (Decidable (List.Perm _ _))

/-- A name that is an entry of the group and can be written. -/
def Plain (name : String) : Prop := '/' ∉ name.toList ∧ startsWith name "!" = false

instance (name : String) : Decidable (Plain name) := inferInstanceAs (Decidable (_ ∧ _))

section
variable {c : WxConfig} {expand : String → String}

/-- The configuration written for one book. -/
theorem saveAddressbookInfo_one {books : List SQLiteBook} {b : SQLiteBook} (h : kept books = [b])
    (config : c.State) :
    saveAddressbookInfo c books config =
      c.write (dbGroup ++ "/" ++ b.name) b.path (c.deleteGroup dbGroup config) := by
  have hfiles : books.foldl (fun m b =>
      if !b.markedForDeletion then m.put b.name b.path else m) (.empty : DbFiles) =
      (kept books).foldl (fun m b => m.put b.name b.path) .empty :=
    List.foldl_filter.symm
  rw [saveAddressbookInfo, hfiles, h, List.foldl_cons, List.foldl_nil, writeDatabases,
    OrderedMap.entries_put_empty]
  rfl

/-- What is read has names without a separator. -/
theorem readDatabases_separated (hc : c.Documented expand) (config : c.State) {f : String × String}
    (hf : f ∈ (readDatabases c config).entries) : '/' ∉ f.1.toList := by
  rw [readDatabases] at hf
  have hnames : ∀ n ∈ c.entries dbGroup config, '/' ∉ n.toList := hc.separated dbGroup config
  generalize c.entries dbGroup config = names at hf hnames
  -- the names of the map are among those that were read
  suffices h : ∀ m : DbFiles, (∀ f ∈ m.entries, '/' ∉ f.1.toList) → ∀ f ∈ (names.foldl
      (fun m strKey => match c.read dbGroup strKey config with
        | some strValue => m.put strKey strValue
        | none => m) m).entries, '/' ∉ f.1.toList from
    h .empty (fun _ h => absurd h List.not_mem_nil) f hf
  clear hf
  induction names with
  | nil => exact fun m hm => hm
  | cons n names ih =>
      intro m hm
      rw [List.foldl_cons]
      refine ih (fun n' hn => hnames n' (.tail _ hn)) _ ?_
      split
      · intro f hf
        by_cases hn : f.1 = n
        · rw [hn]
          exact hnames n (.head _)
        · have hfind := OrderedMap.mem_entries.mp hf
          rw [OrderedMap.find?_put_of_ne _ hn] at hfind
          exact hm _ (OrderedMap.mem_entries.mpr hfind)
      · exact hm

/-- The name of the book that is registered at a start. -/
theorem construct_separated (hc : c.Documented expand) (strDBFN : String) (config : c.State)
    {b : SQLiteBook} (hb : b ∈ (construct c strDBFN config).addressbooks) : '/' ∉ b.name.toList := by
  rw [construct] at hb
  dsimp only at hb
  split_ifs at hb
  · obtain rfl := List.mem_singleton.mp hb
    show '/' ∉ "SQLite".toList
    decide
  · obtain ⟨f, hf, rfl⟩ := List.mem_map.mp hb
    exact readDatabases_separated hc config hf

/-- The start after one book with a plain name was written. -/
theorem construct_written (hc : c.Documented expand) (strDBFN : String) (config : c.State)
    {n path : String} (hne : n ≠ "") (hn : Plain n) :
    (construct c strDBFN (c.write (dbGroup ++ "/" ++ n) path
      (c.deleteGroup dbGroup config))).addressbooks = [⟨pluginUUID, n, expand path, false⟩] := by
  obtain ⟨hentries, hread⟩ := hc.written dbGroup n path _ hne hn.1 hn.2 (hc.deleted dbGroup config)
  have hfiles : (readDatabases c (c.write (dbGroup ++ "/" ++ n) path
      (c.deleteGroup dbGroup config))).entries = [(n, expand path)] := by
    rw [readDatabases, hentries, List.foldl_cons, List.foldl_nil, hread]
    exact OrderedMap.entries_put_empty _ _
  simp only [construct, hfiles]
  rfl

/-- The start after a book was not written, its name being immutable. -/
theorem construct_immutable (hc : c.Documented expand) (strDBFN : String) (config : c.State)
    {n path : String} (hslash : '/' ∉ n.toList) (hn : startsWith n "!" = true) :
    (construct c strDBFN (c.write (dbGroup ++ "/" ++ n) path
      (c.deleteGroup dbGroup config))).addressbooks = [⟨pluginUUID, "SQLite", strDBFN, false⟩] := by
  have hfiles : (readDatabases c (c.deleteGroup dbGroup config)).entries = [] := by
    rw [readDatabases, hc.deleted]
    rfl
  rw [hc.immutable dbGroup n path _ hslash hn]
  simp only [construct, hfiles]
  rfl

theorem mem_of_kept {books : List SQLiteBook} {b : SQLiteBook} (h : kept books = [b]) : b ∈ books :=
  (List.mem_filter.mp (h ▸ List.mem_singleton_self b : b ∈ kept books)).1

/-- The start after one book with a plain name was saved. -/
theorem construct_one (hc : c.Documented expand) (strDBFN : String) (config : c.State)
    {books : List SQLiteBook} {b : SQLiteBook} (hb : kept books = [b]) (hne : b.name ≠ "")
    (hplain : Plain b.name) :
    (construct c strDBFN (saveAddressbookInfo c books config)).addressbooks =
      [⟨pluginUUID, b.name, expand b.path, false⟩] := by
  rw [saveAddressbookInfo_one hb]
  exact construct_written hc strDBFN config hne hplain

/-- One book was saved, and its name comes back: it is plain. -/
theorem plain_of_construct (hc : c.Documented expand) (strDBFN : String) (config : c.State)
    {books rest : List SQLiteBook} {b b' : SQLiteBook} (hb : kept books = [b])
    (h : (construct c strDBFN (saveAddressbookInfo c books config)).addressbooks = b' :: rest)
    (hname : b.name = b'.name) : Plain b.name := by
  -- what comes back is the name of an entry, or the default name
  have hslash : '/' ∉ b.name.toList := by
    rw [hname]
    refine construct_separated hc strDBFN (saveAddressbookInfo c books config) ?_
    rw [h]
    exact .head _
  refine ⟨hslash, ?_⟩
  cases hbang : startsWith b.name "!" with
  | false => rfl
  | true =>
      -- nothing was written, and the default name is not marked
      rw [saveAddressbookInfo_one hb, construct_immutable hc strDBFN _ hslash hbang] at h
      obtain rfl := (List.cons.inj h).1
      have hdefault : startsWith "SQLite" "!" = false := by decide
      rw [hname] at hbang
      cases hdefault.symm.trans hbang

/-- **A restart gives the registered books back exactly when there is one, its name is plain, and
no environment variable is in its path.** -/
theorem restored_iff (hc : c.Documented expand) (strDBFN : String) (t : Registry c)
    (hnames : ∀ b ∈ t.addressbooks, b.name ≠ "") :
    Restored (restart c strDBFN t).loader (kept t.addressbooks) ↔
      ∃ b, kept t.addressbooks = [b] ∧ Plain b.name ∧ expand b.path = b.path := by
  obtain ⟨b', rest, hbooks, hloader⟩ :=
    construct_loader c strDBFN (saveAddressbookInfo c t.addressbooks t.config)
  have hrestored : Restored (restart c strDBFN t).loader (kept t.addressbooks) ↔
      (kept t.addressbooks).map (fun b => (b.name, b.path)) = [(b'.name, b'.path)] := by
    rw [Restored, restart]
    rw [hloader]
    exact List.singleton_perm.trans eq_comm
  rw [hrestored]
  constructor
  · intro h
    obtain ⟨b, hb, hsame⟩ := List.map_eq_singleton_iff.mp h
    obtain ⟨hname, hpath⟩ := Prod.mk.inj hsame
    have hplain := plain_of_construct hc strDBFN t.config hb hbooks hname
    rw [construct_one hc strDBFN t.config hb (hnames b (mem_of_kept hb)) hplain] at hbooks
    obtain rfl := (List.cons.inj hbooks).1
    exact ⟨b, hb, hplain, hpath.symm⟩
  · rintro ⟨b, hb, hplain, hpath⟩
    rw [construct_one hc strDBFN t.config hb (hnames b (mem_of_kept hb)) hplain] at hbooks
    obtain rfl := (List.cons.inj hbooks).1
    rw [hb, List.map_singleton, hpath]

end

/-! ### A configuration in memory -/

/-- `key.BeforeLast('/')` and `key.AfterLast('/')`. -/
def splitKey (key : String) : String × String :=
  (String.ofList ((key.toList.reverse.dropWhile (· ≠ '/')).drop 1).reverse,
    String.ofList (key.toList.reverse.takeWhile (· ≠ '/')).reverse)

theorem splitKey_append (g : String) {n : String} (hn : '/' ∉ n.toList) :
    splitKey (g ++ "/" ++ n) = (g, n) := by
  have hrev : (g ++ "/" ++ n).toList.reverse = n.toList.reverse ++ '/' :: g.toList.reverse := by
    simp
  have hall : ∀ c ∈ n.toList.reverse, decide (c ≠ '/') = true := by
    intro c hc
    refine decide_eq_true fun e => hn ?_
    rw [← e]
    exact List.mem_reverse.mp hc
  simp only [splitKey, hrev]
  rw [List.takeWhile_append_of_pos hall, List.dropWhile_append_of_pos hall]
  simp

/-- Entries as group, name and value; no name has a separator in it. -/
abbrev Entries := { l : List (String × String × String) // ∀ e ∈ l, '/' ∉ e.2.1.toList }

/-- The name of a key has no separator in it. -/
theorem splitKey_separated (key : String) : '/' ∉ (splitKey key).2.toList := by
  intro h
  rw [splitKey, String.toList_ofList] at h
  simpa using List.mem_takeWhile_imp (List.mem_reverse.mp h)

namespace Entries

def deleteGroup (g : String) (s : Entries) : Entries :=
  ⟨s.1.filter fun e => e.1 ≠ g ∧ ¬ startsWith e.1 (g ++ "/"),
    fun e he => s.2 e (List.mem_filter.mp he).1⟩

def write (key v : String) (s : Entries) : Entries :=
  if startsWith (splitKey key).2 "!" then s
  else ⟨s.1.filter (fun e => (e.1, e.2.1) ≠ splitKey key) ++
      [((splitKey key).1, (splitKey key).2, v)], by
    intro e he
    rcases List.mem_append.mp he with he | he
    · exact s.2 e (List.mem_filter.mp he).1
    · obtain rfl := List.mem_singleton.mp he
      exact splitKey_separated key⟩

def names (g : String) (s : Entries) : List String := (s.1.filter (·.1 = g)).map (·.2.1)

def read (g n : String) (s : Entries) : Option String :=
  (s.1.find? fun e => e.1 = g ∧ e.2.1 = n).map (·.2.2)

theorem names_deleteGroup (g : String) (s : Entries) : names g (deleteGroup g s) = [] := by
  simp only [names, deleteGroup, List.filter_filter, List.map_eq_nil_iff, List.filter_eq_nil_iff]
  intro e _ h
  obtain ⟨hg, hne, -⟩ : e.1 = g ∧ e.1 ≠ g ∧ _ := by simpa using h
  exact hne hg

/-- An entry written into an empty group. -/
theorem write_val {g n v : String} {s : Entries} (hn : '/' ∉ n.toList)
    (hbang : startsWith n "!" = false) (hnone : ∀ e ∈ s.1, e.1 ≠ g) :
    (write (g ++ "/" ++ n) v s).1 = s.1 ++ [(g, n, v)] := by
  have hkeep : s.1.filter (fun e => (e.1, e.2.1) ≠ (g, n)) = s.1 := by
    refine List.filter_eq_self.mpr fun e he => decide_eq_true fun h => ?_
    exact hnone e he (Prod.mk.inj h).1
  rw [write]
  split_ifs with h
  · rw [splitKey_append g hn, hbang] at h
    cases h
  · show s.1.filter (fun e => (e.1, e.2.1) ≠ splitKey (g ++ "/" ++ n)) ++
      [((splitKey (g ++ "/" ++ n)).1, (splitKey (g ++ "/" ++ n)).2, v)] = _
    rw [splitKey_append g hn, hkeep]

theorem separated_of_mem {g n : String} {s : Entries} (hn : n ∈ names g s) : '/' ∉ n.toList := by
  obtain ⟨e, he, rfl⟩ := List.mem_map.mp hn
  exact s.2 e (List.mem_filter.mp he).1

theorem write_immutable {g n : String} (v : String) (s : Entries) (hn : '/' ∉ n.toList)
    (hbang : startsWith n "!" = true) : write (g ++ "/" ++ n) v s = s := by
  have hkey : startsWith (splitKey (g ++ "/" ++ n)).2 "!" = true := by
    rw [splitKey_append g hn]
    exact hbang
  rw [write]
  rw [if_pos hkey]

theorem write_plain {g n : String} (v : String) {s : Entries} (hn : '/' ∉ n.toList)
    (hbang : startsWith n "!" = false) (hempty : names g s = []) :
    names g (write (g ++ "/" ++ n) v s) = [n] ∧ read g n (write (g ++ "/" ++ n) v s) = some v := by
  have hnone : ∀ e ∈ s.1, e.1 ≠ g := by
    intro e he hg
    have hmem : e.2.1 ∈ names g s :=
      List.mem_map_of_mem (List.mem_filter.mpr ⟨he, decide_eq_true hg⟩)
    rw [hempty] at hmem
    exact List.not_mem_nil hmem
  have hothers : s.1.filter (·.1 = g) = [] :=
    List.filter_eq_nil_iff.mpr fun e he => by simpa using hnone e he
  have hfind : s.1.find? (fun e => e.1 = g ∧ e.2.1 = n) = none :=
    List.find?_eq_none.mpr fun e he => by simp [hnone e he]
  rw [names, read]
  rw [write_val hn hbang hnone]
  constructor
  · rw [List.filter_append, hothers]
    simp
  · rw [List.find?_append, hfind]
    simp

end Entries

abbrev memConfig : WxConfig where
  State := Entries
  deleteGroup := Entries.deleteGroup
  write := Entries.write
  entries := Entries.names
  read := Entries.read

/-- It behaves as documented, on a machine without environment variables. -/
theorem memConfig_documented : memConfig.Documented id := by
  refine ⟨fun g s => ?_, fun g s n hn => ?_, fun g n v s hn hbang => ?_,
    fun g n v s hne hn hbang hempty => ?_⟩
  · exact Entries.names_deleteGroup g s
  · exact Entries.separated_of_mem hn
  · dsimp only [memConfig]
    exact Entries.write_immutable v s hn hbang
  · dsimp only [memConfig]
    exact Entries.write_plain v hn hbang hempty

/-- A plug-in with these books, before a restart. -/
def withBooks (books : List SQLiteBook) : Registry memConfig :=
  ⟨books, books.foldl registerModule .empty, ⟨[], fun _ h => absurd h List.not_mem_nil⟩⟩

theorem restored_iff_private :
    Restored (restart memConfig "pbook.db" (withBooks [⟨1, "Private", "p.db", false⟩])).loader
        (kept [⟨1, "Private", "p.db", false⟩]) ↔
      ∃ b, kept [⟨1, "Private", "p.db", false⟩] = [b] ∧ Plain b.name ∧ id b.path = b.path :=
  restored_iff memConfig_documented "pbook.db" (withBooks [⟨1, "Private", "p.db", false⟩])
    (by decide)

/-- Two books that were registered under two UUIDs: after a restart one of them is left. -/
theorem two_books_restart :
    ¬ Restored (restart memConfig "pbook.db"
        (withBooks [⟨1, "Private", "p.db", false⟩, ⟨2, "Work", "w.db", false⟩])).loader
      (kept [⟨1, "Private", "p.db", false⟩, ⟨2, "Work", "w.db", false⟩]) := by
  intro h
  obtain ⟨b, -, -, hloader⟩ := construct_loader memConfig "pbook.db" (saveAddressbookInfo memConfig
    [⟨1, "Private", "p.db", false⟩, ⟨2, "Work", "w.db", false⟩] (withBooks []).config)
  have hlen := h.length_eq
  rw [show (restart memConfig "pbook.db" (withBooks [⟨1, "Private", "p.db", false⟩,
    ⟨2, "Work", "w.db", false⟩])).loader.entries = [(pluginUUID, b)] from hloader] at hlen
  cases hlen

end Cmon
