import Cmon.Search.Selection

/-!
# Journal — counts and lists

The part of `CJournalModel` that the journal page shows: the count of each filter and the list of
the current one.  Both are got by a statement each, with the same condition.

* `JournalEngine`: what the database answers to the statements, with what a failing one says.
* `JournalModel.updateFilters` and `JournalModel.getEntries`, with their error paths: a count that
  fails is stored as `0`, a list that fails is left as it was.
* `JournalModel.counts_iff`: the count of the current filter is the length of the list, exactly
  when the answers are in `Step`.
-/

namespace Cmon
open Library SqlText JournalDb

/-! ### The source -/

/-- The answers of the database: a `select count(*)` gives a number, the other `select` rows,
after which fetching may fail. -/
structure JournalEngine where
  count : String → List CallRow → Except String Int
  select : String → List CallRow → Except String (List CallRow × Option String)

/-- `CJournalModel`. -/
structure JournalModel where
  strNameAndNumberCond : String
  currentFilter : Option JournalFilter
  sortOrder : JournalSortOrder
  bSortAsc : Bool
  strLastError : String
  matchedCount : JournalFilter → Int

namespace JournalModel

/-- The constructor, before its `updateFilters`. -/
def initial : JournalModel := ⟨"", none, .time, false, "", fun _ => 0⟩

/-- `m_Filters`, in the order of the constructor. -/
def filters : List JournalFilter :=
  [.incoming, .outgoing, .callsInAbsence, .allCalls, .today, .thisMonth, .thisWeek]

/-- `setMatchedCount` of a filter. -/
def setMatchedCount (m : JournalModel) (f : JournalFilter) (count : Int) : JournalModel :=
  { m with matchedCount := fun g => if g = f then count else m.matchedCount g }

/-- `updateFilters`, one turn of its loop. -/
def updateFilter (e : JournalEngine) (calls : List CallRow) (m : JournalModel)
    (f : JournalFilter) : JournalModel :=
  match e.count (journalCountSql f m.strNameAndNumberCond) calls with
  | .ok count => m.setMatchedCount f count
  | .error what => { m with strLastError := what }.setMatchedCount f 0

/-- `updateFilters`, on a database that is usable when `isOk` holds. -/
def updateFilters (e : JournalEngine) (isOk : Bool) (calls : List CallRow) (m : JournalModel) :
    JournalModel :=
  if isOk then filters.foldl (updateFilter e calls) m else m

/-- `setNameAndNumberFilter`, without the notification. -/
def setNameAndNumberFilter (e : JournalEngine) (isOk : Bool) (calls : List CallRow)
    (strName strNumber : String) (m : JournalModel) : JournalModel :=
  { m with strNameAndNumberCond := nameAndNumberCond strName strNumber }.updateFilters e isOk calls

/-- `selectFilter`, without the notification. -/
def selectFilter (idx : Int) (m : JournalModel) : JournalModel :=
  if 0 ≤ idx ∧ idx < filters.length then { m with currentFilter := filters[idx.toNat]? } else m

/-- `selectSortOrder`, without the notification. -/
def selectSortOrder (sf : JournalSortOrder) (bAsc : Bool) (m : JournalModel) : JournalModel :=
  { m with sortOrder := sf, bSortAsc := bAsc }

/-- `getEntries`, the loop over the rows; one entry `j` is filled for each in turn. -/
def loadRows (p : Platform) : JournalEntry → List CallRow → List JournalEntry
  | _, [] => []
  | j, row :: rows => loadRow p j row :: loadRows p (loadRow p j row) rows

/-- `getEntries`; `j` is its local entry, `list` the list of the caller. -/
def getEntries (p : Platform) (e : JournalEngine) (isOk : Bool) (calls : List CallRow)
    (j : JournalEntry) (m : JournalModel) (list : List JournalEntry) :
    List JournalEntry × JournalModel :=
  if isOk then
    match e.select (journalListSql m.currentFilter m.sortOrder m.bSortAsc m.strNameAndNumberCond)
        calls with
    | .ok (rows, none) => (loadRows p j rows, m)
    | .ok (rows, some what) => (loadRows p j rows, { m with strLastError := what })
    | .error what => (list, { m with strLastError := what })
  else (list, m)

/-! ### The counts -/

variable {p : Platform} {e : JournalEngine} {calls : List CallRow} {m : JournalModel}
variable {f : JournalFilter}

/-- The answer to a count, as it is stored. -/
def countOf : Except String Int → Int
  | .ok count => count
  | .error _ => 0

/-- What one turn writes. -/
theorem updateFilter_frame (e : JournalEngine) (calls : List CallRow) (m : JournalModel)
    (f g : JournalFilter) :
    (updateFilter e calls m f).strNameAndNumberCond = m.strNameAndNumberCond ∧
      (updateFilter e calls m f).currentFilter = m.currentFilter ∧
      (updateFilter e calls m f).sortOrder = m.sortOrder ∧
      (updateFilter e calls m f).bSortAsc = m.bSortAsc ∧
      (updateFilter e calls m f).matchedCount g =
        if g = f then countOf (e.count (journalCountSql f m.strNameAndNumberCond) calls)
        else m.matchedCount g := by
  rw [updateFilter]
  cases e.count (journalCountSql f m.strNameAndNumberCond) calls with
  | ok count => exact ⟨rfl, rfl, rfl, rfl, rfl⟩
  | error what => exact ⟨rfl, rfl, rfl, rfl, rfl⟩

/-- What the loop writes: the count of each filter of the list. -/
theorem foldl_updateFilter (e : JournalEngine) (calls : List CallRow) (fs : List JournalFilter)
    (g : JournalFilter) (m : JournalModel) :
    (fs.foldl (updateFilter e calls) m).strNameAndNumberCond = m.strNameAndNumberCond ∧
      (fs.foldl (updateFilter e calls) m).currentFilter = m.currentFilter ∧
      (fs.foldl (updateFilter e calls) m).sortOrder = m.sortOrder ∧
      (fs.foldl (updateFilter e calls) m).bSortAsc = m.bSortAsc ∧
      (fs.foldl (updateFilter e calls) m).matchedCount g =
        if g ∈ fs then countOf (e.count (journalCountSql g m.strNameAndNumberCond) calls)
        else m.matchedCount g := by
  induction fs generalizing m with
  | nil => exact ⟨rfl, rfl, rfl, rfl, rfl⟩
  | cons f fs ih =>
      obtain ⟨hcond, hcurrent, hso, hasc, hcount⟩ := ih (updateFilter e calls m f)
      obtain ⟨hcond', hcurrent', hso', hasc', hcount'⟩ :=
        updateFilter_frame e calls m f g
      refine ⟨hcond.trans hcond', hcurrent.trans hcurrent', hso.trans hso', hasc.trans hasc', ?_⟩
      rw [List.foldl_cons, hcount, hcount', hcond']
      by_cases hg : g = f
      · subst hg
        simp
      · simp [hg]

theorem mem_filters (f : JournalFilter) : f ∈ filters := by cases f <;> decide

/-- What `updateFilters` stores. -/
theorem updateFilters_spec (m : JournalModel) (e : JournalEngine) (calls : List CallRow)
    (g : JournalFilter) :
    (m.updateFilters e true calls).strNameAndNumberCond = m.strNameAndNumberCond ∧
      (m.updateFilters e true calls).currentFilter = m.currentFilter ∧
      (m.updateFilters e true calls).sortOrder = m.sortOrder ∧
      (m.updateFilters e true calls).bSortAsc = m.bSortAsc ∧
      (m.updateFilters e true calls).matchedCount g =
        countOf (e.count (journalCountSql g m.strNameAndNumberCond) calls) := by
  have h := foldl_updateFilter e calls filters g m
  rwa [if_pos (mem_filters g)] at h

/-- What a search stores. -/
theorem setNameAndNumberFilter_spec (m : JournalModel) (e : JournalEngine)
    (calls : List CallRow) (strName strNumber : String) (g : JournalFilter) :
    let m' := m.setNameAndNumberFilter e true calls strName strNumber
    m'.strNameAndNumberCond = nameAndNumberCond strName strNumber ∧
      m'.currentFilter = m.currentFilter ∧ m'.sortOrder = m.sortOrder ∧
      m'.bSortAsc = m.bSortAsc ∧
      m'.matchedCount g =
        countOf (e.count (journalCountSql g (nameAndNumberCond strName strNumber)) calls) :=
  updateFilters_spec { m with strNameAndNumberCond := nameAndNumberCond strName strNumber }
    e calls g

/-! ### The list -/

/-- What of an entry is loaded from its row is that of the row, whatever entry is filled. -/
theorem map_loadRows {β : Type} {f : JournalEntry → β} {g : CallRow → β}
    (h : ∀ j row, f (loadRow p j row) = g row) (j : JournalEntry) (rows : List CallRow) :
    (loadRows p j rows).map f = rows.map g := by
  induction rows generalizing j with
  | nil => rfl
  | cons row rows ih => rw [loadRows, List.map_cons, h, ih, List.map_cons]

theorem loadRows_keys (j : JournalEntry) (rows : List CallRow) :
    (loadRows p j rows).map (·.dbKey) = rows.map (·.id) :=
  map_loadRows (fun _ _ => rfl) j rows

theorem length_loadRows (j : JournalEntry) (rows : List CallRow) :
    (loadRows p j rows).length = rows.length := by
  have h := congrArg List.length (loadRows_keys (p := p) j rows)
  rwa [List.length_map, List.length_map] at h

/-- The length of the list after the answer to its statement. -/
def lengthOf (shown : Nat) : Except String (List CallRow × Option String) → Nat
  | .ok (rows, _) => rows.length
  | .error _ => shown

theorem length_getEntries (j : JournalEntry) (m : JournalModel) (list : List JournalEntry) :
    (m.getEntries p e true calls j list).1.length =
      lengthOf list.length (e.select (journalListSql m.currentFilter m.sortOrder m.bSortAsc
        m.strNameAndNumberCond) calls) := by
  rw [getEntries, if_pos rfl]
  cases e.select (journalListSql m.currentFilter m.sortOrder m.bSortAsc m.strNameAndNumberCond)
      calls with
  | error what => rfl
  | ok reply =>
      obtain ⟨rows, broken⟩ := reply
      cases broken with
      | none => exact length_loadRows j rows
      | some what => exact length_loadRows j rows

/-! ### Count and list -/

/-- A row meets the filter and the search. -/
def holds (p : Platform) (evaluate : String → CallRow → Bool) (f : JournalFilter)
    (typed : String) (row : CallRow) : Bool :=
  filterHolds evaluate (some f) row &&
    nameAndNumberHolds (toUTF8 (doSearch p typed).1) (toUTF8 (doSearch p typed).2) row

/-- What the engine documents of the two statements, where they are read as they are meant: one
counts the rows that meet the condition, the other gives them in some order.  Either may fail. -/
structure Documented (p : Platform) (e : JournalEngine) (evaluate : String → CallRow → Bool)
    (f : JournalFilter) (so : JournalSortOrder) (bSortAsc : Bool) (typed : String)
    (calls : List CallRow) : Prop where
  count : let q := Query.journalCount f typed
    lex (q.sql p).toList = some (tokensOf (q.intended p)) →
      ∀ n, e.count (q.sql p) calls = .ok n → n = calls.countP (holds p evaluate f typed)
  select : let q := Query.journalList (some f) so bSortAsc typed
    lex (q.sql p).toList = some (tokensOf (q.intended p)) →
      ∀ rows, e.select (q.sql p) calls = .ok (rows, none) →
        rows.Perm (calls.filter (holds p evaluate f typed))

/-- When the stored count and the list of `shown` entries that is replaced are of one number.  Two
answers to statements that are not read as they are meant need not be. -/
def InStep (shown : Nat) (typed : String × String) :
    Except String Int → Except String (List CallRow × Option String) → Prop
  | .ok n, .ok (rows, none) => NoQuote typed.1 ∧ NoQuote typed.2 ∨ n = rows.length
  | .ok n, .ok (rows, some _) => n = rows.length
  | .ok n, .error _ => n = shown
  | .error _, .ok (rows, _) => rows = []
  | .error _, .error _ => shown = 0

/-- The number of the stored count and the number of entries. -/
theorem countOf_iff {shown : Nat} {typed : String × String} {count : Except String Int}
    {list : Except String (List CallRow × Option String)}
    (h : ∀ n rows, NoQuote typed.1 ∧ NoQuote typed.2 → count = .ok n → list = .ok (rows, none) →
      n = rows.length) :
    countOf count = lengthOf shown list ↔ InStep shown typed count list := by
  cases count with
  | error what =>
      cases list with
      | error what' =>
          show (0 : Int) = shown ↔ shown = 0
          omega
      | ok reply =>
          obtain ⟨rows, broken⟩ := reply
          show (0 : Int) = rows.length ↔ rows = []
          rw [← List.length_eq_zero_iff]
          omega
  | ok n =>
      cases list with
      | error what => exact Iff.rfl
      | ok reply =>
          obtain ⟨rows, broken⟩ := reply
          cases broken with
          | some what => exact Iff.rfl
          | none => exact ⟨.inr, fun hs => hs.elim (fun hq => h n rows hq rfl rfl) id⟩

/-- **Count and list.**  After a search, the count that is stored for the current filter is the
number of entries that the list then has, if and only if the answers are in step; on an unusable
database both stay as they were. -/
theorem counts_iff (p : Platform) (e : JournalEngine) (evaluate : String → CallRow → Bool)
    (isOk : Bool) (calls : List CallRow) (j : JournalEntry) (m : JournalModel)
    (f : JournalFilter) (typed : String) (list : List JournalEntry)
    (hf : m.currentFilter = some f)
    (hdoc : Documented p e evaluate f m.sortOrder m.bSortAsc typed calls) :
    let m' := m.setNameAndNumberFilter e isOk calls (doSearch p typed).1 (doSearch p typed).2
    m'.matchedCount f = (m'.getEntries p e isOk calls j list).1.length ↔
      if isOk then
        InStep list.length (doSearch p typed)
          (e.count ((Query.journalCount f typed).sql p) calls)
          (e.select ((Query.journalList (some f) m.sortOrder m.bSortAsc typed).sql p) calls)
      else m.matchedCount f = list.length := by
  cases isOk with
  | false => exact Iff.rfl
  | true =>
      intro m'
      obtain ⟨hcond, hcurrent, hso, hasc, hcount⟩ : _ ∧ m'.currentFilter = _ ∧ _ :=
        setNameAndNumberFilter_spec m e calls (doSearch p typed).1 (doSearch p typed).2 f
      rw [if_pos rfl, length_getEntries, hcount, hcond, hcurrent, hso, hasc, hf]
      refine countOf_iff fun n rows hq hn hrows => ?_
      have hperm := hdoc.select ((Query.read_iff p _).mpr hq) rows hrows
      rw [hdoc.count ((Query.read_iff p _).mpr hq) n hn, hperm.length_eq,
        List.countP_eq_length_filter]

/-! ### A search that fails -/

/-- A call from a person with an apostrophe in the name. -/
def fromONeil : CallRow := ⟨1, .incoming, .ok, "", "", 0, "110", "O'Neil", "", ""⟩

/-- The answers to the statements of all calls. -/
def allCallsEngine : JournalEngine :=
  ⟨fun _ calls => .ok calls.length, fun _ calls => .ok (calls, none)⟩

theorem documented_allCalls (p : Platform) (evaluate : String → CallRow → Bool)
    (calls : List CallRow) :
    Documented p allCallsEngine evaluate .allCalls .time false "" calls := by
  have hall : ∀ row ∈ calls, holds p evaluate .allCalls "" row = true := fun _ _ => rfl
  constructor
  · intro q _ n hn
    rw [List.countP_eq_length.mpr hall]
    exact (Except.ok.inj hn).symm
  · intro q _ rows hrows
    rw [List.filter_eq_self.mpr hall]
    exact .of_eq (congrArg Prod.fst (Except.ok.inj hrows)).symm

/-- Without a search, all calls are counted and shown. -/
theorem counts_allCalls :
    let m := (initial.selectFilter 3).setNameAndNumberFilter allCallsEngine true [fromONeil] "" ""
    m.matchedCount .allCalls = ((m.getEntries utcPlatform allCallsEngine true [fromONeil]
      (.create 0 0 0 .unknown 0) []).1.length : Int) :=
  (counts_iff utcPlatform allCallsEngine (fun _ _ => true) true [fromONeil]
    (.create 0 0 0 .unknown 0) (initial.selectFilter 3) .allCalls "" [] rfl
    (documented_allCalls _ _ _)).mpr (.inl ⟨by decide, by decide⟩)

/-- The engine on a statement with `like '%O'Neil%'`. -/
def refusing : JournalEngine :=
  ⟨fun _ _ => .error "near \"Neil\": syntax error", fun _ _ => .error "near \"Neil\": syntax error"⟩

/-- The name of the call in the list, typed into the search field: the count of all calls becomes
`0`, and the list keeps the call. -/
theorem search_keeps_rows :
    let m := initial.selectFilter 3
    let list := (m.getEntries utcPlatform allCallsEngine true [fromONeil]
      (.create 0 0 0 .unknown 0) []).1
    let m' := m.setNameAndNumberFilter refusing true [fromONeil] (doSearch utcPlatform "O'Neil").1
      (doSearch utcPlatform "O'Neil").2
    m.currentFilter = some .allCalls ∧
      Documented utcPlatform refusing (fun _ _ => true) .allCalls .time false "O'Neil"
        [fromONeil] ∧
      m'.matchedCount .allCalls = 0 ∧ list.length = 1 ∧
      (m'.getEntries utcPlatform refusing true [fromONeil] (.create 0 0 0 .unknown 0) list).1 =
        list := by
  refine ⟨rfl, ⟨?_, ?_⟩, rfl, rfl, rfl⟩
  · intro q _ n hn
    cases hn
  · intro q _ rows hrows
    cases hrows

end JournalModel
end Cmon
