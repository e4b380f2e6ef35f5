import Mathlib.Data.String.Basic
import Cmon.Library.Run
import Cmon.Library.Sorting
import Cmon.Journal.Counts

/-!
# Journal — the sorted list

`CJournalListCtrl`: a click on the header of a column turns the order, and the statement of the
list sorts the rows by a column of the table.  What the clicked column shows is made from the
entry, and need not be what the rows are sorted by.

* `JournalListCtrl.header_run`: after any clicks, the arrow stands at the column that was clicked
  last, and points in the direction of the statement.
* `JournalListCtrl.sorted_iff`: the list is in the order the header shows, exactly when the rows
  `Agree`.
-/

namespace Cmon
open Library

/-! ### The source -/

/-- The columns of `CJournalListCtrl`. -/
inductive JournalColumn where
  | type | time | name | caller | called | duration | result
  deriving DecidableEq, Repr

/-- What is shown of an entry: an image, the time by the clock on the wall, a text, minutes and
seconds, or the text of a result. -/
inductive Item where
  | image (img : Nat)
  | time (wallClock : Option String)
  | text (strRC : String)
  | duration (mins secs : Nat)
  | result (res : EntryResult)
  deriving DecidableEq, Repr

/-- `OnGetItemImage`. -/
def onGetItemImage (entry : JournalEntry) : Nat :=
  match entry.type with
  | .incoming => 1
  | .outgoing => 2
  | .unknown => 0

/-- `OnGetItemText`, the name. -/
def shownName (entry : JournalEntry) : String :=
  match entry.type with
  | .incoming => entry.callerName
  | .outgoing => entry.calledName
  | .unknown => ""

/-- The seconds of a duration, as an `unsigned`. -/
def shownSeconds (durationInSec : Int) : Nat := (durationInSec % 4294967296).toNat

/-- `OnGetItemText`, and the image of the first column. -/
def onGetItem (p : Platform) (entry : JournalEntry) : JournalColumn → Item
  | .type => .image (onGetItemImage entry)
  | .time => .time (entry.creation.map p.formatISOCombined)
  | .name => .text (shownName entry)
  | .caller => .text entry.callerAddress
  | .called => .text entry.calledAddress
  | .duration =>
      let secs := shownSeconds entry.durationInSec
      let mins := secs / 60
      .duration mins (secs - mins * 60)
  | .result => .result entry.result

/-- The rank of an enumerator. -/
def EntryType.rank : EntryType → Nat
  | .unknown => 0
  | .incoming => 1
  | .outgoing => 2

/-- The rank of an enumerator. -/
def EntryResult.rank : EntryResult → Nat
  | .unknown => 0
  | .ok => 1
  | .busy => 2
  | .notreached => 3
  | .failed => 4

/-- The order of the rows by a column of the table; texts are compared character by character. -/
def JournalSortOrder.Le (so : JournalSortOrder) (a b : CallRow) : Prop :=
  match so with
  | .type => a.type.rank ≤ b.type.rank
  | .time => a.tm1 ≤ b.tm1
  | .callerName => a.cln ≤ b.cln
  | .callerNr => a.clnr ≤ b.clnr
  | .calledNr => a.cdnr ≤ b.cdnr
  | .duration => a.dur ≤ b.dur
  | .result => a.res.rank ≤ b.res.rank

instance (so : JournalSortOrder) (a b : CallRow) : Decidable (so.Le a b) := by
  cases so <;> exact inferInstanceAs (Decidable (_ ≤ _))

/-- The order of what a column shows; no time comes first. -/
def Item.Le : Item → Item → Prop
  | .image a, .image b => a ≤ b
  | .time a, .time b => a.getD "" ≤ b.getD ""
  | .text a, .text b => a ≤ b
  | .duration mins secs, .duration mins' secs' => mins < mins' ∨ mins = mins' ∧ secs ≤ secs'
  | .result a, .result b => a.rank ≤ b.rank
  | _, _ => False

/-- The order `a` before `b`, upwards or downwards. -/
def directed {α : Type} (le : α → α → Prop) (bAsc : Bool) (a b : α) : Prop :=
  if bAsc then le a b else le b a

/-- `CJournalListCtrl`; an image of a header is `-1` for none, `3` for the arrow up and `4` for
the arrow down. -/
structure JournalListCtrl where
  sortColumn : Option JournalColumn
  bSortAsc : Bool
  image : JournalColumn → Int
  model : JournalModel

namespace JournalListCtrl

/-- `SetColumn`, with an image. -/
def setColumn (s : JournalListCtrl) (col : JournalColumn) (img : Int) : JournalListCtrl :=
  { s with image := fun c => if c = col then img else s.image c }

/-- `ToggleColumnSort`. -/
def toggleColumnSort (s : JournalListCtrl) (col : JournalColumn) : JournalListCtrl :=
  let s := s.sortColumn.elim s fun c => s.setColumn c (-1)
  let s := if some col = s.sortColumn then { s with bSortAsc := !s.bSortAsc } else s
  let s := { s with sortColumn := some col }
  s.setColumn col (if s.bSortAsc then 3 else 4)

/-- The `switch` of `OnColumnClick`. -/
def sortOrderOf : JournalColumn → JournalSortOrder
  | .type => .type
  | .time => .time
  | .name => .callerName
  | .caller => .callerNr
  | .called => .calledNr
  | .duration => .duration
  | .result => .result

/-- `OnColumnClick`. -/
def onColumnClick (s : JournalListCtrl) (col : JournalColumn) : JournalListCtrl :=
  let s := s.toggleColumnSort col
  { s with model := s.model.selectSortOrder (sortOrderOf col) s.bSortAsc }

/-- The constructor, with a model that is sorted as a new one is. -/
def create (m : JournalModel) : JournalListCtrl :=
  toggleColumnSort ⟨none, false, fun _ => -1,
    m.selectSortOrder JournalModel.initial.sortOrder JournalModel.initial.bSortAsc⟩ .time

/-! ### The header -/

/-- The arrow stands at the column, in the direction of the statement, and nowhere else. -/
structure Header (s : JournalListCtrl) (col : JournalColumn) : Prop where
  sortColumn : s.sortColumn = some col
  image : ∀ c, s.image c = if c = col then if s.bSortAsc then 3 else 4 else -1
  order : s.model.sortOrder = sortOrderOf col
  direction : s.model.bSortAsc = s.bSortAsc

/-- The column that was clicked last. -/
def lastClicked (clicks : List JournalColumn) : JournalColumn := clicks.getLast?.getD .time

theorem header_create (m : JournalModel) : Header (create m) .time :=
  ⟨rfl, fun _ => rfl, rfl, rfl⟩

theorem header_click {s : JournalListCtrl} {c : JournalColumn} (h : s.Header c)
    (col : JournalColumn) : (s.onColumnClick col).Header col := by
  have hsort : s.sortColumn.elim s (fun c => s.setColumn c (-1)) = s.setColumn c (-1) := by
    rw [h.sortColumn]
    rfl
  have hclear : ∀ d, (s.setColumn c (-1)).image d = -1 := by
    intro d
    show (if d = c then (-1 : Int) else s.image d) = -1
    rw [h.image d]
    split <;> rfl
  refine ⟨rfl, fun d => ?_, rfl, rfl⟩
  simp only [onColumnClick, toggleColumnSort, hsort]
  show (if d = col then _ else _) = if d = col then _ else _
  refine if_congr Iff.rfl rfl ?_
  split <;> exact hclear d

/-- **The header after any clicks.** -/
theorem header_run (m : JournalModel) (clicks : List JournalColumn) :
    (run onColumnClick (create m) clicks).Header (lastClicked clicks) := by
  have hrun : ∀ (clicks : List JournalColumn) (s : JournalListCtrl) (c : JournalColumn),
      s.Header c → (run onColumnClick s clicks).Header (clicks.getLast?.getD c) := by
    intro clicks
    induction clicks with
    | nil => exact fun _ _ h => h
    | cons col cols ih =>
        intro s c h
        rw [run_cons, List.getLast?_cons, Option.getD_some]
        exact ih _ col (header_click h col)
  exact hrun clicks _ _ (header_create m)

/-! ### What is shown of a row -/

section
variable {p : Platform} {a b : CallRow}

/-- What a column shows of the entry of a row. -/
def rowItem (p : Platform) (col : JournalColumn) (row : CallRow) : Item :=
  onGetItem p (JournalDb.loadRow p (.init 0 0 0 .unknown) row) col

theorem onGetItem_loadRow (p : Platform) (j : JournalEntry) (col : JournalColumn) (row : CallRow) :
    onGetItem p (JournalDb.loadRow p j row) col = rowItem p col row := by
  cases col <;> rfl


/-- The time of a row, as it is shown. -/
def wallClock (p : Platform) (row : CallRow) : String :=
  ((p.parseISOCombined row.tm1).map p.formatISOCombined).getD ""

/-- The name that is shown of a row. -/
def nameOf (row : CallRow) : String :=
  match row.type with
  | .incoming => row.cln
  | .outgoing => row.cdn
  | .unknown => ""

/-- **When the order of the rows is the order of what the column shows.**  Every column but the
time, the name and the duration shows what the rows are sorted by. -/
def Agree (p : Platform) (col : JournalColumn) (rows : List CallRow) : Prop :=
  match col with
  | .time => ∀ a ∈ rows, ∀ b ∈ rows, a.tm1 ≤ b.tm1 → wallClock p a ≤ wallClock p b
  | .name => ∀ a ∈ rows, ∀ b ∈ rows, a.cln ≤ b.cln → nameOf a ≤ nameOf b
  | .duration => ∀ a ∈ rows, ∀ b ∈ rows, a.dur ≤ b.dur → shownSeconds a.dur ≤ shownSeconds b.dur
  | .type | .caller | .called | .result => True

/-- Minutes and seconds are compared as the seconds are. -/
theorem duration_le {n n' : Nat} :
    (Item.duration (n / 60) (n - n / 60 * 60)).Le (.duration (n' / 60) (n' - n' / 60 * 60)) ↔
      n ≤ n' := by
  show n / 60 < n' / 60 ∨ n / 60 = n' / 60 ∧ n - n / 60 * 60 ≤ n' - n' / 60 * 60 ↔ n ≤ n'
  omega

theorem agree_iff (p : Platform) (col : JournalColumn) (rows : List CallRow) :
    (∀ a ∈ rows, ∀ b ∈ rows, (sortOrderOf col).Le a b → (rowItem p col a).Le (rowItem p col b)) ↔
      Agree p col rows := by
  cases col with
  | type =>
      refine iff_true_intro fun a _ b _ hle => ?_
      -- the images stand in the order of the enumerators
      have himage : ∀ row, rowItem p .type row = .image row.type.rank := by
        intro row
        show Item.image (match row.type with | .incoming => 1 | .outgoing => 2 | .unknown => 0) = _
        cases row.type <;> rfl
      rw [himage, himage]
      exact hle
  | time => exact Iff.rfl
  | name => exact Iff.rfl
  | caller => exact iff_true_intro fun _ _ _ _ hle => hle
  | called => exact iff_true_intro fun _ _ _ _ hle => hle
  | duration =>
      refine forall₂_congr fun a _ => forall₂_congr fun b _ => imp_congr_right fun _ => ?_
      exact duration_le
  | result => exact iff_true_intro fun _ _ _ _ hle => hle

/-- A time that reads back as it was written is shown as it is stored. -/
theorem agree_time {rows : List CallRow} (h : ∀ row ∈ rows, wallClock p row = row.tm1) :
    Agree p .time rows := by
  intro a ha b hb hle
  rwa [h a ha, h b hb]

/-- A duration that is no negative number is shown as it is stored. -/
theorem agree_duration {rows : List CallRow}
    (h : ∀ row ∈ rows, 0 ≤ row.dur ∧ row.dur < 4294967296) : Agree p .duration rows := by
  intro a ha b hb hle
  rw [shownSeconds, shownSeconds, Int.emod_eq_of_lt (h a ha).1 (h a ha).2,
    Int.emod_eq_of_lt (h b hb).1 (h b hb).2]
  omega

end

/-! ### The order of the list -/

instance {α : Type} (le : α → α → Prop) [DecidableRel le] (bAsc : Bool) :
    DecidableRel (directed le bAsc) := fun a b => by
  unfold directed
  infer_instance

theorem directed_trans (so : JournalSortOrder) (bAsc : Bool) (a b c : CallRow)
    (h : directed so.Le bAsc a b) (h' : directed so.Le bAsc b c) : directed so.Le bAsc a c := by
  cases bAsc with
  | true => cases so <;> exact le_trans h h'
  | false => cases so <;> exact le_trans h' h

theorem directed_total (so : JournalSortOrder) (bAsc : Bool) (a b : CallRow) :
    directed so.Le bAsc a b ∨ directed so.Le bAsc b a := by
  cases bAsc <;> cases so <;> exact le_total _ _

/-- What is shown of one row is in any order. -/
theorem item_refl : ∀ item : Item, item.Le item
  | .image _ => le_refl _
  | .time _ => le_refl _
  | .text _ => le_refl _
  | .duration _ _ => .inr ⟨rfl, le_refl _⟩
  | .result _ => le_refl _

/-- Upwards or downwards, one order implies the other. -/
theorem directed_imp {α : Type} {le r : α → α → Prop} (bAsc : Bool) (xs : List α) :
    (∀ a ∈ xs, ∀ b ∈ xs, directed le bAsc a b → directed r bAsc a b) ↔
      ∀ a ∈ xs, ∀ b ∈ xs, le a b → r a b := by
  cases bAsc with
  | true => exact Iff.rfl
  | false => exact ⟨fun h a ha b hb => h b hb a ha, fun h a ha b hb => h b hb a ha⟩

/-- What the list is to show: the rows that are selected by `sel`, sorted as the statement says,
stand in the direction of the arrow, by what its column shows. -/
def InOrder (p : Platform) (sel : CallRow → Bool) (calls : List CallRow) (s : JournalListCtrl) :
    Prop :=
  ∀ col, s.image col ≠ -1 → ∀ (e : JournalEngine) (rows : List CallRow) (j : JournalEntry)
      (list : List JournalEntry),
    e.select (journalListSql s.model.currentFilter s.model.sortOrder s.model.bSortAsc
        s.model.strNameAndNumberCond) calls = .ok (rows, none) →
      rows.Perm (calls.filter sel) →
        rows.Pairwise (directed s.model.sortOrder.Le s.model.bSortAsc) →
          (s.model.getEntries p e true calls j list).1.Pairwise
            (directed (fun a b => (onGetItem p a col).Le (onGetItem p b col)) (s.image col = 3))

/-- **The list is in the order the header shows.** -/
theorem sorted_iff (p : Platform) (sel : CallRow → Bool) (calls : List CallRow)
    (m : JournalModel) (clicks : List JournalColumn) :
    InOrder p sel calls (run onColumnClick (create m) clicks) ↔
      Agree p (lastClicked clicks) (calls.filter sel) := by
  have h := header_run m clicks
  generalize run onColumnClick (create m) clicks = s at h ⊢
  generalize lastClicked clicks = col at h ⊢
  have hitems : ∀ (j : JournalEntry) (rows : List CallRow),
      (JournalModel.loadRows p j rows).Pairwise
          (directed (fun a b => (onGetItem p a col).Le (onGetItem p b col)) s.bSortAsc) ↔
        rows.Pairwise
          (directed (fun a b => (rowItem p col a).Le (rowItem p col b)) s.bSortAsc) := by
    intro j rows
    have hl := List.pairwise_map (f := (onGetItem p · col)) (R := directed Item.Le s.bSortAsc)
      (l := JournalModel.loadRows p j rows)
    have hr := List.pairwise_map (f := rowItem p col) (R := directed Item.Le s.bSortAsc)
      (l := rows)
    rw [JournalModel.map_loadRows fun j row => onGetItem_loadRow p j col row] at hl
    exact hl.symm.trans hr
  have himage : s.image col = if s.bSortAsc then 3 else 4 := by rw [h.image, if_pos rfl]
  have harrow : decide (s.image col = 3) = s.bSortAsc := by
    rw [himage]
    cases s.bSortAsc <;> rfl
  have hrefl : ∀ a,
      directed (fun a b => (rowItem p col a).Le (rowItem p col b)) s.bSortAsc a a := by
    intro a
    rw [directed, ite_self]
    exact item_refl _
  rw [← agree_iff, ← directed_imp s.bSortAsc, ← h.order,
    ← Sorting.pairwise_iff (directed_trans _ _) (directed_total _ _) hrefl]
  constructor
  · intro hin ys hperm hsorted
    have hshown : s.image col ≠ -1 := by
      rw [himage]
      cases s.bSortAsc <;> decide
    have hlist := hin col hshown ⟨fun _ _ => .ok 0, fun _ _ => .ok (ys, none)⟩ ys
      (.init 0 0 0 .unknown) [] rfl hperm (h.direction.symm ▸ hsorted)
    rw [harrow] at hlist
    exact (hitems _ ys).mp hlist
  · intro hall c hc e rows j list hselect hperm hsorted
    have hcol : c = col := by
      by_contra hne
      exact hc ((h.image c).trans (if_neg hne))
    subst hcol
    rw [harrow, JournalModel.getEntries, if_pos rfl, hselect]
    exact (hitems j rows).mpr (hall rows hperm (h.direction ▸ hsorted))

/-! ### A name that is not sorted by -/

/-- A call to `Zoe`, of which no caller's name is known, and one from `Adam`. -/
def toZoeFromAdam : List CallRow :=
  [⟨1, .outgoing, .ok, "", "", 0, "", "", "110", "Zoe"⟩, ⟨2, .incoming, .ok, "", "", 0, "110",
    "Adam", "", ""⟩]

/-- One click on the name puts `Adam` before `Zoe`, below an arrow that points down. -/
theorem names_not_sorted : ¬ InOrder utcPlatform (fun _ => true) toZoeFromAdam
    (run onColumnClick (create .initial) [.name]) := by
  intro hin
  have hlist := hin .name (by decide) ⟨fun _ _ => .ok 0, fun _ calls => .ok (calls.reverse, none)⟩
    toZoeFromAdam.reverse (.init 0 0 0 .unknown) [] rfl (List.reverse_perm _) (by decide)
  have hle : "Zoe" ≤ "Adam" := (List.pairwise_cons.mp hlist).1 _ (.head _)
  exact absurd hle (by decide)

end JournalListCtrl
end Cmon
