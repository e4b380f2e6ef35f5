import Cmon.Csv.Import
import Cmon.Shared.Platform

/-!
# CSV — the columns

The fields that the columns are selected for, and the header that shows them.  Indices are checked:
an `updateHeader` out of range is `none`.

* `CsvImportCtrl.updateHeader_eq`: when there is a choice for each selection, and a selection for
  each column, the header is shown, and `m_bOk` says that no field is selected twice.
* `session_columns`: this is so in every run, whatever is loaded and clicked.
-/

namespace Cmon
open Library

/-! ### The source -/

/-- What the header of a column shows. -/
structure HeaderItem where
  text : String
  image : Nat
  deriving DecidableEq, Repr

/-- `ID_POPUP`. -/
def idPopup : Int := 1800

namespace CsvImportCtrl

/-- The text of the header of column `i`. -/
def headerText (choices : List String) (i selection : Nat) : Option String :=
  if choices.isEmpty then some (toString i) else choices[selection]?

/-- The header of column `i`, and `bFoundSame`. -/
def headerItem (choices : List String) (s : CsvImportCtrl) (i : Nat) :
    Option (HeaderItem × Bool) := do
  let selection ← s.selections[i]?
  let text ← headerText choices i selection
  if selection = 0 then return (⟨text, 2⟩, false)
  let bFoundSame ← (List.range s.columnCount).anyM fun j =>
    if j = i then some false else s.selections[j]?.map (selection == ·)
  return (⟨text, if bFoundSame then 0 else 1⟩, bFoundSame)

/-- `updateHeader`. -/
def updateHeader (choices : List String) (s : CsvImportCtrl) :
    Option (CsvImportCtrl × List HeaderItem) := do
  let items ← (List.range s.columnCount).mapM (headerItem choices s)
  return ({ s with ok := items.all fun item => !item.2 }, items.map Prod.fst)

/-- The fields that the visible columns are selected for; 0 is none. -/
def selected (s : CsvImportCtrl) : List Nat := (s.selections.take s.columnCount).filter (· ≠ 0)

end CsvImportCtrl

/-- The control with `m_choices` and the header that it shows. -/
structure CsvImportView where
  ctrl : CsvImportCtrl
  choices : List String
  header : List HeaderItem
  deriving DecidableEq, Repr

/-- What is done to the control: a load, a click on the header of a column, and a choice from the
menu of one, whose id is in the range of the event table. -/
inductive CsvEvent where
  | loadFile (file : Option (List Char)) (pr : CsvParams)
  | columnClick (col : Int)
  | columnPopup (id col : Int)

namespace CsvImportView

/-- The constructor. -/
def create : CsvImportView := ⟨.create, [], []⟩

/-- `setChoices`. -/
def setChoices (v : CsvImportView) (choices : List String) : CsvImportView :=
  { v with choices := "Don't import" :: choices }

/-- The control with its header, after an `updateHeader`. -/
def updateHeader (v : CsvImportView) (s : CsvImportCtrl) : Option CsvImportView :=
  (s.updateHeader v.choices).map fun (ctrl, header) => { v with ctrl, header }

/-- `advanceSelection`. -/
def advanceSelection (v : CsvImportView) (col : Int) : Option CsvImportView :=
  match v.ctrl.selections[sizeT col]? with
  | none => some v
  | some selection =>
      let next := if selection + 1 ≥ v.choices.length then 0 else selection + 1
      v.updateHeader { v.ctrl with selections := v.ctrl.selections.set (sizeT col) next }

/-- `OnColumnClick`. -/
def onColumnClick (v : CsvImportView) (col : Int) : Option CsvImportView :=
  if v.choices.isEmpty then some v else v.advanceSelection col

/-- `OnColumnPopup`. -/
def onColumnPopup (v : CsvImportView) (id col : Int) : Option CsvImportView :=
  let selection := sizeT (id - idPopup)
  if selection < v.choices.length then
    if sizeT col < v.ctrl.selections.length then
      v.updateHeader { v.ctrl with selections := v.ctrl.selections.set (sizeT col) selection }
    else some v
  else some v

/-- `loadFile`. -/
def loadFile (v : CsvImportView) (file : Option (List Char)) (pr : CsvParams) :
    Option CsvImportView :=
  let (rc, ctrl) := v.ctrl.loadFile file pr
  if rc then v.updateHeader ctrl else some { v with ctrl }

/-- One event. -/
def step (v : CsvImportView) : CsvEvent → Option CsvImportView
  | .loadFile file pr => v.loadFile file pr
  | .columnClick col => v.onColumnClick col
  | .columnPopup id col =>
      if idPopup ≤ id ∧ id ≤ idPopup + 50 then v.onColumnPopup id col else some v

/-- The dialog, which sets the choices once. -/
def session (before : List CsvEvent) (choices : List String) (events : List CsvEvent) :
    Option CsvImportView := do
  let v ← before.foldlM step create
  events.foldlM step (v.setChoices choices)

/-- The event loads a file or changes a selection. -/
def Effective (v : CsvImportView) : CsvEvent → Prop
  | .loadFile file _ => file.isSome = true
  | .columnClick col => v.choices ≠ [] ∧ sizeT col < v.ctrl.selections.length
  | .columnPopup id col => (idPopup ≤ id ∧ id ≤ idPopup + 50) ∧
      sizeT (id - idPopup) < v.choices.length ∧ sizeT col < v.ctrl.selections.length

/-! ### The header -/

/-- There is a selection for each visible column, and a choice for each selection. -/
structure Valid (v : CsvImportView) : Prop where
  covered : v.ctrl.columnCount ≤ v.ctrl.selections.length
  valid : ∀ n ∈ v.ctrl.selections, n ≤ v.choices.length - 1
  marks : v.ctrl.invalidLines.length = v.ctrl.lines.length

end CsvImportView

namespace CsvImportCtrl
variable {choices : List String} {s : CsvImportCtrl}

/-- Column `i` is selected as another one is. -/
def foundSame (s : CsvImportCtrl) (i : Nat) : Bool :=
  s.selections.getD i 0 ≠ 0 &&
    (List.range s.columnCount).any fun j =>
      j ≠ i && s.selections.getD i 0 == s.selections.getD j 0

/-- `mapM` of a function that is defined on the list. -/
theorem mapM_eq_some {α β : Type} {f : α → Option β} {g : α → β} {l : List α}
    (h : ∀ a ∈ l, f a = some (g a)) : l.mapM f = some (l.map g) := by
  induction l with
  | nil => rfl
  | cons a l ih =>
      rw [List.mapM_cons, h a List.mem_cons_self, ih fun b hb => h b (List.mem_cons_of_mem a hb)]
      rfl

/-- `anyM` of a test that is defined on the list. -/
theorem anyM_eq_some {α : Type} {p : α → Option Bool} {q : α → Bool} {l : List α}
    (h : ∀ a ∈ l, p a = some (q a)) : l.anyM p = some (l.any q) := by
  induction l with
  | nil => rfl
  | cons a l ih =>
      rw [List.anyM_cons, h a List.mem_cons_self, ih fun b hb => h b (List.mem_cons_of_mem a hb)]
      cases hq : q a <;> simp [hq]

theorem getElem?_selections (hc : s.columnCount ≤ s.selections.length) {i : Nat}
    (hi : i < s.columnCount) : s.selections[i]? = some (s.selections.getD i 0) := by
  have hlt : i < s.selections.length := Nat.lt_of_lt_of_le hi hc
  rw [List.getD_eq_getElem?_getD, List.getElem?_eq_getElem hlt]
  rfl

theorem headerItem_eq (hc : s.columnCount ≤ s.selections.length)
    (hv : ∀ n ∈ s.selections, n ≤ choices.length - 1) {i : Nat} (hi : i < s.columnCount) :
    ∃ item, headerItem choices s i = some (item, s.foundSame i) := by
  have hget := getElem?_selections hc hi
  obtain ⟨text, htext⟩ : ∃ text, headerText choices i (s.selections.getD i 0) = some text := by
    have hle := hv _ (List.mem_of_getElem? hget)
    cases choices with
    | nil => exact ⟨_, rfl⟩
    | cons t ts => exact ⟨_, List.getElem?_eq_getElem (Nat.lt_succ_of_le hle)⟩
  have hany : ((List.range s.columnCount).anyM fun j =>
      if j = i then some false else s.selections[j]?.map (s.selections.getD i 0 == ·)) =
      some ((List.range s.columnCount).any fun j =>
        j ≠ i && s.selections.getD i 0 == s.selections.getD j 0) := by
    refine anyM_eq_some fun j hj => ?_
    rw [getElem?_selections hc (List.mem_range.mp hj)]
    by_cases hji : j = i <;> simp [hji]
  rw [headerItem, hget, Option.bind_eq_bind, Option.bind_some, htext, Option.bind_eq_bind,
    Option.bind_some]
  by_cases hzero : s.selections.getD i 0 = 0
  · rw [if_pos hzero, foundSame, hzero]
    exact ⟨⟨text, 2⟩, rfl⟩
  · rw [if_neg hzero, hany, foundSame, decide_eq_true hzero, Bool.true_and]
    exact ⟨_, rfl⟩

theorem foundSame_iff {i : Nat} : s.foundSame i = true ↔
    s.selections.getD i 0 ≠ 0 ∧
      ∃ j < s.columnCount, j ≠ i ∧ s.selections.getD i 0 = s.selections.getD j 0 := by
  simp [foundSame]

/-- No column is selected as another one is. -/
theorem forall_foundSame (hc : s.columnCount ≤ s.selections.length) :
    (∀ i < s.columnCount, s.foundSame i = false) ↔ s.selected.Nodup := by
  have hlen : (s.selections.take s.columnCount).length = s.columnCount := by
    rw [List.length_take]
    exact Nat.min_eq_left hc
  have hget : ∀ i (hi : i < (s.selections.take s.columnCount).length),
      (s.selections.take s.columnCount)[i] = s.selections.getD i 0 := by
    intro i hi
    have hsel := getElem?_selections hc (hlen ▸ hi)
    rw [List.getElem_take]
    exact (List.getElem?_eq_some_iff.mp hsel).2
  rw [selected, List.Nodup, List.pairwise_filter, List.pairwise_iff_getElem]
  constructor
  · intro h i j hi hj hij hnz _ heq
    rw [hget i hi] at hnz heq
    rw [hget j hj] at heq
    have hsame : s.foundSame i = true :=
      foundSame_iff.mpr ⟨of_decide_eq_true hnz, j, hlen ▸ hj, Nat.ne_of_gt hij, heq⟩
    exact Bool.false_ne_true ((h i (hlen ▸ hi)).symm.trans hsame)
  · intro h i hi
    rw [Bool.eq_false_iff]
    intro hsame
    obtain ⟨hnz, j, hj, hji, heq⟩ := foundSame_iff.mp hsame
    have hi' : i < (s.selections.take s.columnCount).length := hlen.symm ▸ hi
    have hj' : j < (s.selections.take s.columnCount).length := hlen.symm ▸ hj
    rcases Nat.lt_or_gt_of_ne hji with hlt | hlt
    · refine h j i hj' hi' hlt ?_ ?_ ?_
      · rw [hget j hj', ← heq]
        exact decide_eq_true hnz
      · rw [hget i hi']
        exact decide_eq_true hnz
      · rw [hget i hi', hget j hj', heq]
    · refine h i j hi' hj' hlt ?_ ?_ ?_
      · rw [hget i hi']
        exact decide_eq_true hnz
      · rw [hget j hj', ← heq]
        exact decide_eq_true hnz
      · rw [hget i hi', hget j hj', heq]

/-- **The header is shown,** and `m_bOk` says that no field is selected twice. -/
theorem updateHeader_eq (hc : s.columnCount ≤ s.selections.length)
    (hv : ∀ n ∈ s.selections, n ≤ choices.length - 1) :
    ∃ header, s.updateHeader choices = some ({ s with ok := s.selected.Nodup }, header) := by
  choose item hitem using fun i : Fin s.columnCount => headerItem_eq hc hv i.2
  have hitems : (List.range s.columnCount).mapM (headerItem choices s) =
      some ((List.range s.columnCount).map fun i =>
        (if h : i < s.columnCount then item ⟨i, h⟩ else ⟨"", 0⟩, s.foundSame i)) := by
    refine mapM_eq_some fun i hi => ?_
    rw [dif_pos (List.mem_range.mp hi)]
    exact hitem ⟨i, List.mem_range.mp hi⟩
  rw [updateHeader, hitems, Option.bind_eq_bind, Option.bind_some]
  refine ⟨_, congrArg some (Prod.ext ?_ rfl)⟩
  have hok : (List.all ((List.range s.columnCount).map fun i =>
      (if h : i < s.columnCount then item ⟨i, h⟩ else ⟨"", 0⟩, s.foundSame i))
        fun item => !item.2) = decide s.selected.Nodup := by
    rw [Bool.eq_iff_iff, decide_eq_true_iff, ← forall_foundSame hc]
    simp
  show ({ s with ok := _ } : CsvImportCtrl) = { s with ok := decide s.selected.Nodup }
  rw [hok]

end CsvImportCtrl

namespace CsvImportView
variable {v : CsvImportView}

/-- What an `updateHeader` leaves of the control. -/
theorem Valid.updateHeader {s : CsvImportCtrl} (hc : s.columnCount ≤ s.selections.length)
    (hv : ∀ n ∈ s.selections, n ≤ v.choices.length - 1)
    (hm : s.invalidLines.length = s.lines.length) :
    ∃ v', v.updateHeader s = some v' ∧ Valid v' ∧ v'.choices = v.choices ∧
      (v'.ctrl.ok = true ↔ v'.ctrl.selected.Nodup) := by
  obtain ⟨header, hheader⟩ := CsvImportCtrl.updateHeader_eq hc hv
  refine ⟨{ v with ctrl := { s with ok := s.selected.Nodup }, header }, ?_, ⟨hc, hv, hm⟩, rfl, ?_⟩
  · rw [CsvImportView.updateHeader, hheader]
    rfl
  · exact decide_eq_true_iff

/-- A selection that is changed to a choice. -/
theorem Valid.set (h : Valid v) (col : Nat) {n : Nat} (hn : n ≤ v.choices.length - 1) :
    ∃ v', v.updateHeader { v.ctrl with selections := v.ctrl.selections.set col n } = some v' ∧
      Valid v' ∧ v'.choices = v.choices ∧ (v'.ctrl.ok = true ↔ v'.ctrl.selected.Nodup) := by
  refine Valid.updateHeader ?_ ?_ h.marks
  · rw [List.length_set]
    exact h.covered
  · intro m hm
    rcases List.mem_or_eq_of_mem_set hm with hm | rfl
    · exact h.valid m hm
    · exact hn

/-- A load has a selection for each of its columns. -/
theorem Valid.loadFile (h : Valid v) (stream : List Char) (pr : CsvParams) :
    ∃ v', v.loadFile (some stream) pr = some v' ∧ Valid v' ∧ v'.choices = v.choices ∧
      (v'.ctrl.ok = true ↔ v'.ctrl.selected.Nodup) := by
  refine Valid.updateHeader (s := (v.ctrl.loadFile (some stream) pr).2) ?_ ?_
    (List.length_map _)
  · show ((readLines pr pr.nLineOffset v.ctrl.line [] stream).1.map List.length).foldl max 0 ≤
      (v.ctrl.selections ++ List.replicate _ 0).length
    rw [List.length_append, List.length_replicate]
    omega
  · intro n hn
    rcases List.mem_append.mp hn with hn | hn
    · exact h.valid n hn
    · rw [List.eq_of_mem_replicate hn]
      exact Nat.zero_le _

/-- **One event.** -/
theorem step_valid (h : Valid v) (e : CsvEvent) :
    ∃ v', v.step e = some v' ∧ Valid v' ∧ v'.choices = v.choices ∧
      (v.Effective e → (v'.ctrl.ok = true ↔ v'.ctrl.selected.Nodup)) := by
  cases e with
  | loadFile file pr =>
      cases file with
      | none => exact ⟨_, rfl, ⟨h.covered, h.valid, h.marks⟩, rfl, nofun⟩
      | some stream =>
          obtain ⟨v', hv', hvalid, hchoices, hok⟩ := h.loadFile stream pr
          exact ⟨v', hv', hvalid, hchoices, fun _ => hok⟩
  | columnClick col =>
      by_cases hempty : v.choices = []
      · have hstep : v.step (.columnClick col) = some v := by
          rw [step, onColumnClick, hempty]
          rfl
        exact ⟨v, hstep, h, rfl, fun heff => absurd hempty heff.1⟩
      · have hstep : v.step (.columnClick col) = v.advanceSelection col := by
          rw [step, onColumnClick, if_neg (by simpa using hempty)]
        rw [hstep, advanceSelection]
        cases hsel : v.ctrl.selections[sizeT col]? with
        | none =>
            have hle := List.getElem?_eq_none_iff.mp hsel
            exact ⟨v, rfl, h, rfl, fun heff => absurd heff.2 (Nat.not_lt.mpr hle)⟩
        | some selection =>
            obtain ⟨v', hv', hvalid, hchoices, hok⟩ := h.set (sizeT col)
              (n := if selection + 1 ≥ v.choices.length then 0 else selection + 1)
              (by split <;> omega)
            exact ⟨v', hv', hvalid, hchoices, fun _ => hok⟩
  | columnPopup id col =>
      rw [step]
      by_cases hid : idPopup ≤ id ∧ id ≤ idPopup + 50
      · rw [if_pos hid, onColumnPopup]
        by_cases hsel : sizeT (id - idPopup) < v.choices.length
        · rw [if_pos hsel]
          by_cases hcol : sizeT col < v.ctrl.selections.length
          · rw [if_pos hcol]
            obtain ⟨v', hv', hvalid, hchoices, hok⟩ := h.set (sizeT col) (Nat.le_sub_one_of_lt hsel)
            exact ⟨v', hv', hvalid, hchoices, fun _ => hok⟩
          · rw [if_neg hcol]
            exact ⟨v, rfl, h, rfl, fun heff => absurd heff.2.2 hcol⟩
        · rw [if_neg hsel]
          exact ⟨v, rfl, h, rfl, fun heff => absurd heff.2.1 hsel⟩
      · rw [if_neg hid]
        exact ⟨v, rfl, h, rfl, fun heff => absurd heff.1 hid⟩

/-- A run of events. -/
theorem run_valid (h : Valid v) (events : List CsvEvent) :
    ∃ v', events.foldlM step v = some v' ∧ Valid v' ∧ v'.choices = v.choices := by
  induction events generalizing v with
  | nil => exact ⟨v, rfl, h, rfl⟩
  | cons e events ih =>
      obtain ⟨v₁, hstep, hvalid, hchoices, -⟩ := step_valid h e
      obtain ⟨v', hrun, hvalid', hchoices'⟩ := ih hvalid
      refine ⟨v', ?_, hvalid', hchoices'.trans hchoices⟩
      rw [List.foldlM_cons, hstep]
      exact hrun

/-- The dialog, up to any event. -/
theorem session_valid (before : List CsvEvent) (choices : List String) (events : List CsvEvent) :
    ∃ v, session before choices events = some v ∧ Valid v ∧
      v.choices = "Don't import" :: choices := by
  have hcreate : Valid create := ⟨Nat.le_refl 0, nofun, rfl⟩
  obtain ⟨v₀, hbefore, hvalid, hnone⟩ := run_valid hcreate before
  have hset : Valid (v₀.setChoices choices) := by
    refine ⟨hvalid.covered, fun n hn => ?_, hvalid.marks⟩
    -- before the choices are set, nothing is selected
    have hzero := hvalid.valid n hn
    rw [hnone] at hzero
    exact Nat.le_trans hzero (Nat.zero_le _)
  obtain ⟨v, hrun, hvalid', hchoices⟩ := run_valid hset events
  refine ⟨v, ?_, hvalid', hchoices⟩
  rw [session, hbefore]
  exact hrun

/-- **The columns in every run**: there is a selection for each visible column, a choice for each
selection, no index is out of range, and an event that loads a file or changes a selection leaves
`m_bOk` true if and only if no field is selected for two columns. -/
theorem session_columns (before : List CsvEvent) (choices : List String)
    (events : List CsvEvent) :
    ∃ v, session before choices events = some v ∧
      v.ctrl.columnCount ≤ v.ctrl.selections.length ∧
      (∀ n ∈ v.ctrl.selections, n < v.choices.length) ∧
      ∀ e, ∃ v', v.step e = some v' ∧
        (v.Effective e → (v'.ctrl.ok = true ↔ v'.ctrl.selected.Nodup)) := by
  obtain ⟨v, hv, hvalid, hchoices⟩ := session_valid before choices events
  refine ⟨v, hv, hvalid.covered, fun n hn => ?_, fun e => ?_⟩
  · have hle := hvalid.valid n hn
    rw [hchoices] at hle ⊢
    exact Nat.lt_succ_of_le hle
  · obtain ⟨v', hstep, -, -, hok⟩ := step_valid hvalid e
    exact ⟨v', hstep, hok⟩

/-- Two columns selected for the first field. -/
example : (session [] ["Title"] [.loadFile (some "a,b\n".toList) ⟨',', true, '"', 0⟩,
    .columnClick 0, .columnClick 1]).map (fun v => (v.ctrl.ok, v.header)) =
      some (false, [⟨"Title", 0⟩, ⟨"Title", 0⟩]) := by
  decide +kernel

end CsvImportView
end Cmon
