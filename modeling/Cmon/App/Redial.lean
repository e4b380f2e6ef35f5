import Cmon.AddressBook.Contact
import Cmon.Library.Recent
import Cmon.Library.Run

/-!
# App — the numbers dialled last

`CDialDialog` keeps the numbers that were dialled with it, and offers the one in front.  A run of
the program opens the dialog any number of times, and dials from the menu of a contact too.

* `Redial.LastDialled`: the list is what its name says, the numbers dialled last.
* `Redial.lastDialled_step_iff`: what keeps it so in one step.
* `Redial.bounded_run`: no number twice and at most 20, in every run.
* `Redial.lastDialled_iff`: it is that list in every state of a run if and only if each step keeps
  it so.
-/

namespace Cmon
open Library

/-! ### The source -/

/-- A row of the popup. -/
structure DialItem where
  number : String
  type : Option NumberType
  note : String
  deriving DecidableEq, Repr

/-- `CDialDialog`: `m_strNumber`, and what its popup shows. -/
structure DialDialog where
  strNumber : String
  items : List DialItem
  deriving DecidableEq, Repr

namespace DialDialog

/-- The constructor; `callable` is `getCallableNumber` of a phone. -/
def create (callable : Phone → String) (vLastNumbers : List String) :
    Option Contact → DialDialog
  | some c =>
      ⟨(c.phones.map callable).headD "", c.phones.map fun ph => ⟨callable ph, ph.type, ph.note⟩⟩
  | none => ⟨vLastNumbers.headD "", vLastNumbers.map fun nr => ⟨nr, none, ""⟩⟩

/-- `SetNumber`. -/
def setNumber (callable : Phone → String) (dlg : DialDialog) (strNumber : String) : DialDialog :=
  { dlg with strNumber := callable ((Phone.create .general).setNumber strNumber) }

end DialDialog

/-- `EndModal` with `wxID_OK`: `m_vLastNumbers`, after `value` was entered. -/
def endModal (value : String) (vLastNumbers : List String) : List String :=
  let strNumber := trim value
  let bFound := vLastNumbers.any (strNumber == ·)
  let vLastNumbers := if !bFound then strNumber :: vLastNumbers else vLastNumbers
  if vLastNumbers.length > 20 then vLastNumbers.dropLast else vLastNumbers

/-- `m_vLastNumbers`, and the history of the program's run. -/
structure Redial where
  lastNumbers : List String
  dialled : List String
  deriving DecidableEq, Repr

/-- The dialog is closed, with what was entered, or a number is dialled from the menu of a contact;
without a call provider nothing is dialled. -/
inductive DialStep where
  | endModal (ok : Bool) (value : String) (provider : Bool)
  | quickCall (strNumber : String) (provider : Bool)
  deriving DecidableEq, Repr

namespace Redial

def start : Redial := ⟨[], []⟩

/-- `makeCall`. -/
def makeCall (s : Redial) (strNumber : String) (provider : Bool) : Redial :=
  if provider then { s with dialled := s.dialled ++ [strNumber] } else s

/-- One step: what follows `ShowModal`, and `OnCtxMakeQuickCall`. -/
def step (s : Redial) : DialStep → Redial
  | .endModal ok value provider =>
      if ok then
        { s with lastNumbers := endModal value s.lastNumbers }.makeCall (trim value) provider
      else s
  | .quickCall strNumber provider => s.makeCall strNumber provider

/-! ### The numbers dialled last -/

/-- The list has at most 20 numbers, none twice, the one dialled last in front; and they are the
numbers dialled most recently, in the order of their last use. -/
structure LastDialled (s : Redial) : Prop where
  nodup : s.lastNumbers.Nodup
  length_le : s.lastNumbers.length ≤ 20
  head : s.lastNumbers.head? = s.dialled.getLast?
  recent : s.lastNumbers = (Recent.recent s.dialled).take 20

/-- What keeps the list so: a number that is dialled with the dialog is new to the list or stands in
front, one that is dialled from the menu stands in front, and one that is not dialled, without a
call provider, stands in the list already. -/
def Fits (s : Redial) : DialStep → Prop
  | .endModal ok value provider => ok = true →
      if provider then s.lastNumbers.head? = some (trim value) ∨ trim value ∉ s.lastNumbers
      else trim value ∈ s.lastNumbers
  | .quickCall strNumber provider => provider = true → s.lastNumbers.head? = some strNumber

instance (s : Redial) (a : DialStep) : Decidable (s.Fits a) := by
  cases a <;> exact inferInstanceAs (Decidable (_ → _))

variable {s : Redial} {strNumber : String}

/-- The other parts follow. -/
theorem lastDialled_of_eq (h : s.lastNumbers = (Recent.recent s.dialled).take 20) :
    s.LastDialled := by
  refine ⟨?_, ?_, ?_, h⟩
  · rw [h]
    exact (Recent.nodup_recent _).sublist (List.take_sublist _ _)
  · rw [h]
    exact List.length_take_le _ _
  · rw [h, List.head?_take, if_neg (by decide), Recent.head?_recent]

theorem lastDialled_start : start.LastDialled := lastDialled_of_eq rfl

/-- A list that stays, when a number is dialled. -/
theorem lastDialled_kept_iff (h : s.LastDialled) :
    LastDialled { s with dialled := s.dialled ++ [strNumber] } ↔
      s.lastNumbers.head? = some strNumber := by
  constructor
  · intro hnew
    rw [hnew.head, List.getLast?_concat]
  · intro hhead
    refine lastDialled_of_eq ?_
    rw [h.recent, List.head?_take, if_neg (by decide)] at hhead
    show s.lastNumbers = _
    rw [Recent.recent_concat_of_head hhead, h.recent]

/-- `EndModal`, for a number of the list. -/
theorem endModal_of_mem {value : String} {numbers : List String} (h : trim value ∈ numbers)
    (hlen : numbers.length ≤ 20) : endModal value numbers = numbers := by
  have hfound : numbers.any (trim value == ·) = true :=
    List.any_eq_true.mpr ⟨_, h, beq_self_eq_true _⟩
  simp only [endModal, hfound, Bool.not_true, Bool.false_eq_true, if_false]
  exact if_neg (Nat.not_lt.mpr hlen)

/-- `EndModal`, for another number. -/
theorem endModal_of_notMem {value : String} {numbers : List String} (h : trim value ∉ numbers)
    (hlen : numbers.length ≤ 20) : endModal value numbers = trim value :: numbers.take 19 := by
  have hfound : numbers.any (trim value == ·) = false := by
    refine List.any_eq_false.mpr fun nr hnr heq => h ?_
    rwa [eq_of_beq heq]
  simp only [endModal, hfound, Bool.not_false, if_true]
  split_ifs with hlong
  · rw [List.length_cons] at hlong
    rw [List.dropLast_eq_take, List.length_cons, show numbers.length + 1 - 1 = 19 + 1 by omega,
      List.take_succ_cons]
  · rw [List.length_cons] at hlong
    rw [List.take_of_length_le (by omega)]

/-- **One step.** -/
theorem lastDialled_step_iff (h : s.LastDialled) (a : DialStep) :
    (s.step a).LastDialled ↔ s.Fits a := by
  cases a with
  | quickCall strNumber provider =>
      cases provider with
      | false => exact iff_of_true h nofun
      | true => exact (lastDialled_kept_iff h).trans ⟨fun hhead _ => hhead, fun hall => hall rfl⟩
  | endModal ok value provider =>
      cases ok with
      | false => exact iff_of_true h nofun
      | true =>
          by_cases hmem : trim value ∈ s.lastNumbers
          · have hstays := endModal_of_mem hmem h.length_le
            cases provider with
            | false =>
                refine iff_of_true ?_ fun _ => hmem
                show LastDialled { s with lastNumbers := endModal value s.lastNumbers }
                rwa [hstays]
            | true =>
                show LastDialled { lastNumbers := endModal value s.lastNumbers, dialled := _ } ↔ _
                rw [hstays]
                refine (lastDialled_kept_iff h).trans ⟨fun hhead _ => .inl hhead, fun hall => ?_⟩
                exact (hall rfl).resolve_right (not_not.mpr hmem)
          · have hfront := endModal_of_notMem hmem h.length_le
            cases provider with
            | false =>
                -- the number is in the list, and has not been dialled
                refine iff_of_false (fun hnew => ?_) fun hall => hmem (hall rfl)
                have hlist : endModal value s.lastNumbers = s.lastNumbers :=
                  hnew.recent.trans h.recent.symm
                rw [hfront] at hlist
                exact hmem (hlist ▸ List.mem_cons_self)
            | true =>
                refine iff_of_true (lastDialled_of_eq ?_) fun _ => .inr hmem
                have hnew : trim value ∉ (Recent.recent s.dialled).take (19 + 1) := h.recent ▸ hmem
                show endModal value s.lastNumbers = _
                rw [hfront, h.recent, List.take_take]
                exact (Recent.take_recent_new hnew).symm

/-- In every run the list has no number twice and at most 20. -/
theorem bounded_run (steps : List DialStep) :
    (run step start steps).lastNumbers.Nodup ∧ (run step start steps).lastNumbers.length ≤ 20 := by
  have hkeeps : ∀ (s : Redial) (strNumber : String) (provider : Bool),
      (s.makeCall strNumber provider).lastNumbers = s.lastNumbers := by
    intro s strNumber provider
    cases provider <;> rfl
  have hstart : start.lastNumbers.Nodup ∧ start.lastNumbers.length ≤ 20 :=
    ⟨List.nodup_nil, Nat.zero_le 20⟩
  refine run_inv (I := fun s : Redial => s.lastNumbers.Nodup ∧ s.lastNumbers.length ≤ 20)
    (fun s a hs => ?_) hstart steps
  obtain ⟨hnodup, hlen⟩ := hs
  cases a with
  | quickCall strNumber provider =>
      rw [step, hkeeps]
      exact ⟨hnodup, hlen⟩
  | endModal ok value provider =>
      cases ok with
      | false => exact ⟨hnodup, hlen⟩
      | true =>
          rw [step, if_pos rfl, hkeeps]
          by_cases hmem : trim value ∈ s.lastNumbers
          · rw [endModal_of_mem hmem hlen]
            exact ⟨hnodup, hlen⟩
          · rw [endModal_of_notMem hmem hlen]
            refine ⟨List.nodup_cons.mpr ⟨fun h => hmem (List.mem_of_mem_take h), ?_⟩, ?_⟩
            · exact hnodup.sublist (List.take_sublist 19 _)
            · exact Nat.succ_le_succ (List.length_take_le 19 _)

/-- **When the list is that of the numbers dialled last**, in every state of a run. -/
theorem lastDialled_iff (steps : List DialStep) :
    (∀ pre post, steps = pre ++ post → (run step start pre).LastDialled) ↔
      Along step Fits start steps := by
  have hsteps : Along step (fun s a => (s.step a).LastDialled) start steps ↔
      Along step Fits start steps :=
    along_congr (fun s a hs hfits => (lastDialled_step_iff hs a).mpr hfits)
      (fun s a hs => lastDialled_step_iff hs a) lastDialled_start
  rw [← hsteps, along_after_iff lastDialled_start]

/-- A dialog without a contact then offers the number dialled last. -/
theorem LastDialled.offered (h : s.LastDialled) (callable : Phone → String) :
    (DialDialog.create callable s.lastNumbers none).strNumber = s.dialled.getLast?.getD "" := by
  rw [← h.head, ← List.headD_eq_head?_getD]
  rfl

/-! ### A number that stays behind -/

/-- Two numbers are dialled, and the first one again. -/
def dialledAgain : List DialStep :=
  [.endModal true "110" true, .endModal true "112" true, .endModal true "110" true]

/-- The second one stays in front. -/
theorem dialled_again_stays :
    (run step start dialledAgain).lastNumbers = ["112", "110"] ∧
      (run step start dialledAgain).dialled = ["110", "112", "110"] ∧
      ¬ (run step start dialledAgain).LastDialled := by
  refine ⟨by decide, by decide, fun h => ?_⟩
  exact absurd h.head (by decide)

end Redial
end Cmon
