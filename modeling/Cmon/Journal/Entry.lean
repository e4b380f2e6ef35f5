import Cmon.Shared.Platform
import Cmon.Plugin.CallMonitor

/-!
# Journal — the entry

`CJournalEntry`: the record of one call, its setters, and the two switch statements that follow
a call, `CallState2JournalState` (from the status a plug-in reports to the entry's state) and
`setState` (from the entry's state to its result, begin and duration).

An object has an address (`self`), which tells two entries of equal content apart; no function
of the program reads it as data.  The picture and the notification window are left out: nothing
of them is stored.

Every setter raises the dirty flag when it changes a stored value.  `Edited e e'` is what this
amounts to: if `e'` is clean then so was `e`, and `e'` stores what `e` stores.
-/

namespace Cmon

/-- `CJournalEntry::TType`. -/
inductive EntryType where
  | unknown | incoming | outgoing
  deriving DecidableEq, Repr

/-- `CJournalEntry::TState`. -/
inductive EntryState where
  | unknown | pending | connected | disconnected | busy | onhold
  deriving DecidableEq, Repr

/-- `CJournalEntry::TResult`. -/
inductive EntryResult where
  | unknown | ok | busy | notreached | failed
  deriving DecidableEq, Repr

/-- `CallType2JournalType`. -/
def callType2JournalType : CallType → EntryType
  | .incoming => .incoming
  | .outgoing => .outgoing
  | .unknown => .unknown

/-- `CallState2JournalState`. -/
def callState2JournalState : CallStatus → EntryState
  | .offering | .waitDialtone | .dialtone | .dialing | .proceeding | .ringback => .pending
  | .connected => .connected
  | .busy => .busy
  | .disconnected => .disconnected
  | .onhold | .conferenced => .onhold
  | .unknown | .idle => .unknown

/-- `CJournalEntry`. -/
structure JournalEntry where
  self : Nat
  pid : Nat
  cid : Nat
  dbKey : Int
  dirty : Bool
  resolvingCaller : Bool
  resolvingCalled : Bool
  type : EntryType
  result : EntryResult
  state : EntryState
  creation : Option Int
  begin : Option Int
  durationInSec : Int
  callerAddress : String
  calledAddress : String
  callerName : String
  calledName : String
  deriving DecidableEq, Repr

namespace JournalEntry

/-- The flag after a value has been stored: `m_bDirty || (old != new)`. -/
def mark {α : Type} [DecidableEq α] (e : JournalEntry) (old new : α) : Bool :=
  e.dirty || old != new

/-- The flag after a date has been stored; two dates are only compared when both are valid. -/
def markDate (e : JournalEntry) : Option Int → Option Int → Bool
  | some _, none => true
  | none, some _ => true
  | some old, some new => e.mark old new
  | none, none => e.dirty

def setCallerAddress (e : JournalEntry) (strAddress : String) : JournalEntry :=
  { e with dirty := e.mark e.callerAddress strAddress, callerAddress := strAddress }

def setCalledAddress (e : JournalEntry) (strAddress : String) : JournalEntry :=
  { e with dirty := e.mark e.calledAddress strAddress, calledAddress := strAddress }

def setCallerName (e : JournalEntry) (strName : String) : JournalEntry :=
  { e with dirty := e.mark e.callerName strName, callerName := strName }

def setCalledName (e : JournalEntry) (strName : String) : JournalEntry :=
  { e with dirty := e.mark e.calledName strName, calledName := strName }

def setResult (e : JournalEntry) (result : EntryResult) : JournalEntry :=
  { e with dirty := e.mark e.result result, result }

def setCreation (e : JournalEntry) (dt : Option Int) : JournalEntry :=
  { e with dirty := e.markDate e.creation dt, creation := dt }

def setBegin (e : JournalEntry) (dt : Option Int) : JournalEntry :=
  { e with dirty := e.markDate e.begin dt, begin := dt }

def setDurationInSec (e : JournalEntry) (ll : Int) : JournalEntry :=
  { e with dirty := e.mark e.durationInSec ll, durationInSec := ll }

def setType (e : JournalEntry) (type : EntryType) : JournalEntry :=
  { e with dirty := e.mark e.type type, type }

def setDbKey (e : JournalEntry) (key : Int) : JournalEntry :=
  { e with dirty := e.mark e.dbKey key, dbKey := key }

def setDirty (e : JournalEntry) (flag : Bool) : JournalEntry := { e with dirty := flag }

def setResolvingCaller (e : JournalEntry) : JournalEntry := { e with resolvingCaller := true }

def setResolvingCalled (e : JournalEntry) : JournalEntry := { e with resolvingCalled := true }

def setPid (e : JournalEntry) (val : Nat) : JournalEntry := { e with pid := val }

def setCid (e : JournalEntry) (val : Nat) : JournalEntry := { e with cid := val }

def setBeginNow (e : JournalEntry) (now : Int) : JournalEntry :=
  { e with dirty := true, begin := some now }

/-- The time since the begin; the callers check that the begin is valid. -/
def setEndNow (e : JournalEntry) (now : Int) : JournalEntry :=
  { e with dirty := true, durationInSec := now - e.begin.getD now }

/-- The two `switch` statements of `setState`, on the type and the new state. -/
def enterState (e : JournalEntry) (now : Int) (newState : EntryState) : JournalEntry :=
  match e.type, newState with
  | .outgoing, .pending => e.setResult .notreached
  | .outgoing, .connected => (e.setBeginNow now).setResult .ok
  | .outgoing, .disconnected => if e.begin.isSome then e.setEndNow now else e
  | .outgoing, .busy => e.setResult .busy
  | .incoming, .connected =>
      if e.state ≠ .connected then (e.setResult .ok).setBeginNow now else e
  | .incoming, .disconnected => if e.begin.isSome then e.setEndNow now else e
  | _, _ => e

def setState (e : JournalEntry) (now : Int) (newState : EntryState) : JournalEntry :=
  { (e.setDirty (e.mark e.state newState)).enterState now newState with state := newState }

/-- The members as the constructor's initialisers leave them. -/
def init (self pid cid : Nat) (type : EntryType) : JournalEntry where
  self := self
  pid := pid
  cid := cid
  dbKey := 0
  dirty := false
  resolvingCaller := false
  resolvingCalled := false
  type := type
  result := .unknown
  state := .unknown
  creation := none
  begin := none
  durationInSec := 0
  callerAddress := ""
  calledAddress := ""
  callerName := ""
  calledName := ""

/-- The constructor. -/
def create (self pid cid : Nat) (type : EntryType) (now : Int) : JournalEntry :=
  let e := (init self pid cid type).setCreation (some now)
  if type = .incoming then e.setResult .notreached else e

/-! ### What the setters leave alone -/

@[simp] theorem create_self (self pid cid : Nat) (type : EntryType) (now : Int) :
    (create self pid cid type now).self = self := by
  unfold create; split <;> rfl

@[simp] theorem create_dbKey (self pid cid : Nat) (type : EntryType) (now : Int) :
    (create self pid cid type now).dbKey = 0 := by
  unfold create; split <;> rfl

@[simp] theorem create_type (self pid cid : Nat) (type : EntryType) (now : Int) :
    (create self pid cid type now).type = type := by
  unfold create; split <;> rfl

@[simp] theorem create_durationInSec (self pid cid : Nat) (type : EntryType) (now : Int) :
    (create self pid cid type now).durationInSec = 0 := by
  unfold create; split <;> rfl

/-- A new entry is to be saved. -/
@[simp] theorem create_dirty (self pid cid : Nat) (type : EntryType) (now : Int) :
    (create self pid cid type now).dirty = true := by
  unfold create; split <;> rfl

section
variable (e : JournalEntry) (now : Int) (s : EntryState)

/-- The values no state writes. -/
theorem enterState_frame : (e.enterState now s).self = e.self ∧ (e.enterState now s).dbKey = e.dbKey ∧
    (e.enterState now s).type = e.type ∧ (e.enterState now s).creation = e.creation ∧
    (e.enterState now s).callerAddress = e.callerAddress ∧
    (e.enterState now s).calledAddress = e.calledAddress ∧
    (e.enterState now s).callerName = e.callerName ∧
    (e.enterState now s).calledName = e.calledName := by
  simp only [enterState]
  split <;> (try split) <;> exact ⟨rfl, rfl, rfl, rfl, rfl, rfl, rfl, rfl⟩

@[simp] theorem setState_self : (e.setState now s).self = e.self :=
  (enterState_frame _ now s).1

@[simp] theorem setState_type : (e.setState now s).type = e.type :=
  (enterState_frame _ now s).2.2.1

@[simp] theorem setState_dbKey : (e.setState now s).dbKey = e.dbKey :=
  (enterState_frame _ now s).2.1

/-- Only the end of a conversation writes a duration. -/
theorem setState_durationInSec (h : s ≠ .disconnected) :
    (e.setState now s).durationInSec = e.durationInSec := by
  show ((e.setDirty _).enterState now s).durationInSec = e.durationInSec
  simp only [enterState]
  split <;> first | rfl | exact absurd rfl h | (split <;> rfl)

end

/-! ### The dirty flag -/

/-- What a row of the journal holds of an entry. -/
def stored (e : JournalEntry) : EntryType × EntryResult × Option Int × Option Int × Int ×
    String × String × String × String :=
  (e.type, e.result, e.creation, e.begin, e.durationInSec, e.callerAddress, e.callerName,
    e.calledAddress, e.calledName)

/-- If `e'` is clean, nothing stored has changed since `e`, which was clean too. -/
def Edited (e e' : JournalEntry) : Prop :=
  e'.dirty = false → e.dirty = false ∧ e'.stored = e.stored

namespace Edited
variable {e e' e'' : JournalEntry}

theorem refl (e : JournalEntry) : Edited e e := fun h => ⟨h, rfl⟩

theorem trans (h : Edited e e') (h' : Edited e' e'') : Edited e e'' := fun hd => by
  obtain ⟨h₁, h₂⟩ := h' hd
  obtain ⟨h₃, h₄⟩ := h h₁
  exact ⟨h₃, h₂.trans h₄⟩

theorem of_dirty (h : e'.dirty = true) : Edited e e' := fun hd => by rw [h] at hd; cases hd

theorem setCallerAddress (s : String) : Edited e (e.setCallerAddress s) := fun h => by
  simp only [JournalEntry.setCallerAddress, mark, Bool.or_eq_false_iff, bne_eq_false_iff_eq] at h
  obtain ⟨hd, rfl⟩ := h
  exact ⟨hd, rfl⟩

theorem setCalledAddress (s : String) : Edited e (e.setCalledAddress s) := fun h => by
  simp only [JournalEntry.setCalledAddress, mark, Bool.or_eq_false_iff, bne_eq_false_iff_eq] at h
  obtain ⟨hd, rfl⟩ := h
  exact ⟨hd, rfl⟩

theorem setCallerName (s : String) : Edited e (e.setCallerName s) := fun h => by
  simp only [JournalEntry.setCallerName, mark, Bool.or_eq_false_iff, bne_eq_false_iff_eq] at h
  obtain ⟨hd, rfl⟩ := h
  exact ⟨hd, rfl⟩

theorem setCalledName (s : String) : Edited e (e.setCalledName s) := fun h => by
  simp only [JournalEntry.setCalledName, mark, Bool.or_eq_false_iff, bne_eq_false_iff_eq] at h
  obtain ⟨hd, rfl⟩ := h
  exact ⟨hd, rfl⟩

theorem setResult (r : EntryResult) : Edited e (e.setResult r) := fun h => by
  simp only [JournalEntry.setResult, mark, Bool.or_eq_false_iff, bne_eq_false_iff_eq] at h
  obtain ⟨hd, rfl⟩ := h
  exact ⟨hd, rfl⟩

theorem setDurationInSec (ll : Int) : Edited e (e.setDurationInSec ll) := fun h => by
  simp only [JournalEntry.setDurationInSec, mark, Bool.or_eq_false_iff, bne_eq_false_iff_eq] at h
  obtain ⟨hd, rfl⟩ := h
  exact ⟨hd, rfl⟩

theorem setType (type : EntryType) : Edited e (e.setType type) := fun h => by
  simp only [JournalEntry.setType, mark, Bool.or_eq_false_iff, bne_eq_false_iff_eq] at h
  obtain ⟨hd, rfl⟩ := h
  exact ⟨hd, rfl⟩

theorem markDate_eq_false {old new : Option Int} (h : e.markDate old new = false) :
    e.dirty = false ∧ old = new := by
  cases old <;> cases new <;> simp_all [markDate, mark]

theorem setCreation (dt : Option Int) : Edited e (e.setCreation dt) := fun h => by
  obtain ⟨hd, rfl⟩ := markDate_eq_false h
  exact ⟨hd, rfl⟩

theorem setBegin (dt : Option Int) : Edited e (e.setBegin dt) := fun h => by
  obtain ⟨hd, rfl⟩ := markDate_eq_false h
  exact ⟨hd, rfl⟩

theorem setResolvingCaller : Edited e e.setResolvingCaller := fun h => ⟨h, rfl⟩

theorem setResolvingCalled : Edited e e.setResolvingCalled := fun h => ⟨h, rfl⟩

theorem setBeginNow (now : Int) : Edited e (e.setBeginNow now) := of_dirty rfl

theorem setEndNow (now : Int) : Edited e (e.setEndNow now) := of_dirty rfl

theorem enterState (now : Int) (s : EntryState) : Edited e (e.enterState now s) := by
  simp only [JournalEntry.enterState]
  split
  · exact setResult _
  · exact (setBeginNow now).trans (setResult _)
  · split
    · exact setEndNow now
    · exact refl _
  · exact setResult _
  · split
    · exact (setResult _).trans (setBeginNow now)
    · exact refl _
  · split
    · exact setEndNow now
    · exact refl _
  · exact refl _

theorem setState (now : Int) (s : EntryState) : Edited e (e.setState now s) := by
  have h₀ : Edited e (e.setDirty (e.mark e.state s)) := fun h => by
    simp only [setDirty, mark, Bool.or_eq_false_iff] at h
    exact ⟨h.1, rfl⟩
  -- the state itself is not stored
  have h₁ : ∀ e : JournalEntry, Edited e { e with state := s } := fun _ h => ⟨h, rfl⟩
  exact (h₀.trans (enterState now s)).trans (h₁ _)

end Edited

/-! ### Names and addresses -/

/-- `e'` differs from `e` in the names and addresses of the two sides, if at all. -/
structure Relabelled (e e' : JournalEntry) : Prop where
  self : e'.self = e.self
  dbKey : e'.dbKey = e.dbKey
  type : e'.type = e.type
  result : e'.result = e.result
  creation : e'.creation = e.creation
  begin : e'.begin = e.begin
  durationInSec : e'.durationInSec = e.durationInSec
  edited : Edited e e'

namespace Relabelled
variable {e e' e'' : JournalEntry}

theorem refl (e : JournalEntry) : Relabelled e e := ⟨rfl, rfl, rfl, rfl, rfl, rfl, rfl, .refl e⟩

theorem trans (h : Relabelled e e') (h' : Relabelled e' e'') : Relabelled e e'' :=
  ⟨h'.self.trans h.self, h'.dbKey.trans h.dbKey, h'.type.trans h.type, h'.result.trans h.result,
    h'.creation.trans h.creation, h'.begin.trans h.begin,
    h'.durationInSec.trans h.durationInSec, h.edited.trans h'.edited⟩

theorem setCallerAddress (e : JournalEntry) (s : String) : Relabelled e (e.setCallerAddress s) :=
  ⟨rfl, rfl, rfl, rfl, rfl, rfl, rfl, .setCallerAddress s⟩

theorem setCalledAddress (e : JournalEntry) (s : String) : Relabelled e (e.setCalledAddress s) :=
  ⟨rfl, rfl, rfl, rfl, rfl, rfl, rfl, .setCalledAddress s⟩

theorem setCallerName (e : JournalEntry) (s : String) : Relabelled e (e.setCallerName s) :=
  ⟨rfl, rfl, rfl, rfl, rfl, rfl, rfl, .setCallerName s⟩

theorem setCalledName (e : JournalEntry) (s : String) : Relabelled e (e.setCalledName s) :=
  ⟨rfl, rfl, rfl, rfl, rfl, rfl, rfl, .setCalledName s⟩

theorem setResolvingCaller (e : JournalEntry) : Relabelled e e.setResolvingCaller :=
  ⟨rfl, rfl, rfl, rfl, rfl, rfl, rfl, .setResolvingCaller⟩

theorem setResolvingCalled (e : JournalEntry) : Relabelled e e.setResolvingCalled :=
  ⟨rfl, rfl, rfl, rfl, rfl, rfl, rfl, .setResolvingCalled⟩

end Relabelled

end JournalEntry
end Cmon
