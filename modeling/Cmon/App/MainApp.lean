import Mathlib.Data.Prod.Lex
import Cmon.Library.OrderedMap
import Cmon.Library.Run
import Cmon.Shared.Phone
import Cmon.Plugin.CallMonitor
import Cmon.Journal.Model

/-!
# App — the main application

The part of `CMainApp` between the plug-ins, the journal and the resolvers: the map of active
calls, the handlers of the four events it posts to itself, and the queue of the resolver's
worker thread.

* An object has an address, `allocated` counts the addresses given out.  `std::map::insert`
  leaves an entry in place that the map has already; the entry it does not take is in `lost`,
  with no pointer to it but the one `OnNewCall` is about to forget.
* A look-up request names the call by its database key only.  The field `call` of `Request` and
  `Response` is the address of the entry whose number is looked up; no function reads it.
* Handlers run one at a time, on the GUI thread.  The worker takes a request at any time, and a
  response is delivered at any later time (`AppEvent`).

`App.edit` is the part three of the handlers share: an active entry has been changed in place
and is saved.

* `fillIn_sides`: what a call info does with the numbers of its two sides, as `FillsIn` has it.
* `step_acts`: what a step does.
-/

namespace Cmon
open Library

/-- `TJournalKey`: ordered by the plug-in's id and then by the call's. -/
abbrev JournalKey := Lex (Nat × Nat)

def journalKey (providerId callId : Nat) : JournalKey := toLex (providerId, callId)

/-- `RESOLVE_CALLER` and `RESOLVE_CALLED`. -/
inductive ResolveFor where
  | caller | called
  deriving DecidableEq, Repr

/-- `TResolveRequest`. -/
structure Request where
  callId : Int
  userData : ResolveFor
  numberNational : String
  numberE164 : String
  onlineResolvable : Bool
  call : Nat
  deriving DecidableEq, Repr

/-- The event `RESOLVER_RESPONSE`; `sn` is the name of the contact that was found. -/
structure Response where
  callId : Int
  userData : ResolveFor
  sn : String
  call : Nat
  deriving DecidableEq, Repr

/-- `TResolverType`. -/
inductive ResolverType where
  | addressbook | onlineRegex
  deriving DecidableEq, Repr

/-- A resolver as the worker thread sees it: the name it finds for a number. -/
structure ResolverApi where
  type : ResolverType
  enabled : Bool
  resolve : String → Option String

/-- An address book that knows one number. -/
def knows (number name : String) : ResolverApi :=
  ⟨.addressbook, true, fun s => if s = number then some name else none⟩

/-! ### The sides of a call -/

/-- `getCallerAddress` and `getCalledAddress`. -/
def JournalEntry.address (e : JournalEntry) : ResolveFor → String
  | .caller => e.callerAddress
  | .called => e.calledAddress

/-- `getCallerName` and `getCalledName`. -/
def JournalEntry.name (e : JournalEntry) : ResolveFor → String
  | .caller => e.callerName
  | .called => e.calledName

/-- `isResolvingCaller` and `isResolvingCalled`. -/
def JournalEntry.resolving (e : JournalEntry) : ResolveFor → Bool
  | .caller => e.resolvingCaller
  | .called => e.resolvingCalled

/-- `setCallerAddress` and `setCalledAddress`. -/
def JournalEntry.setAddress (e : JournalEntry) : ResolveFor → String → JournalEntry
  | .caller => e.setCallerAddress
  | .called => e.setCalledAddress

/-- `setResolvingCaller` and `setResolvingCalled`. -/
def JournalEntry.setResolving (e : JournalEntry) : ResolveFor → JournalEntry
  | .caller => e.setResolvingCaller
  | .called => e.setResolvingCalled

/-- `m_strCallerAddress` and `m_strCalledAddress`. -/
def CallInfo.address (info : CallInfo) : ResolveFor → String
  | .caller => info.callerAddress
  | .called => info.calledAddress

/-- `m_strCallerName` and `m_strCalledName`. -/
def CallInfo.name (info : CallInfo) : ResolveFor → String
  | .caller => info.callerName
  | .called => info.calledName

/-- The type of the calls in which the side is the local connection. -/
def ResolveFor.localIn : ResolveFor → EntryType
  | .caller => .outgoing
  | .called => .incoming

section
variable (e : JournalEntry) (side other : ResolveFor) (nr : String)

theorem JournalEntry.setAddress_address : (e.setAddress side nr).address other =
    if other = side then nr else e.address other := by
  cases side <;> cases other <;> rfl

theorem JournalEntry.setAddress_name : (e.setAddress side nr).name other = e.name other := by
  cases side <;> cases other <;> rfl

theorem JournalEntry.setAddress_resolving :
    (e.setAddress side nr).resolving other = e.resolving other := by
  cases side <;> cases other <;> rfl

theorem JournalEntry.setResolving_address :
    (e.setResolving side).address other = e.address other := by
  cases side <;> cases other <;> rfl

theorem JournalEntry.setResolving_name : (e.setResolving side).name other = e.name other := by
  cases side <;> cases other <;> rfl

theorem JournalEntry.setResolving_resolving : (e.setResolving side).resolving other =
    if other = side then true else e.resolving other := by
  cases side <;> cases other <;> rfl

theorem JournalEntry.relabelled_setAddress : e.Relabelled (e.setAddress side nr) := by
  cases side
  · exact .setCallerAddress _ _
  · exact .setCalledAddress _ _

theorem JournalEntry.relabelled_setResolving : e.Relabelled (e.setResolving side) := by
  cases side
  · exact .setResolvingCaller _
  · exact .setResolvingCalled _

end

/-- What does not change while the program runs. -/
structure World where
  platform : Platform
  phone : PhoneUtil
  dbIsOk : Bool

/-- The application, the journal database and the resolver queue. -/
structure App where
  activeCalls : OrderedMap JournalKey JournalEntry
  lost : List JournalEntry
  allocated : Nat
  db : JournalDb
  notified : Bool
  requests : List Request
  responses : List Response

/-- A machine on UTC with a usable journal, for calls between internal numbers. -/
def World.utc : World := ⟨utcPlatform, .refusing, true⟩

/-- The program after start-up, over the journal of earlier runs. -/
def App.start (db : JournalDb) : App where
  activeCalls := .empty
  lost := []
  allocated := 0
  db := db
  notified := false
  requests := []
  responses := []

/-- What can happen next: the GUI thread handles the event of a plug-in, the worker thread takes
a request, the GUI thread handles a response. -/
inductive AppEvent where
  | call (m : Moment) (ev : CallEvent)
  | work (resolvers : List ResolverApi)
  | deliver (m : Moment)

/-- The moment of an event on the GUI thread. -/
def AppEvent.moment? : AppEvent → Option Moment
  | .call m _ | .deliver m => some m
  | .work _ => none

namespace App

/-! ### Saving -/

/-- The active entry at `k` has become `e`, and is saved. -/
def edit (w : World) (m : Moment) (s : App) (k : JournalKey) (e : JournalEntry) : App :=
  let o := s.db.insertUpdateEntry w.platform w.dbIsOk m e
  { s with
    db := o.db
    activeCalls := s.activeCalls.modify k fun _ => o.entry
    notified := s.notified || o.notified }

/-- The entry `e`, which is not an active one, is saved. -/
def editCopy (w : World) (m : Moment) (s : App) (e : JournalEntry) : App :=
  let o := s.db.insertUpdateEntry w.platform w.dbIsOk m e
  { s with db := o.db, notified := s.notified || o.notified }

/-! ### Plug-in events -/

/-- The entry `OnNewCall` creates. -/
def newEntry (s : App) (m : Moment) (pid cid : Nat) (type : CallType) (status : CallStatus) :
    JournalEntry :=
  (JournalEntry.create s.allocated pid cid (callType2JournalType type) m.now).setState m.now
    (callState2JournalState status)

def onNewCall (w : World) (m : Moment) (s : App) (pid cid : Nat) (type : CallType)
    (status : CallStatus) : App :=
  let o := s.db.insertUpdateEntry w.platform w.dbIsOk m (s.newEntry m pid cid type status)
  let k := journalKey pid cid
  { s with
    allocated := s.allocated + 1
    db := o.db
    activeCalls := s.activeCalls.insert k o.entry
    lost := if (s.activeCalls.find? k).isSome then o.entry :: s.lost else s.lost
    notified := s.notified || o.notified }

def onCallStateUpdate (w : World) (m : Moment) (s : App) (pid cid : Nat)
    (status : CallStatus) : App :=
  let k := journalKey pid cid
  match s.activeCalls.find? k with
  | none => s
  | some e =>
      if status = .idle then { s with activeCalls := s.activeCalls.erase k }
      else s.edit w m k (e.setState m.now (callState2JournalState status))

/-- `ResolveCaller`, on the entry and the request list. -/
def resolveCaller (w : World) (m : Moment) (toResolve : String) (pJ : JournalEntry)
    (rs : List Request) : JournalEntry × List Request :=
  if pJ.resolvingCaller then (pJ, rs)
  else
    let (kind, strFormattedNr, strE164Nr) :=
      parseAndFormatForResolver w.phone m.prefs toResolve
    let pJ := pJ.setCallerAddress strFormattedNr
    if pJ.callerName = "" ∧ strFormattedNr ≠ "" then
      let pJ := pJ.setResolvingCaller
      let bOnlineResolvable :=
        pJ.type ≠ .outgoing ∧ kind ≠ .internal ∧ kind ≠ .international
      (pJ, rs ++ [⟨pJ.dbKey, .caller, strFormattedNr, strE164Nr, bOnlineResolvable, pJ.self⟩])
    else (pJ, rs)

/-- `ResolveCalled`. -/
def resolveCalled (w : World) (m : Moment) (toResolve : String) (pJ : JournalEntry)
    (rs : List Request) : JournalEntry × List Request :=
  if pJ.resolvingCalled then (pJ, rs)
  else
    let (kind, strFormattedNr, strE164Nr) :=
      parseAndFormatForResolver w.phone m.prefs toResolve
    let pJ := pJ.setCalledAddress strFormattedNr
    if pJ.calledName = "" ∧ strFormattedNr ≠ "" then
      let pJ := pJ.setResolvingCalled
      let bOnlineResolvable :=
        pJ.type ≠ .incoming ∧ kind ≠ .internal ∧ kind ≠ .international
      (pJ, rs ++ [⟨pJ.dbKey, .called, strFormattedNr, strE164Nr, bOnlineResolvable, pJ.self⟩])
    else (pJ, rs)

/-- The entry and the request list during `OnCallInfoUpdate`. -/
abbrev Filling := JournalEntry × List Request

def fillNames (info : CallInfo) (pJ : JournalEntry) : JournalEntry :=
  let pJ := if pJ.calledName = "" then pJ.setCalledName info.calledName else pJ
  if pJ.callerName = "" then pJ.setCallerName info.callerName else pJ

def fillCalled (w : World) (m : Moment) (info : CallInfo) (q : Filling) : Filling :=
  if q.1.calledAddress = "" ∧ info.calledAddress ≠ "" then
    resolveCalled w m info.calledAddress q.1 q.2
  else q

def fillCaller (w : World) (m : Moment) (info : CallInfo) (q : Filling) : Filling :=
  if q.1.callerAddress = "" ∧ info.callerAddress ≠ "" then
    resolveCaller w m info.callerAddress q.1 q.2
  else q

/-- What `OnCallInfoUpdate` does before it saves the entry. -/
def fillIn (w : World) (m : Moment) (info : CallInfo) (pJ : JournalEntry) (rs : List Request) :
    Filling :=
  fillCaller w m info (fillCalled w m info (fillNames info pJ, rs))

def onCallInfoUpdate (w : World) (m : Moment) (s : App) (pid cid : Nat) (info : CallInfo) : App :=
  let k := journalKey pid cid
  match s.activeCalls.find? k with
  | none => s
  | some e =>
      let q := fillIn w m info e s.requests
      { s with requests := q.2 }.edit w m k q.1

/-! ### The resolver -/

/-- The name `processRequest` finds: that of the first enabled resolver that finds one, online
resolvers being asked for online-resolvable numbers only. -/
def findName (req : Request) : List ResolverApi → Option String
  | [] => none
  | r :: rs =>
      if !r.enabled then findName req rs
      else
        match r.type with
        | .onlineRegex =>
            if !req.onlineResolvable then findName req rs
            else (r.resolve req.numberNational).or (findName req rs)
        | .addressbook => (r.resolve req.numberE164).or (findName req rs)

/-- A turn of the worker thread. -/
def processRequest (resolvers : List ResolverApi) (s : App) : App :=
  match s.requests with
  | [] => s
  | req :: rs =>
      match findName req resolvers with
      | none => { s with requests := rs }
      | some sn =>
          { s with
            requests := rs
            responses := s.responses ++ [⟨req.callId, req.userData, sn, req.call⟩] }

/-- `findActiveEntry`, with the key of the entry. -/
def findActiveEntry (s : App) (dbKey : Int) : Option (JournalKey × JournalEntry) :=
  s.activeCalls.entries.find? fun e => e.2.dbKey = dbKey

/-- The name of a response is put into an entry. -/
def setName (data : ResolveFor) (sn : String) (e : JournalEntry) : JournalEntry :=
  match data with
  | .caller => e.setCallerName sn
  | .called => e.setCalledName sn

def onResolverResponse (w : World) (m : Moment) (s : App) (r : Response) : App :=
  match s.findActiveEntry r.callId with
  | some (k, e) => s.edit w m k (setName r.userData r.sn e)
  | none =>
      -- the local `CJournalEntry e` is no object of the heap
      match s.db.getEntry w.platform w.dbIsOk m r.callId
          (JournalEntry.create s.allocated 0 0 .unknown m.now) with
      | some e => s.editCopy w m (setName r.userData r.sn e)
      | none => s

/-! ### The system -/

def handle (w : World) (m : Moment) (s : App) : CallEvent → App
  | .newCall pid cid type status => s.onNewCall w m pid cid type status
  | .callStatus pid cid status => s.onCallStateUpdate w m pid cid status
  | .callInfo pid cid info => s.onCallInfoUpdate w m pid cid info

def step (w : World) (s : App) : AppEvent → App
  | .call m ev => s.handle w m ev
  | .work resolvers => s.processRequest resolvers
  | .deliver m =>
      match s.responses with
      | [] => s
      | r :: rs => { s with responses := rs }.onResolverResponse w m r

@[simp] theorem newEntry_self (s : App) (m : Moment) (pid cid : Nat) (type : CallType)
    (status : CallStatus) : (s.newEntry m pid cid type status).self = s.allocated := by
  simp [newEntry]

@[simp] theorem newEntry_dbKey (s : App) (m : Moment) (pid cid : Nat) (type : CallType)
    (status : CallStatus) : (s.newEntry m pid cid type status).dbKey = 0 := by
  simp [newEntry]

/-- The first save of a new entry is not skipped. -/
@[simp] theorem newEntry_dirty (s : App) (m : Moment) (pid cid : Nat) (type : CallType)
    (status : CallStatus) : (s.newEntry m pid cid type status).dirty = true := by
  cases h : (s.newEntry m pid cid type status).dirty with
  | true => rfl
  | false =>
      have hclean := (JournalEntry.Edited.setState m.now (callState2JournalState status) h).1
      rw [JournalEntry.create_dirty] at hclean
      cases hclean

/-! ### The map after a save -/

section
variable {w : World} {m : Moment} {s : App} {j k : JournalKey} {e e' e₁ : JournalEntry}

/-- What is saved at `k` in the state `s`. -/
abbrev saved (w : World) (m : Moment) (s : App) (e : JournalEntry) : JournalDb.Saved :=
  s.db.insertUpdateEntry w.platform w.dbIsOk m e

theorem saves_saved (w : World) (m : Moment) (s : App) (e : JournalEntry) :
    JournalDb.Saves w.platform w.dbIsOk m s.db e (saved w m s e) :=
  JournalDb.insertUpdateEntry_saves _ _ _ _ _

theorem saved_self (w : World) (m : Moment) (s : App) (e : JournalEntry) :
    (saved w m s e).entry.self = e.self := (saves_saved w m s e).entry.1

theorem saved_type (w : World) (m : Moment) (s : App) (e : JournalEntry) :
    (saved w m s e).entry.type = e.type :=
  congrArg (·.1) (saves_saved w m s e).entry.2

theorem find?_edit_self (he : s.activeCalls.find? k = some e) (e' : JournalEntry) :
    (s.edit w m k e').activeCalls.find? k = some (saved w m s e').entry := by
  rw [show (s.edit w m k e').activeCalls.find? k = _ from OrderedMap.find?_modify_self _ _ _, he]
  rfl

/-- After an edit the entry at the key is the saved one, and the others are as before. -/
theorem find?_edit (he : s.activeCalls.find? k = some e)
    (hj : (s.edit w m k e').activeCalls.find? j = some e₁) :
    j = k ∧ e₁ = (saved w m s e').entry ∨ j ≠ k ∧ s.activeCalls.find? j = some e₁ := by
  by_cases h : j = k
  · subst h
    rw [find?_edit_self he] at hj
    exact .inl ⟨rfl, (Option.some.inj hj).symm⟩
  · rw [show (s.edit w m k e').activeCalls.find? j = _ from
      OrderedMap.find?_modify_of_ne _ h _] at hj
    exact .inr ⟨h, hj⟩

/-- After a new call the map has its entry, unless it had one under that key. -/
theorem find?_onNewCall {pid cid : Nat} {type : CallType} {status : CallStatus}
    (hj : (s.onNewCall w m pid cid type status).activeCalls.find? j = some e₁) :
    j = journalKey pid cid ∧ e₁ = (saved w m s (s.newEntry m pid cid type status)).entry ∨
      s.activeCalls.find? j = some e₁ := by
  by_cases h : j = journalKey pid cid
  · subst h
    rw [show (s.onNewCall w m pid cid type status).activeCalls.find? _ = _ from
      OrderedMap.find?_insert_self _ _ _] at hj
    cases hf : s.activeCalls.find? (journalKey pid cid) with
    | none =>
        rw [hf] at hj
        exact .inl ⟨rfl, (Option.some.inj hj).symm⟩
    | some e =>
        rw [hf] at hj
        exact .inr hj
  · rw [show (s.onNewCall w m pid cid type status).activeCalls.find? j = _ from
      OrderedMap.find?_insert_of_ne _ h _] at hj
    exact .inr hj

theorem find?_ended (hj : (s.activeCalls.erase k).find? j = some e₁) :
    s.activeCalls.find? j = some e₁ := by
  by_cases h : j = k
  · subst h
    rw [OrderedMap.find?_erase_self] at hj
    cases hj
  · rwa [OrderedMap.find?_erase_of_ne _ h] at hj

end

/-! ### A number of a call info -/

section
variable (w : World) (m : Moment) (info : CallInfo)

/-- What `parseAndFormatForResolver` makes of the number of a side. -/
abbrev formatted (side : ResolveFor) : NumberKind × String × String :=
  parseAndFormatForResolver w.phone m.prefs (info.address side)

/-- The look-up of the number of a side. -/
def lookUp (e : JournalEntry) (side : ResolveFor) : Request where
  callId := e.dbKey
  userData := side
  numberNational := (formatted w m info side).2.1
  numberE164 := (formatted w m info side).2.2
  onlineResolvable := e.type ≠ side.localIn ∧ (formatted w m info side).1 ≠ .internal ∧
    (formatted w m info side).1 ≠ .international
  call := e.self

/-- The call info brings the number of the side, and there is none yet. -/
def Due (info : CallInfo) (e : JournalEntry) (side : ResolveFor) : Prop :=
  e.address side = "" ∧ info.address side ≠ "" ∧ e.resolving side = false

/-- What a call info does with the number of a side: nothing; the number is kept; it is kept and
looked up, as there is no name. -/
inductive FillsIn (side : ResolveFor) (q : Filling) : Filling → Prop where
  | nothing (h : ¬ Due info q.1 side) : FillsIn side q q
  | kept (h : Due info q.1 side)
      (hn : ¬ (q.1.name side = "" ∧ (formatted w m info side).2.1 ≠ "")) :
      FillsIn side q (q.1.setAddress side (formatted w m info side).2.1, q.2)
  | asked (h : Due info q.1 side)
      (hn : q.1.name side = "" ∧ (formatted w m info side).2.1 ≠ "") :
      FillsIn side q ((q.1.setAddress side (formatted w m info side).2.1).setResolving side,
        q.2 ++ [lookUp w m info q.1 side])

/-- The two sides are filled in alike. -/
theorem fillsIn_side (side : ResolveFor) (q : Filling) : FillsIn w m info side q
    (if q.1.address side = "" ∧ info.address side ≠ "" then
      if q.1.resolving side then q
      else if q.1.name side = "" ∧ (formatted w m info side).2.1 ≠ "" then
        ((q.1.setAddress side (formatted w m info side).2.1).setResolving side,
          q.2 ++ [lookUp w m info q.1 side])
      else (q.1.setAddress side (formatted w m info side).2.1, q.2)
    else q) := by
  split
  · next ha =>
    split
    · next hr => exact .nothing fun h => absurd (hr.symm.trans h.2.2) Bool.false_ne_true.symm
    · next hr =>
      have hdue : Due info q.1 side := ⟨ha.1, ha.2, Bool.eq_false_iff.mpr hr⟩
      split
      · next hn => exact .asked hdue hn
      · next hn => exact .kept hdue hn
  · next ha => exact .nothing fun h => ha ⟨h.1, h.2.1⟩

theorem fillCalled_fillsIn (q : Filling) : FillsIn w m info .called q (fillCalled w m info q) :=
  fillsIn_side w m info .called q

theorem fillCaller_fillsIn (q : Filling) : FillsIn w m info .caller q (fillCaller w m info q) :=
  fillsIn_side w m info .caller q

/-- The called side is filled in before the caller. -/
theorem fillIn_sides (pJ : JournalEntry) (rs : List Request) :
    ∃ q, FillsIn w m info .called (fillNames info pJ, rs) q ∧
      FillsIn w m info .caller q (fillIn w m info pJ rs) :=
  ⟨_, fillCalled_fillsIn w m info _, fillCaller_fillsIn w m info _⟩

end

section
variable {w : World} {m : Moment} {info : CallInfo} {side : ResolveFor} {q q' : Filling}

/-- The number that is due is kept as it is formatted. -/
theorem FillsIn.address (h : FillsIn w m info side q q') (hdue : Due info q.1 side) :
    q'.1.address side = (formatted w m info side).2.1 := by
  cases h with
  | nothing hnot => exact absurd hdue hnot
  | kept => rw [JournalEntry.setAddress_address, if_pos rfl]
  | asked => rw [JournalEntry.setResolving_address, JournalEntry.setAddress_address, if_pos rfl]

/-- The number of one side leaves the other side as it is. -/
theorem FillsIn.frame (h : FillsIn w m info side q q') {other : ResolveFor} (hne : other ≠ side) :
    q'.1.address other = q.1.address other ∧ q'.1.resolving other = q.1.resolving other := by
  cases h with
  | nothing => exact ⟨rfl, rfl⟩
  | kept =>
      rw [JournalEntry.setAddress_address, JournalEntry.setAddress_resolving, if_neg hne]
      exact ⟨rfl, rfl⟩
  | asked =>
      rw [JournalEntry.setResolving_address, JournalEntry.setResolving_resolving, if_neg hne,
        JournalEntry.setAddress_address, JournalEntry.setAddress_resolving, if_neg hne]
      exact ⟨rfl, rfl⟩

end

/-! ### What a step does -/

/-- From `q` to `q'` the entry changes in names and addresses, and look-ups of its numbers are
asked for. -/
structure Asks (q q' : Filling) : Prop where
  entry : q.1.Relabelled q'.1
  requests : ∃ new, q'.2 = q.2 ++ new ∧ ∀ r ∈ new, r.callId = q.1.dbKey ∧ r.call = q.1.self

theorem Asks.of_relabelled {q : Filling} {pJ : JournalEntry} (h : q.1.Relabelled pJ) :
    Asks q (pJ, q.2) :=
  ⟨h, [], (List.append_nil q.2).symm, fun _ h => absurd h List.not_mem_nil⟩

theorem Asks.refl (q : Filling) : Asks q q := of_relabelled (.refl q.1)

theorem Asks.trans {q q' q'' : Filling} (h : Asks q q') (h' : Asks q' q'') : Asks q q'' := by
  obtain ⟨new, e, hn⟩ := h.requests
  obtain ⟨new', e', hn'⟩ := h'.requests
  refine ⟨h.entry.trans h'.entry, new ++ new', by rw [e', e, List.append_assoc], fun r hr => ?_⟩
  rcases List.mem_append.mp hr with hr | hr
  · exact hn r hr
  · exact ⟨(hn' r hr).1.trans h.entry.dbKey, (hn' r hr).2.trans h.entry.self⟩

theorem FillsIn.asks {w : World} {m : Moment} {info : CallInfo} {side : ResolveFor}
    {q q' : Filling} (h : FillsIn w m info side q q') : Asks q q' := by
  cases h with
  | nothing => exact .refl q
  | kept => exact .of_relabelled (q.1.relabelled_setAddress side _)
  | asked =>
      refine ⟨(q.1.relabelled_setAddress side _).trans
        (JournalEntry.relabelled_setResolving _ side), _, rfl, ?_⟩
      intro r hr
      obtain rfl := List.mem_singleton.mp hr
      exact ⟨rfl, rfl⟩

section
variable (w : World) (m : Moment) (info : CallInfo)

theorem relabelled_fillNames (pJ : JournalEntry) : pJ.Relabelled (fillNames info pJ) := by
  have h : pJ.Relabelled (if pJ.calledName = "" then pJ.setCalledName info.calledName else pJ) := by
    split
    · exact .setCalledName _ _
    · exact .refl _
  refine h.trans ?_
  unfold fillNames
  generalize (if pJ.calledName = "" then pJ.setCalledName info.calledName else pJ) = pJ'
  dsimp only
  split
  · exact .setCallerName _ _
  · exact .refl _

/-- A call info changes names and addresses, and asks for look-ups of this call alone. -/
theorem asks_fillIn (pJ : JournalEntry) (rs : List Request) :
    Asks (pJ, rs) (fillIn w m info pJ rs) := by
  obtain ⟨q, hcalled, hcaller⟩ := fillIn_sides w m info pJ rs
  exact ((Asks.of_relabelled (relabelled_fillNames info pJ)).trans hcalled.asks).trans hcaller.asks

end

theorem relabelled_setName (data : ResolveFor) (sn : String) (e : JournalEntry) :
    e.Relabelled (setName data sn e) := by
  cases data
  · exact .setCallerName _ _
  · exact .setCalledName _ _

/-- What an event can do: nothing, for a call that is not active; a turn of the worker; a response
that finds no entry; a new entry; the end of an entry; a new state, new names and addresses, or a
name that was looked up, in an active entry; such a name in a copy read back from the journal. -/
inductive Acts (w : World) (s : App) : AppEvent → App → Prop where
  | noStatus {m : Moment} {pid cid : Nat} {status : CallStatus}
      (he : s.activeCalls.find? (journalKey pid cid) = none) :
      Acts w s (.call m (.callStatus pid cid status)) s
  | noInfo {m : Moment} {pid cid : Nat} {info : CallInfo}
      (he : s.activeCalls.find? (journalKey pid cid) = none) :
      Acts w s (.call m (.callInfo pid cid info)) s
  | worked {resolvers : List ResolverApi} {rq : List Request} {rp : List Response}
      (hq : ∀ q ∈ rq, q ∈ s.requests)
      (hp : ∀ r ∈ rp, r ∈ s.responses ∨
        ∃ q ∈ s.requests, r.callId = q.callId ∧ r.call = q.call) :
      Acts w s (.work resolvers) { s with requests := rq, responses := rp }
  | unanswered {m : Moment} {rp : List Response} (hp : ∀ r ∈ rp, r ∈ s.responses) :
      Acts w s (.deliver m) { s with responses := rp }
  | created (m : Moment) (pid cid : Nat) (type : CallType) (status : CallStatus) :
      Acts w s (.call m (.newCall pid cid type status)) (s.onNewCall w m pid cid type status)
  | ended (m : Moment) (pid cid : Nat) :
      Acts w s (.call m (.callStatus pid cid .idle))
        { s with activeCalls := s.activeCalls.erase (journalKey pid cid) }
  | moved {m : Moment} {pid cid : Nat} {status : CallStatus} {e : JournalEntry}
      (he : s.activeCalls.find? (journalKey pid cid) = some e) (hs : status ≠ .idle) :
      Acts w s (.call m (.callStatus pid cid status)) (s.edit w m (journalKey pid cid)
        (e.setState m.now (callState2JournalState status)))
  | informed {m : Moment} {pid cid : Nat} {info : CallInfo} {e e' : JournalEntry}
      {rq : List Request} (he : s.activeCalls.find? (journalKey pid cid) = some e)
      (ha : Asks (e, s.requests) (e', rq)) :
      Acts w s (.call m (.callInfo pid cid info))
        ({ s with requests := rq }.edit w m (journalKey pid cid) e')
  | named {m : Moment} {k : JournalKey} {e e' : JournalEntry} {r : Response}
      {rp : List Response} (hrp : s.responses = r :: rp)
      (he : s.findActiveEntry r.callId = some (k, e)) (hr : e' = setName r.userData r.sn e) :
      Acts w s (.deliver m) ({ s with responses := rp }.edit w m k e')
  | copied {m : Moment} {e e' : JournalEntry} {r : Response} {rp : List Response}
      (hrp : s.responses = r :: rp) (hn : s.findActiveEntry r.callId = none)
      (he : s.db.getEntry w.platform w.dbIsOk m r.callId
        (JournalEntry.create s.allocated 0 0 .unknown m.now) = some e)
      (hr : e' = setName r.userData r.sn e) :
      Acts w s (.deliver m) ({ s with responses := rp }.editCopy w m e')

theorem onCallStateUpdate_acts (w : World) (m : Moment) (s : App) (pid cid : Nat)
    (status : CallStatus) :
    Acts w s (.call m (.callStatus pid cid status)) (s.onCallStateUpdate w m pid cid status) := by
  cases he : s.activeCalls.find? (journalKey pid cid) with
  | none => simpa only [onCallStateUpdate, he] using .noStatus he
  | some e =>
      by_cases hs : status = .idle
      · subst hs
        simpa only [onCallStateUpdate, he, if_true] using .ended m pid cid
      · simpa only [onCallStateUpdate, he, if_neg hs] using .moved he hs

theorem onCallInfoUpdate_acts (w : World) (m : Moment) (s : App) (pid cid : Nat)
    (info : CallInfo) :
    Acts w s (.call m (.callInfo pid cid info)) (s.onCallInfoUpdate w m pid cid info) := by
  cases he : s.activeCalls.find? (journalKey pid cid) with
  | none => simpa only [onCallInfoUpdate, he] using .noInfo he
  | some e =>
      simpa only [onCallInfoUpdate, he] using .informed he (asks_fillIn w m info e s.requests)

theorem processRequest_acts (w : World) (s : App) (resolvers : List ResolverApi) :
    Acts w s (.work resolvers) (s.processRequest resolvers) := by
  cases hq : s.requests with
  | nil => simpa only [processRequest, hq] using .worked (fun _ h => h) (fun _ h => .inl h)
  | cons req rq =>
      have htail : ∀ q ∈ rq, q ∈ s.requests := fun q h => hq ▸ .tail _ h
      cases hn : findName req resolvers with
      | none => simpa only [processRequest, hq, hn] using .worked htail (fun _ h => .inl h)
      | some sn =>
          simp only [processRequest, hq, hn]
          refine .worked htail ?_
          intro r hr
          rcases List.mem_append.mp hr with hr | hr
          · exact .inl hr
          · obtain rfl := List.mem_singleton.mp hr
            exact .inr ⟨req, hq ▸ .head _, rfl, rfl⟩

theorem deliver_acts (w : World) (m : Moment) (s : App) :
    Acts w s (.deliver m) (s.step w (.deliver m)) := by
  show Acts w s _ (match s.responses with
    | [] => s
    | r :: rs => { s with responses := rs }.onResolverResponse w m r)
  split
  · exact .unanswered fun _ h => h
  · rename_i r rp hrp
    rw [onResolverResponse]
    split
    · rename_i k e he
      exact .named hrp he rfl
    · rename_i hn
      split
      · rename_i e he
        exact .copied hrp hn he rfl
      · exact .unanswered fun _ h => hrp ▸ .tail _ h

/-- The active entry that is found is the one under its key. -/
theorem findActiveEntry_find? {s : App} {dbKey : Int} {k : JournalKey} {e : JournalEntry}
    (h : s.findActiveEntry dbKey = some (k, e)) : s.activeCalls.find? k = some e :=
  OrderedMap.mem_entries.mp (List.mem_of_find?_eq_some h)

theorem findActiveEntry_dbKey {s : App} {dbKey : Int} {k : JournalKey} {e : JournalEntry}
    (h : s.findActiveEntry dbKey = some (k, e)) : e.dbKey = dbKey :=
  of_decide_eq_true (List.find?_some h :)

/-- **What a step can do.** -/
theorem step_acts (w : World) (s : App) : ∀ ev, Acts w s ev (s.step w ev)
  | .call m (.newCall pid cid type status) => .created m pid cid type status
  | .call m (.callStatus pid cid status) => onCallStateUpdate_acts w m s pid cid status
  | .call m (.callInfo pid cid info) => onCallInfoUpdate_acts w m s pid cid info
  | .work resolvers => processRequest_acts w s resolvers
  | .deliver m => deliver_acts w m s

/-- Every event leaves the journal well formed. -/
theorem wf_step {w : World} {s : App} (h : JournalDb.WF s.db) (ev : AppEvent) :
    JournalDb.WF (s.step w ev).db := by
  have ha := step_acts w s ev
  generalize s.step w ev = s' at ha
  cases ha with
  | noStatus | noInfo | worked | unanswered | ended => exact h
  | created | moved | informed | named | copied => exact (saves_saved w _ _ _).wf h

end App
end Cmon
