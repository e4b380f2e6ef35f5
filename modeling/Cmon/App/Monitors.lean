import Cmon.App.Ownership
import Cmon.Fritz.Stream
import Cmon.Tapi.Manager

/-!
# App — the monitors and the application

The two call monitors with their threads, the queue in which `CMainApp` puts what they tell it, and
the GUI thread that takes it out again.  All of them take their steps in any order.

* `follow_run`: when what is told are episodes of the calls, the map of active calls holds those
  that are open, and no entry is lost; whatever the resolvers answer in between.
* `CallSystem.mirrors`: along every run in which the application is registered with each monitor
  once, while no call of it is open, the messages of TAPI fit, and those of the box are episodes of
  its calls, the active calls are the reported calls of the lines and the open calls of the box, but
  for what is still in the queue.
-/

namespace Cmon
open Library Library.Episodes

/-- The key of the call that the event is about. -/
def CallEvent.key : CallEvent → JournalKey
  | .newCall pid cid _ _ | .callStatus pid cid _ | .callInfo pid cid _ => journalKey pid cid

/-- The id of the plug-in that the event comes from. -/
def CallEvent.pid : CallEvent → Nat
  | .newCall pid _ _ _ | .callStatus pid _ _ | .callInfo pid _ _ => pid

-- lemmas for ids that `rfl` would count up to
@[simp] theorem CallEvent.pid_newCall (pid cid : Nat) (type : CallType) (status : CallStatus) :
    (CallEvent.newCall pid cid type status).pid = pid := rfl

@[simp] theorem CallEvent.pid_callStatus (pid cid : Nat) (status : CallStatus) :
    (CallEvent.callStatus pid cid status).pid = pid := rfl

@[simp] theorem CallEvent.pid_callInfo (pid cid : Nat) (info : CallInfo) :
    (CallEvent.callInfo pid cid info).pid = pid := rfl

theorem CallEvent.key_eq (e : CallEvent) : e.key = journalKey e.pid e.cid := by cases e <;> rfl

theorem CallEvent.key_eq_iff {e : CallEvent} {pid cid : Nat} :
    e.key = journalKey pid cid ↔ e.pid = pid ∧ e.cid = cid := by
  rw [CallEvent.key_eq]
  exact Prod.mk_inj

/-! ### The application -/

/-- What plug-ins told, of the events of a run. -/
def callEvents (evs : List AppEvent) : List CallEvent :=
  evs.filterMap fun
    | .call _ ev => some ev
    | .work _ | .deliver _ => none

namespace App
variable {w : World} {t : App × History}

/-- An update, or an event of another key, leaves it as it is whether the episode is open. -/
theorem turn_of_updates {ev : CallEvent} (hm : ev.mark = .updates) {k : JournalKey}
    {isOpen isOpen' : Bool}
    (ht : turn CallEvent.key CallEvent.mark k isOpen ev = some isOpen') : isOpen = isOpen' := by
  rw [turn, hm] at ht
  split_ifs at ht
  · obtain ⟨rfl, rfl⟩ := Mark.apply_updates.mp ht
    rfl
  · exact Option.some.inj ht

/-- The history of a key says whether its episode is open. -/
theorem observe_newest {h : History} (m : Moment) {ev : CallEvent} {k : JournalKey} {isOpen : Bool}
    (ht : turn CallEvent.key CallEvent.mark k (h.newest k).isSome ev = some isOpen) :
    ((h.observe (.call m ev)).newest k).isSome = isOpen := by
  cases ev with
  | newCall pid cid type status =>
      show (Function.update h.newest (journalKey pid cid) (some h.created) k).isSome = isOpen
      rw [turn] at ht
      by_cases hk : journalKey pid cid = k
      · obtain ⟨-, rfl⟩ := Mark.apply_opens.mp ((if_pos hk).symm.trans ht)
        rw [hk, Function.update_self]
        rfl
      · rw [Function.update_of_ne (Ne.symm hk)]
        exact Option.some.inj ((if_neg hk).symm.trans ht)
  | callStatus pid cid status =>
      by_cases hs : status = .idle
      · subst hs
        show (Function.update h.newest (journalKey pid cid) none k).isSome = isOpen
        rw [turn] at ht
        by_cases hk : journalKey pid cid = k
        · obtain ⟨-, rfl⟩ := Mark.apply_closes.mp ((if_pos hk).symm.trans ht)
          rw [hk, Function.update_self]
          rfl
        · rw [Function.update_of_ne (Ne.symm hk)]
          exact Option.some.inj ((if_neg hk).symm.trans ht)
      · have hm : (CallEvent.callStatus pid cid status).mark = .updates := if_neg hs
        rw [observe_status hs]
        exact turn_of_updates hm ht
  | callInfo pid cid info => exact turn_of_updates rfl ht

/-- An event that opens an episode of its key comes under a key that no call has. -/
theorem unused_of_turn (m : Moment) {ev : CallEvent} {isOpen : Bool}
    (ht : turn CallEvent.key CallEvent.mark ev.key (t.2.newest ev.key).isSome ev = some isOpen) :
    Unused t (.call m ev) := by
  cases ev with
  | newCall pid cid type status =>
      rw [turn, if_pos rfl] at ht
      obtain ⟨hnone, -⟩ := Mark.apply_opens.mp ht
      exact Option.not_isSome_iff_eq_none.mp (Bool.not_eq_true _ ▸ hnone)
  | callStatus | callInfo => exact trivial

/-- **A run beside the history**: as long as the events are episodes. -/
theorem follow_watch (h : InStep t) {evs : List AppEvent}
    (hf : ∀ k, (follow CallEvent.key CallEvent.mark k (t.2.newest k).isSome
      (callEvents evs)).isSome = true) :
    InStep (run (watch w) t evs) ∧ ∀ k, follow CallEvent.key CallEvent.mark k
      (t.2.newest k).isSome (callEvents evs) =
        some ((run (watch w) t evs).2.newest k).isSome := by
  induction evs generalizing t with
  | nil => exact ⟨h, fun _ => rfl⟩
  | cons ev evs ih =>
      cases ev with
      | call m ev =>
          have hturn : ∀ k, ∃ isOpen, turn CallEvent.key CallEvent.mark k (t.2.newest k).isSome ev =
              some isOpen ∧ ((watch w t (.call m ev)).2.newest k).isSome = isOpen := by
            intro k
            obtain ⟨b, hb⟩ := Option.isSome_iff_exists.mp (hf k)
            obtain ⟨isOpen, hturn, -⟩ := Option.bind_eq_some_iff.mp hb
            exact ⟨isOpen, hturn, observe_newest m hturn⟩
          have hcons : ∀ k, follow CallEvent.key CallEvent.mark k (t.2.newest k).isSome
              (callEvents (.call m ev :: evs)) = follow CallEvent.key CallEvent.mark k
                ((watch w t (.call m ev)).2.newest k).isSome (callEvents evs) := by
            intro k
            obtain ⟨isOpen, hturn, hopen⟩ := hturn k
            show (turn _ _ k _ ev).bind _ = _
            rw [hturn, hopen]
            rfl
          obtain ⟨isOpen, hkey, -⟩ := hturn ev.key
          obtain ⟨hstep, hfollow⟩ := ih (h.watch (w := w) (unused_of_turn m hkey)) fun k => by
            rw [← hcons]
            exact hf k
          exact ⟨hstep, fun k => (hcons k).trans (hfollow k)⟩
      | work resolvers =>
          have hunused : Unused t (.work resolvers) := trivial
          exact ih (h.watch hunused) hf
      | deliver m =>
          have hunused : Unused t (.deliver m) := trivial
          exact ih (h.watch hunused) hf

theorem run_watch (t : App × History) (evs : List AppEvent) :
    (run (watch w) t evs).1 = run (App.step w) t.1 evs := by
  induction evs generalizing t with
  | nil => rfl
  | cons ev evs ih => exact ih _

/-- **The map of active calls follows what is told.** -/
theorem follow_run (w : World) (db : JournalDb) (evs : List AppEvent)
    (hf : ∀ k, (follow CallEvent.key CallEvent.mark k false (callEvents evs)).isSome = true) :
    (run (App.step w) (App.start db) evs).lost = [] ∧ ∀ k,
      follow CallEvent.key CallEvent.mark k false (callEvents evs) =
        some ((run (App.step w) (App.start db) evs).activeCalls.find? k).isSome := by
  obtain ⟨hstep, hfollow⟩ := follow_watch (w := w) (.start db) hf
  rw [← run_watch (App.start db, .start) evs]
  refine ⟨hstep.lost, fun k => (hfollow k).trans ?_⟩
  rw [← hstep.newest k, Option.isSome_map]

end App

/-! ### The queue -/

/-- The monitors, how often the application is among the listeners of that of TAPI, what they told
the application and it has not handled yet, and the application; `handled` is the history: the
events that it has handled. -/
structure CallSystem where
  tapi : TafManager
  tapiListeners : Nat
  fritz : FritzMonitor
  pending : List CallEvent
  app : App
  handled : List AppEvent

/-- What can happen next: a message for the thread of TAPI, a turn of the thread of the box or of
what starts and stops it, the turn of the loop of `OnInit` that registers the application with a
monitor, an event that the GUI thread takes out of the queue, and the resolvers. -/
inductive SystemStep where
  | tapi (ev : TapiEvent)
  | fritz (ev : MonitorEvent)
  | registerTapi
  | registerFritz
  | handle (m : Moment)
  | work (resolvers : List ResolverApi)
  | deliver (m : Moment)

/-- The application among the observers of a monitor. -/
def appObserver : Nat := 0

namespace CallSystem

/-- The program before it loads its plug-ins, which start the monitors. -/
def start (db : JournalDb) : CallSystem where
  tapi := .create
  tapiListeners := 0
  fritz := .init
  pending := []
  app := App.start db
  handled := []

/-- The application handles an event. -/
def handle (w : World) (s : CallSystem) (ev : AppEvent) : CallSystem :=
  { s with app := s.app.step w ev, handled := s.handled ++ [ev] }

def step (w : World) (s : CallSystem) : SystemStep → CallSystem
  | .tapi ev =>
      let tapi := s.tapi.step ev
      { s with
        tapi
        pending := s.pending ++
          (tapi.told.drop s.tapi.told.length).flatMap (List.replicate s.tapiListeners) }
  | .fritz ev =>
      let fritz := s.fritz.step w.platform ev
      { s with
        fritz
        pending := s.pending ++
          (fritz.heard appObserver).drop (s.fritz.heard appObserver).length }
  | .registerTapi => { s with tapiListeners := s.tapiListeners + 1 }
  | .registerFritz =>
      { s with fritz := s.fritz.step w.platform (.registerCallObserver appObserver) }
  | .handle m =>
      match s.pending with
      | [] => s
      | ev :: pending => { s with pending }.handle w (.call m ev)
  | .work resolvers => s.handle w (.work resolvers)
  | .deliver m => s.handle w (.deliver m)

/-- All that was told, in the order in which it came. -/
def posted (s : CallSystem) : List CallEvent := callEvents s.handled ++ s.pending

end CallSystem

/-! ### What a step tells -/

/-- Every event of the plug-in has its id. -/
theorem onTafEvent_pid (e : TafEvent) : (onTafEvent e).pid = tapiPluginId := by
  cases e with
  | newCall call => exact CallEvent.pid_newCall _ _ _ _
  | callStateUpdate call => exact CallEvent.pid_callStatus _ _ _
  | callInfoUpdate call => exact CallEvent.pid_callInfo _ _ _
  | callDeleted call => exact CallEvent.pid_callStatus _ _ _

namespace TafManager

theorem told_addLine (s : TafManager) (idx : Nat) (device : TafDevice) :
    (s.addLine idx device).told = s.told := by
  rw [addLine]
  split_ifs <;> rfl

theorem told_initTapi (s : TafManager) (devices : List TafDevice) :
    (s.initTapi devices).told = s.told := by
  suffices hloop : ∀ (ds : List (TafDevice × Nat)) (t : TafManager),
      (ds.foldl (fun s d => s.addLine d.2 d.1) t).told = t.told from hloop _ _
  intro ds
  induction ds with
  | nil => exact fun _ => rfl
  | cons d ds ih => exact fun t => (ih _).trans (told_addLine t _ _)

/-- A step tells events of the plug-in. -/
theorem told_step (s : TafManager) (ev : TapiEvent) :
    ∃ es, (s.step ev).told = s.told ++ es ∧ ∀ e ∈ es, e.pid = tapiPluginId := by
  have hquiet : ∀ t : TafManager, t.told = s.told →
      ∃ es, t.told = s.told ++ es ∧ ∀ e ∈ es, e.pid = tapiPluginId :=
    fun t ht => ⟨[], by rw [ht, List.append_nil], fun _ he => by cases he⟩
  cases ev with
  | init devices =>
      rw [step]
      split_ifs
      · exact hquiet _ rfl
      · exact hquiet _ (told_initTapi s devices)
  | create idx device =>
      rw [step]
      split_ifs
      · exact hquiet _ (told_addLine s idx device)
      · exact hquiet _ rfl
  | remove idx =>
      rw [step]
      split_ifs
      · rw [removeLine]
        split <;> exact hquiet _ rfl
      · exact hquiet _ rfl
  | message address m =>
      rw [step]
      split_ifs
      · cases hf : s.heap.find? address with
        | none => exact hquiet _ (by rw [lineMessage_none hf])
        | some line =>
            rw [lineMessage_some hf]
            refine ⟨_, rfl, fun e he => ?_⟩
            obtain ⟨ev, -, rfl⟩ := List.mem_map.mp he
            exact onTafEvent_pid ev
      · exact hquiet _ rfl
  | shutdown =>
      rw [step, shutdownTapi]
      split_ifs <;> exact hquiet _ rfl

end TafManager

namespace FritzMonitor
variable {p : Platform}

/-- A step tells an observer events of the plug-in. -/
theorem heard_pid {s : FritzMonitor} (h : s.Reads) (ev : MonitorEvent) (o : Nat) :
    ∃ es, (s.step p ev).heard o = s.heard o ++ es ∧ ∀ e ∈ es, e.pid = fritzPluginId := by
  obtain ⟨-, ls, -, htold⟩ := FritzMonitor.told_step (p := p) h ev
  refine ⟨_, by rw [heard, htold, List.filterMap_append]; rfl, fun e he => ?_⟩
  obtain ⟨⟨o', ev⟩, hmem, heq⟩ := List.mem_filterMap.mp he
  split_ifs at heq with ho
  obtain rfl := Option.some.inj heq
  obtain ⟨l, -, hmem⟩ := List.mem_flatMap.mp hmem
  obtain ⟨_, -, hmem⟩ := List.mem_flatMap.mp hmem
  obtain ⟨ev, hev, heq⟩ := List.mem_map.mp hmem
  obtain ⟨-, rfl⟩ := Prod.mk.inj heq
  obtain ⟨cid, ⟨_, _, rfl, -⟩ | ⟨_, rfl, -⟩ | ⟨_, rfl⟩⟩ := handleFritzMessage_not_disconnected hev
  · exact CallEvent.pid_newCall _ _ _ _
  · exact CallEvent.pid_callStatus _ _ _
  · exact CallEvent.pid_callInfo _ _ _

end FritzMonitor

/-! ### The messages of the box -/

namespace Message

/-- The id of the call, as it is told. -/
def callId : Message → Nat
  | call _ id _ _ _ _ | ring _ id _ _ | connect _ id _ _ | disconnect _ id _ => unsigned id.value

/-- What the message is for its call. -/
def mark : Message → Mark
  | call .. | ring .. => .opens
  | connect .. => .updates
  | disconnect .. => .closes

/-- What is told of a message is for the call what the message is. -/
theorem follow_events (m : Message) (cid : Nat) (isOpen : Bool) :
    follow CallEvent.cid CallEvent.mark cid isOpen m.events = turn callId mark cid isOpen m := by
  have hopens : ∀ (type : CallType) (status : CallStatus) (info : CallInfo),
      follow CallEvent.cid CallEvent.mark cid isOpen
        [.newCall fritzPluginId m.callId type status, .callInfo fritzPluginId m.callId info] =
      if m.callId = cid then Mark.opens.apply isOpen else some isOpen := by
    intro type status info
    have hcid : (CallEvent.newCall fritzPluginId m.callId type status).cid = m.callId := rfl
    rw [follow_cons, turn, hcid]
    by_cases hid : m.callId = cid
    · rw [if_pos hid, if_pos hid]
      cases isOpen with
      | true => rfl
      | false =>
          show follow CallEvent.cid CallEvent.mark cid true [_] = some true
          exact follow_of_updates fun e he _ => ⟨rfl, by rw [List.mem_singleton.mp he]; rfl⟩
    · rw [if_neg hid, if_neg hid, Option.bind_some]
      refine follow_of_updates fun e he hcid => absurd ?_ hid
      rwa [List.mem_singleton.mp he] at hcid
  have hstatus : ∀ status : CallStatus,
      follow CallEvent.cid CallEvent.mark cid isOpen [.callStatus fritzPluginId m.callId status] =
      if m.callId = cid then (CallEvent.callStatus fritzPluginId m.callId status).mark.apply isOpen
      else some isOpen := by
    intro status
    rw [follow_cons, turn]
    exact Option.bind_fun_some _
  cases m with
  | call | ring => exact hopens _ _ _
  | connect | disconnect => exact hstatus _

end Message

namespace CallSystem
variable {w : World} {db : JournalDb} {sent : Nat → List Sent} {s : CallSystem}

/-! ### The invariant -/

/-- The messages of the box that have arrived. -/
def arrived (s : CallSystem) (sent : Nat → List Sent) : List Message :=
  (FritzMonitor.arrived sent s.fritz.streams).map Sent.message

/-- The messages for TAPI fit, and the application is registered with a monitor once, while no call
of it is open. -/
def Orderly (sent : Nat → List Sent) (s : CallSystem) : SystemStep → Prop
  | .tapi ev => s.tapi.Fits ev
  | .fritz ev => FritzMonitor.Leaves appObserver ev
  | .registerTapi => s.tapiListeners = 0 ∧ ∀ h, ¬ s.tapi.Reported h
  | .registerFritz => appObserver ∉ s.fritz.listeners ∧
      ∀ cid, follow Message.callId Message.mark cid false (s.arrived sent) = some false
  | .handle _ | .work _ | .deliver _ => True

/-- What was told by a plug-in. -/
def postedBy (s : CallSystem) (pid : Nat) : List CallEvent := s.posted.filter fun e => e.pid = pid

/-- What was told is what the two monitors told since the application was registered, when no call
was open, and the application has handled some of it. -/
structure Inv (w : World) (db : JournalDb) (sent : Nat → List Sent) (s : CallSystem) : Prop where
  app : s.app = run (App.step w) (App.start db) s.handled
  pids : ∀ e ∈ s.posted, e.pid = tapiPluginId ∨ e.pid = fritzPluginId
  sound : s.tapi.Sound
  reads : s.fritz.Reads
  tapi : ∃ old, s.tapi.told = old ++ s.postedBy tapiPluginId ∧
    (s.tapiListeners = 0 ∧ s.postedBy tapiPluginId = [] ∨ s.tapiListeners = 1 ∧
      ∀ h, follow CallEvent.cid CallEvent.mark h false old = some false)
  fritz : FritzMonitor.Carries sent s.fritz.streams → ∃ old new,
    FritzMonitor.arrived sent s.fritz.streams = old ++ new ∧
    s.postedBy fritzPluginId = new.flatMap (fun m => m.message.events) ∧
    (s.fritz.listeners.count appObserver = 0 ∧ new = [] ∨
      s.fritz.listeners.count appObserver = 1 ∧ ∀ cid,
        follow Message.callId Message.mark cid false (old.map Sent.message) = some false)

theorem Inv.start (w : World) (db : JournalDb) (sent : Nat → List Sent) :
    (CallSystem.start db).Inv w db sent where
  app := rfl
  pids _ he := by cases he
  sound := TafManager.sound_create
  reads := FritzMonitor.reads_init
  tapi := ⟨[], rfl, .inl ⟨rfl, rfl⟩⟩
  fritz _ := ⟨[], [], rfl, rfl, .inl ⟨rfl, rfl⟩⟩

theorem callEvents_append (evs evs' : List AppEvent) :
    callEvents (evs ++ evs') = callEvents evs ++ callEvents evs' := List.filterMap_append

theorem filter_pid_append {es es' : List CallEvent} {pid pid' : Nat} (h : ∀ e ∈ es', e.pid = pid') :
    (es ++ es').filter (fun e => e.pid = pid) =
      es.filter (fun e => e.pid = pid) ++ if pid' = pid then es' else [] := by
  rw [List.filter_append]
  refine congrArg (es.filter _ ++ ·) ?_
  split_ifs with hp
  · exact List.filter_eq_self.mpr fun e he => decide_eq_true ((h e he).trans hp)
  · exact List.filter_eq_nil_iff.mpr fun e he heq =>
      hp ((h e he).symm.trans (of_decide_eq_true heq))

theorem tapi_ne_fritz : tapiPluginId ≠ fritzPluginId := by decide

/-- The application handles an event that was in front of the queue, or that is not of a plug-in. -/
theorem Inv.handle (h : s.Inv w db sent) {ev : AppEvent} {pending : List CallEvent}
    (hpending : s.pending = callEvents [ev] ++ pending) :
    ({ s with pending }.handle w ev).Inv w db sent := by
  have hposted : ({ s with pending }.handle w ev).posted = s.posted := by
    show callEvents (s.handled ++ [ev]) ++ pending = s.posted
    rw [posted, hpending, callEvents_append, List.append_assoc]
  have hby : ({ s with pending }.handle w ev).postedBy = s.postedBy := by
    funext pid
    rw [postedBy, postedBy, hposted]
  refine ⟨?_, by rw [hposted]; exact h.pids, h.sound, h.reads, by rw [hby]; exact h.tapi,
    by rw [hby]; exact h.fritz⟩
  show s.app.step w ev = run (App.step w) (App.start db) (s.handled ++ [ev])
  rw [run_append, ← h.app]
  rfl

/-- What is told to the application comes behind what was told, in the list of its plug-in. -/
theorem postedBy_append {s' : CallSystem} {es : List CallEvent} {pid' : Nat}
    (hposted : s'.posted = s.posted ++ es) (hpid : ∀ e ∈ es, e.pid = pid') (pid : Nat) :
    s'.postedBy pid = s.postedBy pid ++ if pid' = pid then es else [] := by
  rw [postedBy, postedBy, hposted, filter_pid_append hpid]

/-- A message for TAPI. -/
theorem Inv.tapiStep (h : s.Inv w db sent) {ev : TapiEvent} (hfits : s.tapi.Fits ev) :
    (s.step w (.tapi ev)).Inv w db sent := by
  obtain ⟨es, htold, hpid⟩ := s.tapi.told_step ev
  obtain ⟨old, hold, hlisteners⟩ := h.tapi
  set es' := es.flatMap (List.replicate s.tapiListeners) with hes'
  have hposted : (s.step w (.tapi ev)).posted = s.posted ++ es' := by
    rw [CallSystem.step, posted, posted, htold, List.drop_left, List.append_assoc]
  have hpid' : ∀ e ∈ es', e.pid = tapiPluginId := by
    intro e he
    obtain ⟨e', he', hmem⟩ := List.mem_flatMap.mp he
    rw [List.eq_of_mem_replicate hmem]
    exact hpid e' he'
  have htapi := postedBy_append hposted hpid' tapiPluginId
  have hfritz := postedBy_append hposted hpid' fritzPluginId
  rw [if_pos rfl] at htapi
  rw [if_neg tapi_ne_fritz, List.append_nil] at hfritz
  refine ⟨h.app, ?_, h.sound.step hfits, h.reads, ?_, by rw [hfritz]; exact h.fritz⟩
  · rw [hposted]
    exact List.forall_mem_append.mpr ⟨h.pids, fun e he => .inl (hpid' e he)⟩
  · rw [htapi]
    show ∃ old, (s.tapi.step ev).told = _ ∧ (s.tapiListeners = 0 ∧ _ ∨ s.tapiListeners = 1 ∧ _)
    rcases hlisteners with ⟨hnone, hnil⟩ | ⟨hone, hclosed⟩
    · -- nobody listens
      have hes : es' = [] := by simp [hes', hnone]
      refine ⟨old ++ es, ?_, .inl ⟨hnone, by rw [hnil, hes]; rfl⟩⟩
      rw [htold, hold, hnil, hes, List.append_nil, List.append_nil, List.append_nil]
    · have hes : es' = es := by
        rw [hes', hone]
        exact List.flatMap_singleton' es
      refine ⟨old, ?_, .inr ⟨hone, hclosed⟩⟩
      rw [htold, hold, hes, List.append_assoc]

/-- A turn of the thread of the box. -/
theorem Inv.fritzStep (h : s.Inv w db sent) {ev : MonitorEvent}
    (hleaves : FritzMonitor.Leaves appObserver ev) : (s.step w (.fritz ev)).Inv w db sent := by
  obtain ⟨es, hheard, hpid⟩ := FritzMonitor.heard_pid (p := w.platform) h.reads ev appObserver
  have hposted : (s.step w (.fritz ev)).posted = s.posted ++ es := by
    rw [CallSystem.step, posted, posted, hheard, List.drop_left, List.append_assoc]
  have htapi := postedBy_append hposted hpid tapiPluginId
  have hfritz := postedBy_append hposted hpid fritzPluginId
  rw [if_neg tapi_ne_fritz.symm, List.append_nil] at htapi
  rw [if_pos rfl] at hfritz
  refine ⟨h.app, ?_, h.sound, (FritzMonitor.told_step h.reads ev).1, by rw [htapi]; exact h.tapi,
    fun hc => ?_⟩
  · rw [hposted]
    exact List.forall_mem_append.mpr ⟨h.pids, fun e he => .inr (hpid e he)⟩
  · obtain ⟨hc₀, new', harrived, hheard'⟩ := FritzMonitor.heard_step h.reads ev appObserver hc
    obtain ⟨old, new, hold, hnew, hlisteners⟩ := h.fritz hc₀
    have hes : es = new'.flatMap fun m =>
        (List.replicate (s.fritz.listeners.count appObserver) m.message.events).flatten :=
      List.append_cancel_left (hheard.symm.trans hheard')
    have hcount := FritzMonitor.count_listeners (p := w.platform) (s := s.fritz) hleaves
    rw [hfritz, hnew]
    show ∃ old new, FritzMonitor.arrived sent (s.fritz.step w.platform ev).streams = _ ∧ _ ∧
      ((s.fritz.step w.platform ev).listeners.count appObserver = 0 ∧ _ ∨
        (s.fritz.step w.platform ev).listeners.count appObserver = 1 ∧ _)
    rw [harrived, hold, hcount]
    rcases hlisteners with ⟨hnone, rfl⟩ | ⟨hone, hclosed⟩
    · refine ⟨old ++ new', [], by simp, ?_, .inl ⟨hnone, rfl⟩⟩
      rw [hes, hnone]
      simp
    · refine ⟨old, new ++ new', by simp, ?_, .inr ⟨hone, hclosed⟩⟩
      rw [hes, hone, List.flatMap_append]
      simp

/-- **One step.** -/
theorem Inv.step (h : s.Inv w db sent) {a : SystemStep} (ho : s.Orderly sent a) :
    (s.step w a).Inv w db sent := by
  cases a with
  | tapi ev => exact h.tapiStep ho
  | fritz ev => exact h.fritzStep ho
  | registerTapi =>
      obtain ⟨hnone, hreported⟩ := ho
      obtain ⟨old, hold, hlisteners⟩ := h.tapi
      have hnil : s.postedBy tapiPluginId = [] := by
        rcases hlisteners with ⟨-, hnil⟩ | ⟨hone, -⟩
        · exact hnil
        · omega
      refine ⟨h.app, h.pids, h.sound, h.reads, ⟨old, hold, .inr ⟨by rw [CallSystem.step, hnone],
        fun cid => ?_⟩⟩, h.fritz⟩
      -- no call is reported, so what was told has ended
      obtain ⟨isOpen, hopen, hiff⟩ := TafManager.observed_iff_follow.mp h.sound.observed cid
      rw [hold, hnil, List.append_nil] at hopen
      rw [hopen, Bool.eq_false_iff.mpr fun hb => hreported cid (hiff.mp hb)]
  | registerFritz =>
      obtain ⟨hnone, hclosed⟩ := ho
      refine ⟨h.app, h.pids, h.sound, ⟨h.reads.connecting, h.reads.reading⟩, h.tapi, fun hc => ?_⟩
      obtain ⟨old, new, hold, hnew, hlisteners⟩ := h.fritz hc
      have hnil : new = [] := by
        rcases hlisteners with ⟨-, hnil⟩ | ⟨hone, -⟩
        · exact hnil
        · rw [List.count_eq_zero_of_not_mem hnone] at hone
          cases hone
      have hcount : (s.fritz.listeners ++ [appObserver]).count appObserver = 1 := by
        rw [List.count_append, List.count_eq_zero_of_not_mem hnone, List.count_singleton_self]
      refine ⟨old, new, hold, hnew, .inr ⟨hcount, fun cid => ?_⟩⟩
      have hall := hclosed cid
      rwa [arrived, hold, hnil, List.append_nil] at hall
  | handle m =>
      rw [CallSystem.step]
      split
      · exact h
      · rename_i ev pending hpending
        exact h.handle hpending
  | work resolvers =>
      have hpending : s.pending = callEvents [.work resolvers] ++ s.pending := rfl
      exact h.handle hpending
  | deliver m =>
      have hpending : s.pending = callEvents [.deliver m] ++ s.pending := rfl
      exact h.handle hpending

/-! ### What the application holds -/

/-- What was told of the calls of a plug-in, under its id. -/
theorem follow_pid (pid cid : Nat) (isOpen : Bool) (es : List CallEvent) :
    follow CallEvent.key CallEvent.mark (journalKey pid cid) isOpen es =
      follow CallEvent.cid CallEvent.mark cid isOpen (es.filter fun e => e.pid = pid) := by
  rw [← follow_filter_of (p := fun e => e.pid = pid) fun e he => (CallEvent.key_eq_iff.mp he).1]
  refine follow_key_congr (fun e he => ?_) isOpen
  have hpid : e.pid = pid := of_decide_eq_true (List.mem_filter.mp he).2
  rw [CallEvent.key_eq_iff, and_iff_right hpid]

/-- What TAPI told since the application was registered leads to the calls it reports. -/
theorem Inv.follow_tapi (h : s.Inv w db sent) (cid : Nat) :
    (follow CallEvent.cid CallEvent.mark cid false (s.postedBy tapiPluginId)).isSome = true ∧
      (0 < s.tapiListeners → ∃ isOpen,
        follow CallEvent.cid CallEvent.mark cid false (s.postedBy tapiPluginId) = some isOpen ∧
          (isOpen = true ↔ s.tapi.Reported cid)) := by
  obtain ⟨old, hold, ⟨hnone, hnil⟩ | ⟨hone, hclosed⟩⟩ := h.tapi
  · rw [hnil]
    exact ⟨rfl, fun hpos => absurd hpos (by omega)⟩
  · obtain ⟨isOpen, hopen, hiff⟩ := TafManager.observed_iff_follow.mp h.sound.observed cid
    rw [hold, follow_append, hclosed cid, Option.bind_some] at hopen
    exact ⟨by rw [hopen]; rfl, fun _ => ⟨isOpen, hopen, hiff⟩⟩

/-- And what was told of the messages of the box leads where they lead. -/
theorem Inv.follow_fritz (h : s.Inv w db sent)
    (hcarries : FritzMonitor.Carries sent s.fritz.streams) (cid : Nat)
    (hbox : (follow Message.callId Message.mark cid false (s.arrived sent)).isSome = true) :
    (follow CallEvent.cid CallEvent.mark cid false (s.postedBy fritzPluginId)).isSome = true ∧
      (appObserver ∈ s.fritz.listeners →
        follow CallEvent.cid CallEvent.mark cid false (s.postedBy fritzPluginId) =
          follow Message.callId Message.mark cid false (s.arrived sent)) := by
  obtain ⟨old, new, hold, hnew, ⟨hnone, rfl⟩ | ⟨hone, hclosed⟩⟩ := h.fritz hcarries
  · rw [hnew]
    exact ⟨rfl, fun hmem => absurd hmem (List.count_eq_zero.mp hnone)⟩
  · have hnews : follow CallEvent.cid CallEvent.mark cid false (s.postedBy fritzPluginId) =
        follow Message.callId Message.mark cid false (new.map Sent.message) := by
      rw [hnew, ← List.flatMap_map (f := Sent.message) (g := Message.events)]
      exact follow_flatMap (fun m isOpen => m.follow_events cid isOpen) false _
    have hall : follow Message.callId Message.mark cid false (s.arrived sent) =
        follow Message.callId Message.mark cid false (new.map Sent.message) := by
      rw [arrived, hold, List.map_append, follow_append, hclosed cid, Option.bind_some]
    rw [hnews, ← hall]
    exact ⟨hbox, fun _ => rfl⟩

/-- **The application and its queue**: when what each monitor told are episodes of its calls. -/
theorem Inv.follow (h : s.Inv w db sent)
    (htapi : ∀ cid, (follow CallEvent.cid CallEvent.mark cid false
      (s.postedBy tapiPluginId)).isSome = true)
    (hfritz : ∀ cid, (follow CallEvent.cid CallEvent.mark cid false
      (s.postedBy fritzPluginId)).isSome = true) :
    s.app.lost = [] ∧ ∀ k, Episodes.follow CallEvent.key CallEvent.mark k
      (s.app.activeCalls.find? k).isSome s.pending =
        Episodes.follow CallEvent.key CallEvent.mark k false s.posted := by
  have hall : ∀ k, (Episodes.follow CallEvent.key CallEvent.mark k false s.posted).isSome =
      true := by
    intro k
    obtain ⟨pid, cid, rfl⟩ : ∃ pid cid, k = journalKey pid cid := ⟨_, _, rfl⟩
    rw [follow_pid]
    by_cases ht : pid = tapiPluginId
    · rw [ht]
      exact htapi cid
    · by_cases hf : pid = fritzPluginId
      · rw [hf]
        exact hfritz cid
      · have hnil : s.posted.filter (fun e => e.pid = pid) = [] := by
          refine List.filter_eq_nil_iff.mpr fun e he heq => ?_
          have hpid : e.pid = pid := of_decide_eq_true heq
          exact (h.pids e he).elim (fun e' => ht (hpid.symm.trans e'))
            fun e' => hf (hpid.symm.trans e')
        rw [hnil]
        rfl
  have hhandled : ∀ k, (Episodes.follow CallEvent.key CallEvent.mark k false
      (callEvents s.handled)).isSome = true := by
    intro k
    have hk := hall k
    rw [posted, follow_append] at hk
    exact Option.isSome_of_isSome_bind hk
  obtain ⟨hlost, hfollow⟩ := App.follow_run w db s.handled hhandled
  rw [← h.app] at hlost hfollow
  refine ⟨hlost, fun k => ?_⟩
  rw [posted, follow_append, hfollow k]
  rfl

/-- **The calls of the monitors are the calls of the application**, along every run in which the
application is registered with each monitor at most once, while no call of it is open, the messages
for the lines of TAPI fit, and the messages of the box that arrive are episodes of its calls: the
map takes every entry, and once the application is registered, what is left in the queue leads from
the active calls to the reported calls of the lines and to the open calls of the box.  When the
queue is empty they are the same. -/
theorem mirrors (w : World) (db : JournalDb) (steps : List SystemStep) (sent : Nat → List Sent)
    (horderly : Along (step w) (Orderly sent) (start db) steps)
    (hcarries : FritzMonitor.Carries sent (run (step w) (start db) steps).fritz.streams)
    (hbox : ∀ cid, (follow Message.callId Message.mark cid false
      ((run (step w) (start db) steps).arrived sent)).isSome = true) :
    let s := run (step w) (start db) steps
    s.app.lost = [] ∧
      (0 < s.tapiListeners → ∀ h, ∃ isOpen,
        follow CallEvent.key CallEvent.mark (journalKey tapiPluginId h)
          (s.app.activeCalls.find? (journalKey tapiPluginId h)).isSome s.pending = some isOpen ∧
            (isOpen = true ↔ s.tapi.Reported h)) ∧
      (appObserver ∈ s.fritz.listeners → ∀ cid,
        follow CallEvent.key CallEvent.mark (journalKey fritzPluginId cid)
          (s.app.activeCalls.find? (journalKey fritzPluginId cid)).isSome s.pending =
            follow Message.callId Message.mark cid false (s.arrived sent)) := by
  have hinv : (run (step w) (start db) steps).Inv w db sent :=
    Along.inv (fun _ _ h ho => h.step ho) (.start w db sent) horderly
  obtain ⟨hlost, hfollow⟩ := hinv.follow (fun cid => (hinv.follow_tapi cid).1)
    fun cid => (hinv.follow_fritz hcarries cid (hbox cid)).1
  refine ⟨hlost, fun hpos h => ?_, fun hmem cid => ?_⟩
  · obtain ⟨isOpen, hopen, hreported⟩ := (hinv.follow_tapi h).2 hpos
    refine ⟨isOpen, ?_, hreported⟩
    rw [hfollow, follow_pid]
    exact hopen
  · rw [hfollow, follow_pid]
    exact (hinv.follow_fritz hcarries cid (hbox cid)).2 hmem

/-- The monitors run, the application is registered, a call comes on a line of TAPI and one at the
box; the application has taken the news of the first one from the queue. -/
def twoCalls : List SystemStep :=
  [.tapi (.init [⟨true, 7, true, true⟩]), .fritz .start, .registerTapi, .fritz (.initSocket true),
    .registerFritz, .tapi (.message 0 (.appNewCall 5 none)),
    .tapi (.message 0 (.callState 5 .offering)), .fritz (.recv ";RING;0;;;\r\n".toList),
    .handle (.quiet 1)]

theorem mirrors_twoCalls :
    let sent (_ : Nat) : List Sent := [⟨.ring .empty .zero .empty .empty, true⟩]
    let s := run (step .utc) (start .initial) twoCalls
    s.app.lost = [] ∧
      (0 < s.tapiListeners → ∀ h, ∃ isOpen,
        follow CallEvent.key CallEvent.mark (journalKey tapiPluginId h)
          (s.app.activeCalls.find? (journalKey tapiPluginId h)).isSome s.pending = some isOpen ∧
            (isOpen = true ↔ s.tapi.Reported h)) ∧
      (appObserver ∈ s.fritz.listeners → ∀ cid,
        follow CallEvent.key CallEvent.mark (journalKey fritzPluginId cid)
          (s.app.activeCalls.find? (journalKey fritzPluginId cid)).isSome s.pending =
            follow Message.callId Message.mark cid false (s.arrived sent)) := by
  intro sent
  have hmem : ∀ {id a : Nat}, (OrderedMap.empty.put 7 0 : OrderedMap Nat Nat).find? id = some a →
      id = 7 ∧ a = 0 := by
    intro id a hm
    have hmem : (id, a) ∈ [(7, 0)] := OrderedMap.mem_entries.mpr hm
    exact Prod.mk.inj (List.mem_singleton.mp hmem)
  have htapi : Along TafManager.step TafManager.Fits .create
      [.init [⟨true, 7, true, true⟩], .message 0 (.appNewCall 5 none),
        .message 0 (.callState 5 .offering)] := by
    refine ⟨trivial, fun _ _ _ => trivial, ?_, trivial⟩
    refine fun _ line hline call hcall hreported => ⟨by decide, fun _ => ⟨⟨7, by decide⟩, ?_⟩⟩
    rintro ⟨a, line, ⟨id, hm⟩, hf, hh⟩
    obtain ⟨rfl, rfl⟩ := hmem hm
    obtain rfl := Option.some.inj hf
    obtain ⟨call, hc, hr⟩ := hh
    obtain rfl := Option.some.inj hc
    cases hr
  -- the line has no call when the application is registered
  have hquiet : ∀ h, ¬ (TafManager.create.step (.init [⟨true, 7, true, true⟩])).Reported h := by
    rintro h ⟨a, line, ⟨id, hm⟩, hf, call, hc, -⟩
    obtain ⟨rfl, rfl⟩ := hmem hm
    obtain rfl := Option.some.inj hf
    cases hc
  have hclosed : ∀ cid, follow Message.callId Message.mark cid false
      ((run (step .utc) (start .initial) (twoCalls.take 4)).arrived sent) = some false :=
    fun _ => rfl
  have horderly : Along (step .utc) (Orderly sent) (start .initial) twoCalls :=
    ⟨htapi.1, ⟨nofun, nofun⟩, ⟨rfl, hquiet⟩, ⟨nofun, nofun⟩, ⟨by decide, hclosed⟩, htapi.2.1,
      htapi.2.2.1, ⟨nofun, nofun⟩, trivial, trivial⟩
  have hstreams : (run (step .utc) (start .initial) twoCalls).fritz.streams =
      [";RING;0;;;\r\n".toList] := by
    decide
  have hcarries : FritzMonitor.Carries sent
      (run (step .utc) (start .initial) twoCalls).fritz.streams := by
    rw [hstreams]
    rintro (_ | i) stream h
    · obtain rfl := Option.some.inj h
      decide
    · cases h
  have harrived : (run (step .utc) (start .initial) twoCalls).arrived sent =
      [.ring .empty .zero .empty .empty] := by
    rw [arrived, hstreams]
    rfl
  refine mirrors .utc .initial twoCalls sent horderly hcarries fun cid => ?_
  rw [harrived, follow_cons, turn]
  split_ifs <;> rfl

end CallSystem
end Cmon
