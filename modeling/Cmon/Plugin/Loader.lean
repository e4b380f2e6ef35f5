import Mathlib.Data.List.Induction
import Mathlib.Logic.Function.Iterate
import Cmon.Library.OrderedMap
import Cmon.Plugin.CallMonitor

/-!
# Plug-in — the loader

The call monitors among the plug-ins, the proxies by which the application reaches them, and the
two loops of the application over these, in `OnInit` and in `CleanUp`.  A plug-in is loaded once,
its address is its place in the order of loading; `std::map::insert` keeps the proxy that the map
has, so that of several plug-ins with one id only the first can be reached.

A monitor tells an event to its observers, each as often as it stands in the list.

* `received_onInit`: while the application runs, it is told each event of the plug-ins that can be
  reached, once.
* `received_cleanUp`: after the loop of `CleanUp`, which registers the application again, it is
  told each of them twice.
* `deregistered`: the same loop with `deregisterCallObserver` would leave no observer.
-/

namespace Cmon
open Library

/-- `CGUID`, which is ordered by its bytes. -/
abbrev CGuid := Nat

/-- A call monitor: `getID` and `m_Listeners`. -/
structure CallMonitor where
  id : CGuid
  listeners : List Nat
  deriving DecidableEq, Repr

namespace CallMonitor

/-- `registerCallObserver`, the same in every plug-in. -/
def registerCallObserver (m : CallMonitor) (o : Nat) : CallMonitor :=
  { m with listeners := m.listeners ++ [o] }

/-- `deregisterCallObserver`, the same in every plug-in. -/
def deregisterCallObserver (m : CallMonitor) (o : Nat) : CallMonitor :=
  { m with listeners := m.listeners.erase o }

end CallMonitor

/-- `CPluginLoader`, with the call monitors that are loaded.  A proxy is the address of its
plug-in; it is reset when the plug-in is deleted, which the loops below precede. -/
structure PluginLoader where
  plugins : List CallMonitor
  callMonitors : OrderedMap CGuid Nat

/-- An event of the plug-in at an address. -/
abbrev PluginEvent := Nat × CallEvent

/-- The application, as an observer. -/
def mainApp : Nat := 0

namespace PluginLoader

def empty : PluginLoader := ⟨[], .empty⟩

/-- `registerModule`, by a new plug-in. -/
def registerModule (s : PluginLoader) (id : CGuid) : PluginLoader :=
  ⟨s.plugins ++ [⟨id, []⟩], s.callMonitors.insert id s.plugins.length⟩

/-- `init`, over plug-ins with these ids. -/
def init (ids : List CGuid) : PluginLoader := ids.foldl registerModule empty

/-- A loop over `getCallMonitors`. -/
def forCallMonitors (s : PluginLoader) (f : CallMonitor → CallMonitor) : PluginLoader :=
  { s with plugins := (s.callMonitors.entries.map (·.2)).foldl (·.modify · f) s.plugins }

/-- The end of `CMainApp::OnInit`. -/
def onInit (s : PluginLoader) : PluginLoader :=
  s.forCallMonitors (·.registerCallObserver mainApp)

/-- The beginning of `CMainApp::CleanUp`. -/
def cleanUp (s : PluginLoader) : PluginLoader :=
  s.forCallMonitors (·.registerCallObserver mainApp)

def listenersOf (s : PluginLoader) (p : Nat) : List Nat :=
  (s.plugins[p]?.map (·.listeners)).getD []

/-- What the observer `o` is told of the events. -/
def received (s : PluginLoader) (o : Nat) (evs : List PluginEvent) : List CallEvent :=
  evs.flatMap fun e => ((s.listenersOf e.1).filter (· = o)).map fun _ => e.2

/-- With the plug-ins `ids` loaded, the application is told every event once while it runs, and is
no observer any more when the loop of `CleanUp` is through. -/
structure ObservesOnce (ids : List CGuid) : Prop where
  running : ∀ evs : List PluginEvent, (∀ e ∈ evs, e.1 < ids.length) →
    (init ids).onInit.received mainApp evs = evs.map (·.2)
  cleared : ∀ m ∈ (init ids).onInit.cleanUp.plugins, mainApp ∉ m.listeners
  quiet : ∀ evs, (init ids).onInit.cleanUp.received mainApp evs = []

/-! ### The plug-ins that are loaded -/

theorem init_concat (ids : List CGuid) (id : CGuid) :
    init (ids ++ [id]) = (init ids).registerModule id := by
  rw [init, List.foldl_append]
  rfl

theorem plugins_init (ids : List CGuid) : (init ids).plugins = ids.map fun id => ⟨id, []⟩ := by
  induction ids using List.reverseRecOn with
  | nil => rfl
  | append_singleton ids id ih => rw [init_concat, registerModule, ih, List.map_append]; rfl

/-- The proxy with an id is that of the first plug-in with the id. -/
theorem find?_init (ids : List CGuid) (id : CGuid) :
    (init ids).callMonitors.find? id = if id ∈ ids then some (ids.idxOf id) else none := by
  induction ids using List.reverseRecOn with
  | nil => rfl
  | append_singleton ids new ih =>
      rw [init_concat, registerModule]
      have hlen : (init ids).plugins.length = ids.length := by rw [plugins_init, List.length_map]
      by_cases hnew : id = new
      · subst hnew
        rw [OrderedMap.find?_insert_self, ih, hlen]
        by_cases hmem : id ∈ ids
        · simp [hmem, List.idxOf_append_of_mem hmem]
        · simp [hmem, List.idxOf_append_of_notMem hmem]
      · rw [OrderedMap.find?_insert_of_ne _ hnew, ih]
        by_cases hmem : id ∈ ids
        · simp [hmem, List.idxOf_append_of_mem hmem]
        · simp [hmem, hnew]

/-- A plug-in can be reached when it is the first with its id. -/
def Reached (ids : List CGuid) (p : Nat) : Prop := ∃ id, ids[p]? = some id ∧ ids.idxOf id = p

instance (ids : List CGuid) (p : Nat) : Decidable (Reached ids p) :=
  inferInstanceAs (Decidable (∃ id ∈ ids[p]?, _))

/-- One proxy refers to a plug-in that can be reached, and none to another. -/
theorem count_proxies (ids : List CGuid) (p : Nat) :
    ((init ids).callMonitors.entries.map (·.2)).count p = if Reached ids p then 1 else 0 := by
  have hmem : ∀ e, e ∈ (init ids).callMonitors.entries → e.1 ∈ ids ∧ e.2 = ids.idxOf e.1 := by
    rintro ⟨id, q⟩ he
    have hf := OrderedMap.mem_entries.mp he
    rw [find?_init] at hf
    split at hf
    · rename_i hid
      exact ⟨hid, (Option.some.inj hf).symm⟩
    · cases hf
  have hnodup : ((init ids).callMonitors.entries.map (·.2)).Nodup := by
    refine List.Nodup.map_on ?_ (init ids).callMonitors.entries_nodup
    intro e he e' he' heq
    obtain ⟨hid, hidx⟩ := hmem e he
    obtain ⟨-, hidx'⟩ := hmem e' he'
    exact Prod.ext ((List.idxOf_inj hid).mp (hidx ▸ hidx' ▸ heq)) heq
  split
  · rename_i h
    obtain ⟨id, hp, rfl⟩ := h
    have hid : id ∈ ids := List.mem_of_getElem? hp
    have hf : (init ids).callMonitors.find? id = some (ids.idxOf id) := by
      rw [find?_init, if_pos hid]
    exact List.count_eq_one_of_mem hnodup (List.mem_map.mpr ⟨_, OrderedMap.mem_entries.mpr hf, rfl⟩)
  · rename_i h
    refine List.count_eq_zero.mpr fun hc => h ?_
    obtain ⟨e, he, rfl⟩ := List.mem_map.mp hc
    obtain ⟨hid, he2⟩ := hmem e he
    exact ⟨e.1, he2 ▸ List.getElem?_idxOf hid, he2.symm⟩

/-! ### The loops -/

/-- Each plug-in gets the call once for each of its proxies. -/
theorem getElem?_forCallMonitors (f : CallMonitor → CallMonitor) (plugins : List CallMonitor)
    (proxies : List Nat) (p : Nat) :
    (proxies.foldl (·.modify · f) plugins)[p]? = plugins[p]?.map f^[proxies.count p] := by
  induction proxies generalizing plugins with
  | nil => simp
  | cons x xs ih =>
      rw [List.foldl_cons, ih, List.getElem?_modify, List.count_cons]
      split
      · rename_i h
        subst h
        simp
      · rename_i h
        simp [h]

/-- What a loop over the proxies does, `n` times in all, to the plug-ins as they were loaded. -/
theorem plugins_forCallMonitors (ids : List CGuid) {s : PluginLoader}
    (hs : s.callMonitors = (init ids).callMonitors) (f : CallMonitor → CallMonitor) (p : Nat) :
    (s.forCallMonitors f).plugins[p]? =
      s.plugins[p]?.map fun m => if Reached ids p then f m else m := by
  rw [forCallMonitors, getElem?_forCallMonitors, hs, count_proxies]
  congr 1
  split <;> rfl

theorem listenersOf_init (ids : List CGuid) (p : Nat) : (init ids).listenersOf p = [] := by
  rw [listenersOf, plugins_init, List.getElem?_map]
  cases ids[p]? <;> rfl

/-- A registration of the application with every proxy. -/
theorem listenersOf_register (ids : List CGuid) {s : PluginLoader}
    (hs : s.callMonitors = (init ids).callMonitors) (hlen : s.plugins.length = ids.length)
    (p : Nat) :
    (s.forCallMonitors (·.registerCallObserver mainApp)).listenersOf p =
      s.listenersOf p ++ if Reached ids p then [mainApp] else [] := by
  rw [listenersOf, listenersOf, plugins_forCallMonitors ids hs]
  cases hp : s.plugins[p]? with
  | none =>
      have hreach : ¬ Reached ids p := by
        rintro ⟨id, hid, -⟩
        rw [List.getElem?_eq_none_iff, hlen] at hp
        rw [List.getElem?_eq_none hp] at hid
        cases hid
      simp [hreach]
  | some m => split <;> simp [CallMonitor.registerCallObserver]

theorem length_forCallMonitors (s : PluginLoader) (f : CallMonitor → CallMonitor) :
    (s.forCallMonitors f).plugins.length = s.plugins.length := by
  have h : ∀ (proxies : List Nat) (plugins : List CallMonitor),
      (proxies.foldl (·.modify · f) plugins).length = plugins.length := by
    intro proxies
    induction proxies with
    | nil => exact fun _ => rfl
    | cons p proxies ih => exact fun plugins => (ih _).trans (List.length_modify ..)
  exact h _ _

theorem length_init (ids : List CGuid) : (init ids).plugins.length = ids.length := by
  rw [plugins_init, List.length_map]

theorem listenersOf_onInit (ids : List CGuid) (p : Nat) :
    (init ids).onInit.listenersOf p = if Reached ids p then [mainApp] else [] := by
  rw [onInit, listenersOf_register ids rfl (length_init ids), listenersOf_init, List.nil_append]

theorem listenersOf_cleanUp (ids : List CGuid) (p : Nat) :
    (init ids).onInit.cleanUp.listenersOf p = if Reached ids p then [mainApp, mainApp] else [] := by
  have hlen : (init ids).onInit.plugins.length = ids.length :=
    (length_forCallMonitors _ _).trans (length_init ids)
  rw [cleanUp, listenersOf_register ids (s := (init ids).onInit) rfl hlen, listenersOf_onInit]
  split <;> rfl

/-! ### What the application is told -/

/-- **While the application runs** it is told each event of a plug-in it can reach, once. -/
theorem received_onInit (ids : List CGuid) (evs : List PluginEvent) :
    (init ids).onInit.received mainApp evs =
      (evs.filter fun e => Reached ids e.1).map (·.2) := by
  induction evs with
  | nil => rfl
  | cons e evs ih =>
      rw [received] at ih ⊢
      rw [List.flatMap_cons, ih, listenersOf_onInit, List.filter_cons]
      by_cases h : Reached ids e.1 <;> simp [h]

/-- **After the loop of `CleanUp`** it is told each of them twice. -/
theorem received_cleanUp (ids : List CGuid) (evs : List PluginEvent) :
    (init ids).onInit.cleanUp.received mainApp evs =
      (evs.filter fun e => Reached ids e.1).flatMap fun e => [e.2, e.2] := by
  induction evs with
  | nil => rfl
  | cons e evs ih =>
      rw [received] at ih ⊢
      rw [List.flatMap_cons, ih, listenersOf_cleanUp, List.filter_cons]
      by_cases h : Reached ids e.1 <;> simp [h]

/-- Plug-ins with different ids can all be reached. -/
theorem reached_of_nodup {ids : List CGuid} (h : ids.Nodup) {p : Nat} (hp : p < ids.length) :
    Reached ids p :=
  ⟨ids[p], List.getElem?_eq_getElem hp, h.idxOf_getElem p hp⟩

/-- Of plug-ins with different ids, the application is told each event once. -/
theorem received_running {ids : List CGuid} (h : ids.Nodup) {evs : List PluginEvent}
    (hevs : ∀ e ∈ evs, e.1 < ids.length) :
    (init ids).onInit.received mainApp evs = evs.map (·.2) := by
  rw [received_onInit, List.filter_eq_self.mpr fun e he => ?_]
  exact decide_eq_true (reached_of_nodup h (hevs e he))

/-- The loop of `CleanUp` with the other function of the interface. -/
theorem deregistered (ids : List CGuid) (p : Nat) :
    ((init ids).onInit.forCallMonitors (·.deregisterCallObserver mainApp)).listenersOf p = [] := by
  have hp := listenersOf_onInit ids p
  rw [listenersOf] at hp ⊢
  rw [plugins_forCallMonitors ids (s := (init ids).onInit) rfl]
  cases hm : (init ids).onInit.plugins[p]? with
  | none => rfl
  | some m =>
      rw [hm] at hp
      by_cases h : Reached ids p
      · simp_all [CallMonitor.deregisterCallObserver]
      · simpa [h] using hp

/-- **Observing once.**  The application is told each event once and is no observer in the end
exactly if no call monitor is loaded. -/
theorem observesOnce_iff (ids : List CGuid) : ObservesOnce ids ↔ ids = [] := by
  constructor
  · intro h
    cases ids with
    | nil => rfl
    | cons id ids =>
        have hquiet := h.quiet [(0, .callStatus 0 0 .idle)]
        have hreach : Reached (id :: ids) 0 := ⟨id, rfl, List.idxOf_cons_self⟩
        rw [received_cleanUp] at hquiet
        simp [hreach] at hquiet
  · rintro rfl
    have hnone : ∀ p, ¬ Reached [] p := by
      rintro p ⟨id, h, -⟩
      cases h
    refine ⟨fun evs h => ?_, fun m hm => (nomatch hm), fun evs => ?_⟩
    · cases evs with
      | nil => rfl
      | cons e evs => exact absurd (h e (.head _)) (Nat.not_lt_zero _)
    · rw [received_cleanUp]
      simp [hnone]

/-- One plug-in tells the application of the end of a call, after the loop of `CleanUp`. -/
theorem told_after_cleanUp : ¬ ObservesOnce [0x10000020] := fun h => by
  have hquiet := h.quiet [(0, .callStatus 0x10000020 1 .idle)]
  rw [received_cleanUp] at hquiet
  revert hquiet
  decide

end PluginLoader
end Cmon
